import Teale.Gateway.Solana

/-!
# On-chain amounts

What the verifications read off a transaction is exact as long as the net
amounts fit `i128`; the partial sums may wrap around and come back.
-/

namespace Teale.Gateway

open Transactional List

variable {deltas : OwnerDeltas} {usdcMint owner : String} {pre post : List RpcTokenBalance}

/-- What a balance adds to an owner. -/
def RpcTokenBalance.heldBy (usdcMint owner : String) (balance : RpcTokenBalance) : ℤ :=
  if normalizedOptionalString balance.owner = some owner ∧ balance.mint = usdcMint then
    (parseTokenAmount balance).toOption.getD 0
  else 0

/-- The sum of an owner's amounts after a transaction less the sum before it. -/
def netMicroUsdc (pre post : List RpcTokenBalance) (usdcMint owner : String) : ℤ :=
  (post.map (·.heldBy usdcMint owner)).sum - (pre.map (·.heldBy usdcMint owner)).sum

theorem OwnerDeltas.of_add (deltas : OwnerDeltas) (owner other : String) (amount : ℤ) :
    (deltas.add owner amount).of other =
      if owner = other then wrapI128 (deltas.of other + amount) else deltas.of other := by
  unfold add
  split
  · have sameKey : ∀ entry : String × ℤ, decide ((if entry.1 = owner then
        (owner, wrapI128 (entry.2 + amount)) else entry).1 = other) = decide (entry.1 = other) := by
      grind
    simp only [of, find?_map, Function.comp_def, sameKey]
    cases found : deltas.find? fun entry => entry.1 = other <;> grind
  · simp only [of, find?_append]
    grind

theorem wrapI128_eq_self_iff : wrapI128 value = value ↔ -2 ^ 127 ≤ value ∧ value < 2 ^ 127 := by
  simp only [wrapI128, Int.bmod_def]
  omega

/-- Both loops as one, over signed balances. -/
def countItem (usdcMint : String) (deltas : OwnerDeltas) (item : ℤ × RpcTokenBalance) :
    Except DepositVerificationError OwnerDeltas :=
  countBalance usdcMint item.1 deltas item.2

theorem aggregateOwnerDeltas_eq : aggregateOwnerDeltas pre post usdcMint =
    (pre.map (-1, ·) ++ post.map (1, ·)).foldlM (countItem usdcMint) [] := by
  rw [foldlM_append, foldlM_map, aggregateOwnerDeltas]
  congr 1
  funext deltas
  rw [foldlM_map]
  rfl

/-- The balance can be counted. -/
def RpcTokenBalance.counts (usdcMint : String) (balance : RpcTokenBalance) : Bool :=
  (countItem usdcMint [] (1, balance)).isOk

theorem countItem_of {total : ℤ} (usdcMint : String) (item : ℤ × RpcTokenBalance)
    (reads : deltas.of owner = wrapI128 total) :
    (countItem usdcMint deltas item).toOption.map (·.of owner) =
      if item.2.counts usdcMint then
        some (wrapI128 (total + item.1 * item.2.heldBy usdcMint owner))
      else none := by
  simp only [RpcTokenBalance.counts, RpcTokenBalance.heldBy, countItem, countBalance]
  split
  · simp_all [Except.toOption, Except.isOk, Except.toBool]
  · split
    · simp_all [Except.toOption, Except.isOk, Except.toBool]
    · cases parsed : parseTokenAmount item.2 with
      | error => rfl
      | ok amount =>
        rename_i holder _ _
        have added := deltas.of_add holder owner (item.1 * amount)
        by_cases isOwner : holder = owner <;>
          simp_all [Except.toOption, Except.isOk, Except.toBool, wrapI128]

theorem foldlM_countItem_of {items : List (ℤ × RpcTokenBalance)} {total : ℤ}
    (reads : deltas.of owner = wrapI128 total) :
    (items.foldlM (countItem usdcMint) deltas).toOption.map (·.of owner) =
      if items.all (·.2.counts usdcMint) then
        some (wrapI128 (total + (items.map fun item => item.1 * item.2.heldBy usdcMint owner).sum))
      else none := by
  induction items generalizing deltas total with
  | nil => exact congrArg some (by simpa using reads)
  | cons head tail ih =>
    have counted := countItem_of usdcMint head reads
    rw [foldlM_cons, all_cons, map_cons, sum_cons, ← add_assoc]
    cases ran : countItem usdcMint deltas head with
    | error failure =>
      rw [ran] at counted
      split at counted
      · cases counted
      · rw [if_neg (by simp [*])]
        rfl
    | ok middle =>
      rw [ran] at counted
      split at counted
      · simp only [*, Bool.true_and]
        exact ih (Option.some.inj counted)
      · cases counted

theorem aggregateOwnerDeltas_of (pre post : List RpcTokenBalance) (usdcMint owner : String) :
    (aggregateOwnerDeltas pre post usdcMint).toOption.map (·.of owner) =
      if (pre ++ post).all (·.counts usdcMint) then
        some (wrapI128 (netMicroUsdc pre post usdcMint owner))
      else none := by
  have zero : OwnerDeltas.of [] owner = wrapI128 0 := rfl
  rw [aggregateOwnerDeltas_eq, foldlM_countItem_of zero, netMicroUsdc]
  simp [Function.comp_def, sub_eq_neg_add, sum_neg]

theorem aggregateOwnerDeltas_perm (before : pre.Perm pre') (after : post.Perm post')
    (owner : String) : (aggregateOwnerDeltas pre' post' usdcMint).toOption.map (·.of owner) =
      (aggregateOwnerDeltas pre post usdcMint).toOption.map (·.of owner) := by
  rw [aggregateOwnerDeltas_of, aggregateOwnerDeltas_of, netMicroUsdc, netMicroUsdc,
    (before.append after).all_eq, (before.map _).sum_eq, (after.map _).sum_eq]

/-! ## What is verified -/

/-- The transaction shows the balances. -/
def RpcTransaction.Shows (tx : RpcTransaction) (pre post : List RpcTokenBalance) : Prop :=
  ∃ txMeta, tx.txMeta = some txMeta ∧ txMeta.preTokenBalances.getD [] = pre ∧
    txMeta.postTokenBalances.getD [] = post

/-- The deltas are the net amounts, in any order of the balances, and what is
verified of a transaction is what it pays. -/
structure Exact (pre post : List RpcTokenBalance) (usdcMint : String) (deltas : OwnerDeltas) :
    Prop where
  sums : ∀ owner, deltas.of owner = netMicroUsdc pre post usdcMint owner
  reordered : ∀ pre' post', pre.Perm pre' → post.Perm post' → ∀ owner,
    (aggregateOwnerDeltas pre' post' usdcMint).toOption.map (·.of owner) = some (deltas.of owner)
  deposit : ∀ tx destination requested source verified, tx.Shows pre post →
    extractVerifiedDeposit tx destination usdcMint requested source = .ok verified →
    netMicroUsdc pre post usdcMint destination = verified.amountUsdcCents * microUsdcPerCent
  withdrawal : ∀ tx source destination cents treasury feeBps verified, tx.Shows pre post →
    extractVerifiedWithdrawal tx source destination cents usdcMint treasury feeBps = .ok verified →
    let gross := cents * microUsdcPerCent
    let fee := withdrawalFeeMicroUsdc gross feeBps
    netMicroUsdc pre post usdcMint source = -gross ∧
      netMicroUsdc pre post usdcMint destination = gross - fee ∧
      netMicroUsdc pre post usdcMint treasury = fee

/-- The amounts are exact if and only if every owner's net amount fits `i128`. -/
theorem amounts_exact_iff (pre post : List RpcTokenBalance) (usdcMint : String) :
    match aggregateOwnerDeltas pre post usdcMint with
    | .ok deltas => Exact pre post usdcMint deltas ↔
        ∀ owner, -2 ^ 127 ≤ netMicroUsdc pre post usdcMint owner ∧
          netMicroUsdc pre post usdcMint owner < 2 ^ 127
    | .error _ => True := by
  split
  · rename_i deltas counted
    have reads : ∀ owner, deltas.of owner = wrapI128 (netMicroUsdc pre post usdcMint owner) := by
      intro owner
      have aggregated := aggregateOwnerDeltas_of pre post usdcMint owner
      rw [counted] at aggregated
      split at aggregated
      · exact Option.some.inj aggregated
      · cases aggregated
    simp only [← wrapI128_eq_self_iff, ← reads]
    refine ⟨Exact.sums, fun sums => ⟨sums, fun _ _ before after owner => ?_, ?_, ?_⟩⟩
    · rw [aggregateOwnerDeltas_perm before after, counted]
      rfl
    · rintro tx destination requested source verified ⟨txMeta, hasMeta, rfl, rfl⟩ extracted
      have pays := (extractVerifiedDeposit_pays extracted).2
      simp only [RpcTransaction.microUsdcTo, hasMeta, RpcTransactionMeta.deltas, counted] at pays
      rw [pays, sums]
    · rintro tx source destination cents treasury feeBps verified ⟨txMeta, hasMeta, rfl, rfl⟩
        extracted
      simp only [← sums]
      clear sums reads
      simp only [extractVerifiedWithdrawal, ok_iff, hasMeta, mapError_eq_ok] at extracted
      obtain ⟨_, ⟨⟩, -, _, same, -, _, -, -, extracted⟩ := extracted
      cases counted.symm.trans same
      split_ifs at extracted <;> simp_all [ok_iff, ← neg_eq_iff_eq_neg]
  · trivial

/-- Two accounts of one owner, each as full as `i128` allows. -/
theorem full_accounts_wrap :
    let full : RpcTokenBalance :=
      { mint := "USDC", owner := some "o"
        uiTokenAmount := { amount := "170141183460469231731687303715884105727", decimals := 6 } }
    aggregateOwnerDeltas [] [full, full] "USDC" = .ok [("o", -2)] ∧
      ¬Exact [] [full, full] "USDC" [("o", -2)] := by
  refine ⟨by decide +kernel, fun exact => ?_⟩
  exact absurd (exact.sums "o") (by decide +kernel)

end Teale.Gateway
