import Teale.Gateway.Authority
import Teale.Gateway.Deposits

/-!
# Treasury deposits and their memo

A payment to the treasury names its account in a memo. `deposit-intent` looks at no memo: it
credits the account of whoever claims the transaction at an address it pays.
-/

namespace Teale.Gateway

open Relational Transactional Option

variable {config : Config} {accountUserId : AccountUserId} {txSignature : String}
  {tx : RpcTransaction} {arrival : Arrival} {db : Db}

abbrev Chain := String → Option RpcTransaction

def Rpc.Shows (rpc : Rpc) (chain : Chain) : Prop :=
  ∀ txSignature tx, rpc.fetchTransaction txSignature = .ok (some tx) → chain txSignature = some tx

def CreditedTo (accountUserId : AccountUserId) (txSignature : String) (db : Db) : Prop :=
  ∀ row, db.deposits.find? txSignature = some row → row.accountUserId = accountUserId

/-- The arrival does not claim the transaction for another account at an address
the transaction pays. -/
def LeavesTo (config : Config) (accountUserId : AccountUserId)
    (txSignature : String) (tx : RpcTransaction) (db : Db) (arrival : Arrival) : Prop :=
  ∀ claimant address, arrival.claim db = some (txSignature, claimant, address) →
      claimant = accountUserId ∨ tx.microUsdcTo config.solana.usdcMint address ≤ 0

def MemoOnlyOf (accountUserId : AccountUserId) (tx : RpcTransaction) : Prop :=
  ∀ other, treasuryDepositMemo other ∈ tx.memos → other = accountUserId

theorem Entitled.depositAccount (entitled : Entitled config arrival before db call)
    (confirmed : chain txSignature = some tx) (shows : arrival.moment.rpc.Shows chain)
    (leaves : LeavesTo config accountUserId txSignature tx before arrival)
    (memo : MemoOnlyOf accountUserId tx) (named : call.depositSignature = some txSignature)
    (credits : call.depositAccount db = some other) : other = accountUserId := by
  cases call with
  | recordAccountOnchainDeposit requester req =>
    rcases entitled.grounds txSignature named with
      ⟨claimant, address, cents, shown, claims, linked, -, pays⟩
    have isClaimant : claimant = other := some.inj (linked.symm.trans credits)
    have isTx : shown = tx := some.inj ((shows _ _ pays.fetched).symm.trans confirmed)
    rcases leaves claimant address claims with own | unpaid
    · rw [← isClaimant, own]
    · have positive := pays.positive
      rw [isTx] at positive
      exact absurd positive (not_lt.mpr unpaid)
  | recordAccountTreasuryDeposit requester signature =>
    rcases entitled.grounds with
      ⟨-, -, claimant, shown, linked, carries, pays⟩
    have isSignature : signature = txSignature := some.inj named
    have isClaimant : claimant = other := some.inj (linked.symm.trans credits)
    have fetched := shows _ _ pays.fetched
    rw [isSignature] at fetched
    have isTx : shown = tx := some.inj (fetched.symm.trans confirmed)
    rw [isTx] at carries
    rw [← isClaimant]
    exact memo claimant carries
  | _ => exact nomatch named

theorem respond_creditedTo (confirmed : chain txSignature = some tx)
    (memo : MemoOnlyOf accountUserId tx) (shows : arrival.moment.rpc.Shows chain)
    (leaves : LeavesTo config accountUserId txSignature tx db arrival)
    (credited : CreditedTo accountUserId txSignature db) :
    CreditedTo accountUserId txSignature (respond config db arrival) := by
  refine respond_invariant (CreditedTo accountUserId txSignature) ?_ credited
  intro state call state' entitled kept executed row found
  by_cases resets : call = .resetGenesis
  · subst resets
    rcases map_eq_ok.mp executed with ⟨result, reset, rfl⟩
    simp only [resetGenesis, ok_iff] at reset
    rcases reset with ⟨_, -, rfl⟩
    cases found
  · cases signature : call.depositSignature with
    | none =>
      rw [execute_deposits_eq executed resets signature] at found
      exact kept row found
    | some named =>
      rcases execute_depositOutcome executed signature with
        ⟨claimant, cents, credits, -, outcome⟩
      cases outcome with
      | repeated _ _ _ same =>
        rw [same] at found
        exact kept row found
      | credited fresh account _ stored =>
        rw [stored, Table.find?_insertOrIgnore] at found
        by_cases same : txSignature = named
        · rw [if_pos same, fresh] at found
          rw [← same] at signature
          rw [← some.inj found, getD_none, account]
          exact entitled.depositAccount confirmed shows leaves memo signature credits
        · rw [if_neg same] at found
          exact kept row found

/-- In every run of arrivals none of which claims the transaction for another
account at an address the transaction pays, a transaction that carries no other
account's memo is credited to the account alone. -/
theorem creditedTo_runArrivals {config : Config} {chain : Chain} {accountUserId : AccountUserId}
    {txSignature : String} {tx : RpcTransaction} {start : Db} {arrivals : List Arrival}
    (confirmed : chain txSignature = some tx) (memo : MemoOnlyOf accountUserId tx)
    (initially : CreditedTo accountUserId txSignature start)
    (admissible : Admissible (fun db arrival => arrival.moment.rpc.Shows chain ∧
        LeavesTo config accountUserId txSignature tx db arrival) (respond config) start arrivals) :
    CreditedTo accountUserId txSignature (runArrivals config start arrivals) := by
  refine run_invariant (CreditedTo accountUserId txSignature) ?_ initially admissible
  intro db arrival ⟨shows, leaves⟩ credited
  exact respond_creditedTo confirmed memo shows leaves credited

/-! ## A payment with a memo, and who is credited -/

/-- One dollar from a payer to the treasury, with the memo of `alice`. -/
def paidDollar : RpcTransaction where
  txMeta := some
    { err := none
      preTokenBalances := some [⟨SolanaConfig.default.usdcMint, some "payer", ⟨"1000000", 6⟩⟩]
      postTokenBalances := some
        [⟨SolanaConfig.default.usdcMint, some "payer", ⟨"0", 6⟩⟩, ⟨SolanaConfig.default.usdcMint,
            some SolanaConfig.default.treasuryAddress, ⟨"1000000", 6⟩⟩] }
  message := some
    { accountKeys := some [some "payer"]
      instructions := some [⟨some memoProgramId, some "NJuap4r2sFt1LUHpEnNw2EMt8L"⟩] }

def dollarChain : Chain := fun txSignature =>
  if txSignature = "sig" then some paidDollar else none

def dollarMoment : Moment where
  now := 10
  rpc :=
    { fetchSignatureStatus := fun _ => .ok (some ⟨none, some "finalized"⟩)
      fetchTransaction := fun txSignature => .ok (dollarChain txSignature) }
  challengeDenied := false
  sendEmail := .ok ⟨⟩
  draw := fun _ => "id"

def plainConfig : Config where
  sha256 := id
  verifySignature := fun _ _ _ => .ok ⟨⟩
  tokens := [("operator", "admin")]
  shareKeyIssuers := []
  solana := .default

def twoAccounts : Db := runCalls id Db.empty [.upsertDevice "a" 0, .issueToken "a" "token-a" 0,
    .linkDeviceToAccount "a" "alice" {} 0, .upsertDevice "m" 0,
    .issueToken "m" "token-m" 0, .linkDeviceToAccount "m" "mallory" {} 0]

def reported : Arrival := ⟨⟨some "Bearer token-a", none⟩, .depositTreasury "sig", dollarMoment⟩

def claimedAt (address : String) : Arrival := ⟨⟨some "Bearer token-m", none⟩,
    .depositIntent { solanaAddress := some address, txSignature := some "sig" },
    dollarMoment⟩

theorem dollarMoment_shows : dollarMoment.rpc.Shows dollarChain := by
  intro txSignature tx fetched
  exact Except.ok.inj fetched

theorem paidDollar_memo : MemoOnlyOf "alice" paidDollar := by
  intro other carries
  have memos : paidDollar.memos = ["teale:deposit:" ++ "alice"] := by decide +kernel
  rw [memos, List.mem_singleton] at carries
  have texts := congrArg String.toList carries
  rw [treasuryDepositMemo, String.toList_append, String.toList_append] at texts
  exact String.toList_inj.mp (List.append_cancel_left texts)

theorem twoAccounts_creditedTo : CreditedTo "alice" "sig" twoAccounts := by
  intro row found
  have absent : (twoAccounts.deposits.find? "sig").isNone = true := by decide +kernel
  rw [found] at absent
  exact nomatch absent

theorem claimedAt_leavesTo : LeavesTo plainConfig "alice" "sig" paidDollar twoAccounts
      (claimedAt "elsewhere") := by
  intro claimant address claims
  have claimed : (claimedAt "elsewhere").claim twoAccounts =
      some ("sig", "mallory", "elsewhere") := by
    decide +kernel
  have unpaid : paidDollar.microUsdcTo plainConfig.solana.usdcMint "elsewhere" ≤ 0 := by
    decide +kernel
  rw [claimed] at claims
  cases some.inj claims
  exact .inr unpaid

theorem creditedTo_after_claim : (runArrivals plainConfig twoAccounts
        [claimedAt "elsewhere", reported]).creditsOf "alice" = 1000000 ∧
      CreditedTo "alice" "sig" (runArrivals plainConfig twoAccounts
        [claimedAt "elsewhere", reported]) := by
  have confirmed : dollarChain "sig" = some paidDollar := rfl
  have credited : (runArrivals plainConfig twoAccounts
      [claimedAt "elsewhere", reported]).creditsOf "alice" = 1000000 := by
    decide +kernel
  exact ⟨credited, creditedTo_runArrivals confirmed paidDollar_memo
    twoAccounts_creditedTo ⟨⟨dollarMoment_shows, claimedAt_leavesTo⟩,
      ⟨dollarMoment_shows, nofun⟩, trivial⟩⟩

/-- The payment carries the memo of `alice`; it is claimed at the treasury's own
address, and `alice` comes too late. -/
theorem treasury_deposit_misdirected : treasuryDepositMemo "alice" ∈ paidDollar.memos ∧
      0 < paidDollar.microUsdcTo plainConfig.solana.usdcMint plainConfig.solana.treasuryAddress ∧
      (runArrivals plainConfig twoAccounts [claimedAt plainConfig.solana.treasuryAddress,
          reported]).creditsOf "mallory" = 1000000 ∧ (runArrivals plainConfig twoAccounts
        [claimedAt plainConfig.solana.treasuryAddress, reported]).creditsOf "alice" = 0 := by
  decide +kernel

end Teale.Gateway
