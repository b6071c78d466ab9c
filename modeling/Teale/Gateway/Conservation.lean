import Teale.Gateway.Books.Refinement

/-!
# Credit conservation

Settlements, transfers, sweeps and share-key operations only move credits; everything else brings
them in or takes them out by exactly the amount of the call.
-/

namespace Teale.Gateway

open Relational Transactional Bookkeeping List

variable {entries : List Entry} {db : Db}

def totalCredits (db : Db) : ℤ := db.balances.sum (fun _ row => row.balance) +
    db.accountWallets.sum (fun _ row => row.balanceCredits) +
    db.providerWallets.sum (fun _ row => row.balanceCredits) +
    db.contributions.sum (fun _ row => row.remainingCredits)

theorem weigh_creditWeight (db : Db) : weigh creditWeight (books db) = totalCredits db := by
  simp [weigh_books, totalCredits, creditWeight]

/-! ## The flow of a call -/

def welcomeFlow (hasBonus : Bool) : ℤ :=
  if hasBonus then 0 else welcomeBonusCredits

def referralFlow (code : Option String) : ℤ :=
  if (normalizedOptionalString code).isSome then 2 * referralBonusCredits else 0

def depositFlow (db : Db) (txSignature : String) (cents : ℤ) : ℤ :=
  if (db.deposits.find? txSignature).isSome then 0 else cents * creditsPerUsdcCent

/-- The credits a successful call brings into the system. A settlement without
a provider keeps the provider's share from everyone, the backfill enters pools
that were funded before contributions were kept, and a reset deletes every
wallet; no flow is stated for these three. -/
def creditFlow (db : Db) : Call → Option ℤ
  | .settleRequest _ (some _) _ _ _ _ _ => some 0
  | .settleProviderRequest _ _ _ _ _ _ => some 0
  | .transferFromDeviceWallet _ _ _ _ _ => some 0
  | .transferFromAccountWallet _ _ _ _ _ => some 0
  | .transferFromAccountWalletForAccount _ _ _ _ _ _ => some 0
  | .sweepDeviceToAccount _ _ _ => some 0
  | .mintShareKey _ _ _ _ _ _ => some 0
  | .transferToShareKey _ _ _ _ _ => some 0
  | .revokeShareKey _ _ _ => some 0
  | .refundExpiredShareKeys _ => some 0
  | .migrateUnfundedShareKeys _ _ => some 0
  | .recordBonus _ amount _ => some amount
  | .recordAccountBonus _ amount _ _ _ => some amount
  | .adminMint _ amount _ _ => some amount
  | .applyDeviceJoinRewards deviceId code _ _ =>
    some (welcomeFlow (db.deviceHasBonus deviceId) + referralFlow code)
  | .applyAccountJoinRewards _ accountUserId code _ _ =>
    some (welcomeFlow (db.accountHasBonus accountUserId) + referralFlow code)
  | .reconcileAvailabilitySessions recipients _ =>
    some (if dripSkipped db recipients then 0
      else (recipients.map DripRecipient.credits).sum)
  | .recordAccountOnchainDeposit _ req _ _ =>
    some (match normalizedOptionalString req.txSignature with
      | none => 0
      | some txSignature => depositFlow db txSignature (req.amountUsdcCents.getD 0))
  | .recordAccountTreasuryDeposit _ txSignature cents _ _ _ _ =>
    some (depositFlow db txSignature cents)
  | .submitAccountWithdrawal _ req _ _ =>
    some (match (normalizedOptionalString (some req.requestId)).bind db.withdrawals.find? with
      | some _ => 0
      | none => -(req.amountUsdcCents * creditsPerUsdcCent))
  | .completeAccountWithdrawalFromTreasury _ _ _ => some 0
  | .rejectAccountWithdrawal requestId _ _ =>
    some (((db.withdrawals.find? requestId).map WithdrawalRow.amountCredits).getD 0)
  | .recordProviderPayout _ amount _ _ => some (-amount)
  | .settleRequest _ none _ _ _ _ _ => none
  | .backfillFundedShareKeyContributions _ _ => none
  | .resetGenesis => none
  | _ => some 0

def totalFlow (entries : List Entry) : ℤ := (entries.map Entry.flow).sum

theorem totalFlow_append (first second : List Entry) :
    totalFlow (first ++ second) = totalFlow first + totalFlow second := by
  simp [totalFlow]

theorem totalFlow_eq_zero (each : ∀ entry ∈ entries, entry.flow = 0) : totalFlow entries = 0 := by
  refine sum_eq_zero ?_
  simp only [mem_map, forall_exists_index, and_imp]
  rintro _ entry member rfl
  exact each entry member

theorem totalFlow_of_shape {α β γ : Type} {shape : α → β → γ → Entry}
    (shaped : ∀ entry ∈ entries, ∃ first second third, entry = shape first second third)
    (flat : ∀ first second third, (shape first second third).flow = 0) :
    totalFlow entries = 0 := by
  refine totalFlow_eq_zero fun entry member => ?_
  obtain ⟨first, second, third, rfl⟩ := shaped entry member
  exact flat first second third

theorem totalFlow_welcomeEntries (owner : Wallet) (hasBonus : Bool) :
    totalFlow (welcomeEntries owner hasBonus) = welcomeFlow hasBonus := by
  cases hasBonus <;> simp [totalFlow, welcomeEntries, welcomeFlow, Entry.flow]

theorem totalFlow_referralEntries (referrer owner : Wallet) (code : Option String) :
    totalFlow (referralEntries referrer owner code) = referralFlow code := by
  unfold referralEntries referralFlow
  cases normalizedOptionalString code <;> simp [totalFlow, Entry.flow, two_mul]

theorem totalFlow_depositEntries (db : Db) (account : AccountUserId) (txSignature : String)
    (cents : ℤ) : totalFlow (depositEntries db account txSignature cents) =
      depositFlow db txSignature cents := by
  unfold depositEntries depositFlow
  split <;> simp [totalFlow, Entry.flow]

theorem flow_chargeEntry (consumer : ConsumerPrincipal) (funded : Bool) (amount : ℤ)
    (earnings : List (Earner × ℤ)) : (chargeEntry consumer funded amount earnings).flow =
      earned earnings - amount := by
  cases consumer with
  | device payer => rfl
  | account accountUserId apiKeyId => rfl
  | share issuer keyId =>
    simp only [chargeEntry]
    split <;> rfl

theorem totalFlow_settleRecords {consumer : ConsumerPrincipal} {cost : ℤ}
    {earnings : ℤ → List (Earner × ℤ) → Prop}
    (records : SettleRecords db consumer cost earnings entries)
    (divides : ∀ amount shares, 0 ≤ amount → earnings amount shares → earned shares = amount) :
    totalFlow entries = 0 := by
  rcases records with ⟨-, rfl⟩ | ⟨-, amount, shares, nonneg, divided, -, rfl⟩
  · rfl
  · have whole := divides amount shares nonneg divided
    simp [totalFlow, flow_chargeEntry, whole]

theorem totalFlow_tickEntries (db : Db) (recipients : List DripRecipient) :
    totalFlow (tickEntries db recipients) =
      if dripSkipped db recipients then 0
      else (recipients.map DripRecipient.credits).sum := by
  have ended : totalFlow ((endedSessions db recipients).map sessionEntry) = 0 := by
    refine totalFlow_eq_zero fun entry member => ?_
    obtain ⟨session, -, rfl⟩ := mem_map.mp member
    unfold sessionEntry
    split <;> rfl
  rw [tickEntries, totalFlow_append, ended, zero_add]
  split
  · rfl
  · simp [totalFlow, Entry.flow, Function.comp_def]

theorem totalFlow_records {call : Call} {flow : ℤ} (records : Records db entries call)
    (isFlow : creditFlow db call = some flow) : totalFlow entries = flow := by
  cases call with
  | settleRequest consumer provider online cost requestId model now =>
    cases provider with
    | none => cases isFlow
    | some provider =>
      cases isFlow
      refine totalFlow_settleRecords records ?_
      rintro amount _ nonneg ⟨recipients, rfl⟩
      exact earned_fleetEarnings provider recipients nonneg
  | settleProviderRequest consumer providerId =>
    cases isFlow
    refine totalFlow_settleRecords records ?_
    rintro amount _ - rfl
    exact earned_providerEarnings providerId amount
  | transferFromDeviceWallet | transferFromAccountWallet
  | transferFromAccountWalletForAccount | sweepDeviceToAccount | mintShareKey
  | transferToShareKey | migrateUnfundedShareKeys | revokeShareKey | refundExpiredShareKeys =>
    cases isFlow
    exact totalFlow_of_shape records fun _ _ _ => rfl
  | applyDeviceJoinRewards | applyAccountJoinRewards =>
    obtain ⟨referrer, rfl⟩ := records
    cases isFlow
    rw [totalFlow_append, totalFlow_welcomeEntries, totalFlow_referralEntries]
  | reconcileAvailabilitySessions recipients =>
    cases isFlow
    obtain rfl : entries = tickEntries db recipients := records
    exact totalFlow_tickEntries db recipients
  | recordAccountOnchainDeposit requester req =>
    obtain ⟨account, rfl⟩ := records
    cases isFlow
    cases normalizedOptionalString req.txSignature with
    | none => rfl
    | some txSignature => exact totalFlow_depositEntries db _ _ _
  | recordAccountTreasuryDeposit =>
    obtain ⟨account, rfl⟩ := records
    cases isFlow
    exact totalFlow_depositEntries db _ _ _
  | submitAccountWithdrawal requester req =>
    obtain ⟨requestId, account, named, outcome⟩ := records
    cases isFlow
    rw [named, Option.bind_some]
    cases found : db.withdrawals.find? requestId with
    | some row =>
      rw [found] at outcome
      rcases outcome with ⟨rfl, -⟩ | ⟨rfl, -⟩ <;> rfl
    | none =>
      rw [found] at outcome
      rcases outcome with rfl | rfl <;> simp [totalFlow, Entry.flow]
  | completeAccountWithdrawalFromTreasury =>
    obtain ⟨row, -, rfl⟩ := records
    cases isFlow
    split <;> rfl
  | rejectAccountWithdrawal =>
    obtain ⟨row, found, rfl⟩ := records
    cases isFlow
    simp [totalFlow, Entry.flow, found]
  | recordBonus | recordAccountBonus | recordProviderPayout =>
    obtain rfl := records
    cases isFlow
    simp [totalFlow, Entry.flow]
  | adminMint =>
    obtain ⟨-, rfl⟩ := records
    cases isFlow
    simp [totalFlow, Entry.flow]
  | backfillFundedShareKeyContributions | resetGenesis =>
    cases isFlow
  | _ =>
    cases isFlow
    obtain rfl : entries = [] := records
    rfl

theorem totalCredits_posts (posted : Posts db entries db') :
    totalCredits db' = totalCredits db + totalFlow entries := by
  have read := posted.weigh_eq creditWeight
  rw [weigh_creditWeight, weigh_creditWeight] at read
  have flows : (entries.map fun entry =>
      (rules.journal entry).total creditWeight) = entries.map Entry.flow :=
    map_congr_left fun entry _ => entry.total_creditWeight
  rw [read, flows, totalFlow]

/-- Credit conservation: in every state of the ledger, a call that returns
changes the credits of the system by its flow. The ten moving operations have
flow zero, whoever pays, serves and is online. -/
theorem totalCredits_execute {sha256 : String → String} {db db' : Db} {call : Call} {flow : ℤ}
    (returned : execute sha256 db call = .ok db') (isFlow : creditFlow db call = some flow) :
    totalCredits db' = totalCredits db + flow := by
  have keeps : call ≠ .resetGenesis := by
    rintro rfl
    cases isFlow
  obtain ⟨entries, records, posted⟩ := execute_explained returned keeps
  rw [totalCredits_posts posted, totalFlow_records records isFlow]

/-- A device pays for a request it serves itself, with the operations device
and a peer listed twice among those online. -/
theorem totalCredits_settle_self :
    ∃ db', execute id (runCalls id Db.empty [.adminMint "alice" 1000 "seed" 0])
        (.settleRequest (.device "alice") (some "alice")
          ["alice", "bob", "bob", "__ops__"] 101 "r1" "m" 1) = .ok db' ∧ totalCredits db' =
        totalCredits (runCalls id Db.empty [.adminMint "alice" 1000 "seed" 0]) + 0 :=
  ⟨_, rfl, @totalCredits_execute id _ _ (.settleRequest (.device "alice")
    (some "alice") ["alice", "bob", "bob", "__ops__"] 101 "r1" "m" 1) 0 rfl rfl⟩

end Teale.Gateway
