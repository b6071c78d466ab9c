import Teale.Gateway.Conservation
import Teale.Gateway.Pools.View

/-!
# The solvency report

`GET /v1/solvency` leaves out the pools of share keys, provider wallets and `__ops__`, so the
report changes exactly when credits cross between what it counts and what it leaves out.
-/

namespace Teale.Gateway

open Relational Transactional Bookkeeping List Db

variable {db db' : Db} {earnings : List (Earner × ℤ)} {keyId : KeyId} {consumer : ConsumerPrincipal}

structure SolvencyLiabilities where
  deviceCredits : ℤ
  accountCredits : ℤ
  pendingWithdrawalUsdcCents : ℤ
  deriving DecidableEq, Repr

def solvencyLiabilities (db : Db) : SolvencyLiabilities where
  deviceCredits := db.balances.sum fun deviceId row =>
    if deviceId ≠ opsDevice then row.balance else 0
  accountCredits := db.accountWallets.sum fun _ row => row.balanceCredits
  pendingWithdrawalUsdcCents := db.withdrawals.sum fun _ row =>
    if row.status = .pending then row.amountUsdcCents else 0

/-- `total_liabilities_micro` of the solvency endpoint. -/
def totalLiabilities (db : Db) : ℤ :=
  let liabilities := solvencyLiabilities db
  liabilities.deviceCredits + liabilities.accountCredits +
    liabilities.pendingWithdrawalUsdcCents * 10000

/-! ## The report as a reading of the books -/

def liabilityWeight : Book → ℤ
  | .wallet (.device deviceId) => if deviceId ≠ opsDevice then 1 else 0
  | .wallet (.account _) => 1
  | .pending _ => 10000
  | .rows _ | .session _ | .provider _ | .pool _ | .usdc _ | .deposited _
  | .withdrawn _ | .depositRows _ | .submitted _ => 0

theorem weigh_liabilityWeight (db : Db) :
    weigh liabilityWeight (books db) = totalLiabilities db := by
  simp [weigh_books, totalLiabilities, solvencyLiabilities, liabilityWeight, ← Table.sum_mul]

theorem totalLiabilities_of_posts (posted : Posts db entries db')
    (each : ∀ entry ∈ entries, entry.journal.total liabilityWeight = 0) :
    totalLiabilities db' = totalLiabilities db := by
  rw [← weigh_liabilityWeight, ← weigh_liabilityWeight]
  exact posted.weigh_unchanged liabilityWeight each

theorem total_move (amount : ℤ) (payerCounts : payer ≠ .device opsDevice)
    (payeeCounts : payee ≠ .device opsDevice) :
    (Entry.move payer payee amount).journal.total liabilityWeight = 0 := by
  have counted : ∀ owner : Wallet, owner ≠ .device opsDevice →
      liabilityWeight (.wallet owner) = 1 := by
    intro owner counts
    cases owner with
    | device deviceId => exact if_pos fun same => counts (congrArg Wallet.device same)
    | account accountUserId => rfl
  rw [Entry.journal, Journal.total_append, Wallet.total_credit,
    Wallet.total_credit, counted payer payerCounts, counted payee payeeCounts]
  simp [liabilityWeight]

/-! ## Settlements that charge nothing -/

theorem total_creditAll_of_zero (weight : Book → ℤ)
    (nothing : ∀ earning ∈ earnings, earning.2 = 0) : (creditAll earnings).total weight = 0 := by
  induction earnings with
  | nil => rfl
  | cons earning rest ih =>
    obtain ⟨earner, amount⟩ := earning
    obtain rfl : amount = 0 := nothing (earner, amount) mem_cons_self
    have first : (earner.credit 0).total weight = 0 := by
      cases earner <;> simp [Earner.credit]
    have others := ih (forall_mem_cons.mp nothing).2
    rw [creditAll, flatMap_cons, Journal.total_append, first, zero_add]
    exact others

def ConsumerPrincipal.IsBroke (db : Db) : ConsumerPrincipal → Prop
  | .device deviceId => db.balanceOf deviceId ≤ 0
  | .account accountUserId _ => db.creditsOf accountUserId ≤ 0
  | .share issuerDeviceId keyId =>
    if shareFunded db keyId then sumShareKeyContributions db keyId ≤ 0
    else db.balanceOf issuerDeviceId ≤ 0

theorem amount_eq_zero_of_isBroke (broke : consumer.IsBroke db) (nonneg : 0 ≤ amount)
    (covered : consumer.funded db = true → amount ≤ consumer.pool db)
    (allowed : (chargeEntry consumer (consumer.funded db) amount earnings).Allowed (books db)) :
    amount = 0 := by
  refine le_antisymm (not_lt.mp fun charged => ?_) nonneg
  have unpaid : ∀ payer : Wallet, (Entry.charge payer amount earnings).Allowed (books db) →
      ¬ books db (.wallet payer) ≤ 0 := by
    intro payer allowed poor
    have payable : amount ≤ books db (.wallet payer) := allowed.2.1 charged
    omega
  cases consumer with
  | device deviceId =>
    refine unpaid (.device deviceId) allowed ?_
    rwa [books_device]
  | account accountUserId apiKeyId =>
    refine unpaid (.account accountUserId) allowed ?_
    rwa [books_account]
  | share issuer keyId =>
    rw [ConsumerPrincipal.IsBroke] at broke
    by_cases funded : shareFunded db keyId = true
    · rw [if_pos funded] at broke
      have payable : amount ≤ sumShareKeyContributions db keyId := covered funded
      omega
    · rw [if_neg funded, ← books_device] at broke
      have isCharge : chargeEntry (.share issuer keyId)
          (ConsumerPrincipal.funded db (.share issuer keyId)) amount earnings =
            .charge (.device issuer) amount earnings :=
        if_neg fun both => funded both.1
      rw [isCharge] at allowed
      exact unpaid (.device issuer) allowed broke

theorem fleetEarnings_zero (provider : Option DeviceId) (recipients : List DeviceId) :
    ∀ earning ∈ fleetEarnings provider recipients 0, earning.2 = 0 := by
  have split : splitCharge 0 recipients = ⟨0, 0, 0⟩ := by simp [splitCharge]
  intro earning member
  simp only [fleetEarnings, split, mem_append, mem_map, mem_singleton] at member
  rcases member with (⟨_, _, rfl⟩ | ⟨_, _, rfl⟩) | rfl <;> rfl

theorem providerEarnings_zero (providerId : ProviderId) :
    ∀ earning ∈ providerEarnings providerId 0, earning.2 = 0 := by
  intro earning member
  simp only [providerEarnings, mem_cons, not_mem_nil, or_false] at member
  rcases member with rfl | rfl <;> rfl

theorem totalLiabilities_settle {earnings : ℤ → List (Earner × ℤ) → Prop}
    (zeroEarnings : ∀ shares, earnings 0 shares → ∀ earning ∈ shares, earning.2 = 0)
    (free : cost ≤ 0 ∨ consumer.IsBroke db)
    (records : SettleRecords db consumer cost earnings entries) (posted : Posts db entries db') :
    totalLiabilities db' = totalLiabilities db := by
  rcases records with ⟨-, rfl⟩ | ⟨positive, amount, shares, nonneg, isEarnings, covered, rfl⟩
  · exact totalLiabilities_of_posts posted (by simp)
  · have broke := free.resolve_left (not_le.mpr positive)
    obtain rfl : amount = 0 := by
      cases posted with
      | cons allowed _ => exact amount_eq_zero_of_isBroke broke nonneg covered allowed
    refine totalLiabilities_of_posts posted ?_
    intro entry member
    rw [mem_singleton.mp member]
    have earned := total_creditAll_of_zero liabilityWeight (zeroEarnings shares isEarnings)
    cases consumer <;> simp [chargeEntry, Entry.journal, earned]

/-! ## Refunds of empty pools -/

section

variable (empty : sumShareKeyContributions db keyId = 0)

include empty

theorem refundEntries_of_empty (condition : ContributionRow → Bool) :
    refundEntries keyId (db.contributionsOf keyId condition) = [] := by
  have nothing : ∀ row ∈ db.contributionsOf keyId condition, ¬ 0 < row.2.remainingCredits := by
    intro row member
    obtain ⟨found, sameKey, -⟩ := mem_contributionsOf.mp member
    have bounded := remainingCredits_le_sumShareKeyContributions found sameKey
    rw [empty] at bounded
    exact not_lt.mpr bounded
  rw [refundEntries, map_eq_nil_iff, filter_eq_nil_iff]
  simpa using nothing

theorem books_refund_of_empty (settledAt : Timestamp) (reason : RefundReason) :
    books (refundShareKeyContributionsTx db keyId settledAt reason).1 = books db := by
  have posted := refundShareKeyContributionsTx_posts db keyId settledAt reason
  rw [refundEntries_of_empty empty] at posted
  exact posted.eq_of_nil

theorem books_revokeShareKey_of_empty (issuer : DeviceId) (now : Timestamp) :
    books (revokeShareKey db issuer keyId now).1 = books db := by
  unfold revokeShareKey
  split
  · rfl
  · split
    · refine (books_updateShareKey ..).trans ?_
      rw [books_refund_of_empty (by exact empty), books_updateShareKey]
    · exact books_updateShareKey _ _ _

end

theorem books_refundExpiredShareKeys_of_empty
    (empty : ∀ keyId ∈ expiredShareKeys db now, sumShareKeyContributions db keyId = 0) :
    books (refundExpiredShareKeys db now).1 = books db := by
  -- as long as the books are unchanged, the pools still to come are empty
  refine foldl_preserves (fun state : Db × ExpiredShareKeyRefundReport =>
    books state.1 = books db) ?_ rfl
  intro state keyId member same
  have stillEmpty : sumShareKeyContributions state.1 keyId = 0 := by
    rw [← books_pool, same, books_pool, empty keyId member]
  refine (books_updateShareKey ..).trans ?_
  rw [books_refund_of_empty stillEmpty, same]

/-! ## Moves the report does not see -/

def Call.isInternalMove : Call → Bool
  | .mintShareKey .. | .transferToShareKey .. | .revokeShareKey ..
  | .refundExpiredShareKeys .. | .transferFromDeviceWallet ..
  | .transferFromAccountWallet .. | .transferFromAccountWalletForAccount ..
  | .sweepDeviceToAccount .. | .settleRequest .. | .settleProviderRequest .. => true
  | _ => false

def PaysNotOps (db : Db) (rawRecipient : String) : Prop :=
  resolveTransferTargetTx db rawRecipient ≠ .ok (.device opsDevice)

/-- The call takes no credits across the boundary of the report: it is a
transfer or a sweep without the operations device, the pool it gives back is
empty, or the consumer has nothing to pay with. Funding a pool always
crosses. -/
def StaysCounted (db : Db) : Call → Prop
  | .mintShareKey .. | .transferToShareKey .. => False
  | .revokeShareKey _ keyId _ => sumShareKeyContributions db keyId = 0
  | .refundExpiredShareKeys now => ∀ keyId ∈ expiredShareKeys db now,
      sumShareKeyContributions db keyId = 0
  | .transferFromDeviceWallet sender recipient _ _ _ => sender ≠ opsDevice ∧ PaysNotOps db recipient
  | .transferFromAccountWallet _ recipient _ _ _ => PaysNotOps db recipient
  | .transferFromAccountWalletForAccount _ recipient _ _ _ _ => PaysNotOps db recipient
  | .sweepDeviceToAccount _ target _ => target ≠ opsDevice
  | .settleRequest consumer _ _ cost _ _ _ => cost ≤ 0 ∨ consumer.IsBroke db
  | .settleProviderRequest consumer _ cost _ _ _ => cost ≤ 0 ∨ consumer.IsBroke db
  | _ => True

theorem wallet_ne_ops (paysOther : PaysNotOps db rawRecipient)
    (resolved : resolveTransferTargetTx db rawRecipient = .ok recipient) :
    recipient.wallet ≠ .device opsDevice := by
  cases recipient with
  | device deviceId =>
    intro isOps
    obtain rfl : deviceId = opsDevice := Wallet.device.inj isOps
    exact paysOther resolved
  | account => exact nofun

theorem totalLiabilities_of_move (posted : Posts db [.move payer payee amount] db')
    (payerCounts : payer ≠ .device opsDevice) (payeeCounts : payee ≠ .device opsDevice) :
    totalLiabilities db' = totalLiabilities db := by
  refine totalLiabilities_of_posts posted ?_
  intro entry member
  rw [mem_singleton.mp member]
  exact total_move amount payerCounts payeeCounts

theorem totalLiabilities_of_books_eq (same : books db' = books db) :
    totalLiabilities db' = totalLiabilities db := by
  rw [← weigh_liabilityWeight, same, weigh_liabilityWeight]

def fundedWallets : List Call := [.adminMint "alice" 1000 "seed" 0, .upsertDevice "bob" 0]

end Teale.Gateway
