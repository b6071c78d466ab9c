import Teale.Gateway.Books.Onchain
import Teale.Gateway.Books.ShareKeys

/-!
# What settlements and drips post

A settled request charges its consumer once, and what it charged is divided
among the earners without remainder.
-/

namespace Teale.Gateway

open Relational Transactional Bookkeeping List Relational.Table Finsupp Db Wallet Entry

open Finsupp (single)

variable {amount effectiveCost cost : ℤ} {db db' : Db}
  {accountUserId : AccountUserId} {consumer : ConsumerPrincipal}
  {requestId model : String} {now : Timestamp} {providerId : ProviderId} (receipt : Receipt)
  (provider : Option DeviceId) (recipients : List DeviceId)

/-! ## Earnings -/

theorem books_creditEarning (db : Db) (receipt : Receipt) (deviceId : DeviceId) (type : LedgerType)
    (nonneg : 0 ≤ amount) : books (creditEarning db receipt deviceId type amount) =
      books db + post ((Earner.device deviceId).credit amount) := by
  unfold creditEarning
  split
  · rw [books_creditBalance _ _ _ _ _ (find?_ensureBalance_self _ _),
      books_ensureBalance, Earner.credit]
  · have zero : amount = 0 := by omega
    simp [zero, Earner.credit, credit]

theorem splitCharge_spec (nonneg : 0 ≤ effectiveCost) (recipients : List DeviceId) :
    0 ≤ (splitCharge effectiveCost recipients).directEarn ∧
      0 ≤ (splitCharge effectiveCost recipients).perPeer ∧
      0 ≤ (splitCharge effectiveCost recipients).opsTotal ∧
      (splitCharge effectiveCost recipients).directEarn +
          recipients.length * (splitCharge effectiveCost recipients).perPeer +
          (splitCharge effectiveCost recipients).opsTotal = effectiveCost := by
  have poolNonneg : 0 ≤ effectiveCost * 25 / 100 := by omega
  have divided : 0 ≤ (if recipients = [] then 0
        else effectiveCost * 25 / 100 / (recipients.length : ℤ)) ∧
      (if recipients = [] then 0
        else effectiveCost * 25 / 100 / (recipients.length : ℤ)) *
          recipients.length ≤ effectiveCost * 25 / 100 := by
    split
    · omega
    · have lengthNonneg : (0 : ℤ) ≤ recipients.length := by omega
      exact ⟨Int.ediv_nonneg poolNonneg lengthNonneg, Int.ediv_mul_le _ (by simpa using ‹_›)⟩
  simp only [splitCharge]
  generalize (if recipients = [] then 0
    else effectiveCost * 25 / 100 / (recipients.length : ℤ)) = perPeer at *
  have product : (recipients.length : ℤ) * perPeer = perPeer * recipients.length := mul_comm _ _
  refine ⟨by omega, divided.1, ?_, ?_⟩
  · have := divided.2
    omega
  · rw [product]
    omega

def fleetEarnings (provider : Option DeviceId) (recipients : List DeviceId)
    (effectiveCost : ℤ) : List (Earner × ℤ) :=
  let split := splitCharge effectiveCost recipients
  (provider.toList.map fun device => (.device device, split.directEarn)) ++
    (recipients.map fun peer => (.device peer, split.perPeer)) ++
    [(.device opsDevice, split.opsTotal)]

theorem fleetEarnings_nonneg
    (nonneg : 0 ≤ effectiveCost) : ∀ earning ∈ fleetEarnings provider recipients effectiveCost,
      0 ≤ earning.2 := by
  obtain ⟨direct, peer, ops, -⟩ := splitCharge_spec nonneg recipients
  intro earning member
  simp only [fleetEarnings, mem_append, mem_map, mem_singleton] at member
  rcases member with (⟨_, _, rfl⟩ | ⟨_, _, rfl⟩) | rfl
  · exact direct
  · exact peer
  · exact ops

theorem earned_fleetEarnings (provider : DeviceId) (recipients : List DeviceId)
    (nonneg : 0 ≤ effectiveCost) : earned (fleetEarnings (some provider) recipients effectiveCost) =
      effectiveCost := by
  obtain ⟨-, -, -, total⟩ := splitCharge_spec nonneg recipients
  have peers : (recipients.map fun _ => (splitCharge effectiveCost recipients).perPeer).sum =
      recipients.length * (splitCharge effectiveCost recipients).perPeer := by
    simp
  simp only [earned, fleetEarnings, Option.toList_some, map_append,
    map_map, map_cons, map_nil, sum_append, List.sum_cons,
    sum_nil, Function.comp_def, peers]
  omega

theorem earned_fleetEarnings_le
    (nonneg : 0 ≤ effectiveCost) : earned (fleetEarnings provider recipients effectiveCost) ≤
      effectiveCost := by
  cases provider with
  | some provider => exact le_of_eq (earned_fleetEarnings provider recipients nonneg)
  | none =>
    have direct := (splitCharge_spec nonneg recipients).1
    have whole := earned_fleetEarnings opsDevice recipients nonneg
    have split : earned (fleetEarnings (some opsDevice) recipients
        effectiveCost) = (splitCharge effectiveCost recipients).directEarn +
          earned (fleetEarnings none recipients effectiveCost) := by
      simp [earned, fleetEarnings]
    omega

theorem creditAll_append (first second : List (Earner × ℤ)) :
    creditAll (first ++ second) = creditAll first ++ creditAll second :=
  flatMap_append

theorem books_foldl_creditEarning (type : LedgerType) (nonneg : 0 ≤ amount)
    (recipients : List DeviceId) (db : Db) :
    books (recipients.foldl (fun db peer => creditEarning db receipt peer type amount) db) =
      books db + post (creditAll (recipients.map fun peer => (.device peer, amount))) := by
  induction recipients generalizing db with
  | nil => simp [creditAll]
  | cons peer rest ih =>
    rw [foldl_cons, ih, books_creditEarning _ _ _ _ nonneg]
    simp only [creditAll, map_cons, flatMap_cons, post_append, add_assoc]

theorem books_distributeEarnings (db : Db) (receipt : Receipt) (provider : Option DeviceId)
    (recipients : List DeviceId) (nonneg : 0 ≤ effectiveCost) :
    books (distributeEarnings db receipt provider recipients effectiveCost) = books db +
        post (creditAll (fleetEarnings provider recipients effectiveCost)) := by
  obtain ⟨direct, peer, ops, -⟩ := splitCharge_spec nonneg recipients
  simp only [distributeEarnings, fleetEarnings]
  rw [books_creditEarning _ _ _ _ ops, books_foldl_creditEarning _ _ peer,
    creditAll_append, creditAll_append, post_append, post_append]
  cases provider with
  | none => simp [creditAll, add_assoc]
  | some device =>
    simp only [books_creditEarning _ _ _ _ direct]
    simp [creditAll, add_assoc]

/-! ## What a consumer pays -/

theorem payableByDevice_nonneg (db : Db) (deviceId : DeviceId) (positive : 0 < cost) :
    0 ≤ payableByDevice db deviceId cost := by
  unfold payableByDevice
  omega

theorem payableByDevice_le (charged : 0 < payableByDevice db deviceId cost) :
    payableByDevice db deviceId cost ≤ db.balanceOf deviceId := by
  unfold payableByDevice at *
  omega

theorem payableByAccount_le (charged : 0 < payableByAccount db accountUserId cost) :
    payableByAccount db accountUserId cost ≤ db.creditsOf accountUserId := by
  unfold payableByAccount at *
  omega

theorem payableByAccount_nonneg (db : Db) (account : AccountUserId)
    (positive : 0 < cost) : 0 ≤ payableByAccount db account cost := by
  unfold payableByAccount
  omega

theorem clampToCreditLimit_bounds (db : Db) (apiKeyId : Option KeyId) (nonneg : 0 ≤ payable) :
    0 ≤ clampToCreditLimit db apiKeyId payable ∧
      clampToCreditLimit db apiKeyId payable ≤ payable := by
  unfold clampToCreditLimit
  split
  case h_1 remaining found =>
    simp only [Option.bind_eq_some_iff, Option.map_eq_some_iff] at found
    obtain ⟨row, -, limit, -, rfl⟩ := found
    omega
  case h_2 => exact ⟨nonneg, le_refl payable⟩

theorem payableByShareKey_nonneg (db : Db) (issuer : DeviceId) (keyId : KeyId)
    (positive : 0 < cost) : 0 ≤ payableByShareKey db issuer keyId cost := by
  have := payableByDevice_nonneg db issuer positive
  unfold payableByShareKey
  split <;> omega

/-! ## Charges -/

theorem books_chargeDevice (nonneg : 0 ≤ amount) (found : (db.balances.find? payer).isSome = true) :
    books (if 0 < amount then
        (db.appendSpent receipt payer amount).debitDevice payer amount
      else db.appendSpent receipt payer amount) =
      books db + post ((device payer).credit (-amount)) := by
  split
  · rw [debitDevice, appendSpent,
      books_updateBalance _ _ _ (by exact found), books_appendLedger]
    simp only [credit, post_cons, post_nil, add_zero]
    abel
  · have zero : amount = 0 := by omega
    simp [zero, appendSpent, credit]

theorem books_chargePool (issuer : DeviceId) (positive : 0 < amount)
    (funded : shareFunded db keyId = true) (covered : amount ≤ sumShareKeyContributions db keyId) :
    books (debitShareKey (db.appendSpent receipt issuer amount) issuer keyId amount) =
      books db + post [(.rows (.device issuer), -amount), (.pool keyId, -amount)] := by
  have stillFunded : shareFunded (db.appendSpent receipt issuer amount) keyId = true := funded
  simp only [debitShareKey, stillFunded, if_true]
  rw [books_updateBalance_counters,
    books_applyProRataShareKeySpendTx positive (by exact covered),
    books_updateShareKey, appendSpent, books_appendLedger]
  simp only [post_cons, post_nil, add_zero, add_assoc]

theorem books_chargeUnfunded (nonneg : 0 ≤ amount)
    (unfunded : 0 < amount → shareFunded db keyId = false)
    (found : (db.balances.find? issuer).isSome = true) : books (if 0 < amount then
        debitShareKey (db.appendSpent receipt issuer amount) issuer keyId amount
      else db.appendSpent receipt issuer amount) =
      books db + post ((device issuer).credit (-amount)) := by
  rw [← books_chargeDevice receipt nonneg found]
  split
  case isTrue charged =>
    have stillUnfunded : shareFunded (db.appendSpent receipt issuer amount) keyId = false :=
      unfunded charged
    simp only [debitShareKey, stillUnfunded, Bool.false_eq_true, if_false]
    rfl
  case isFalse => rfl

theorem books_chargeAccount {noted : Db} {row : AccountLedgerRow}
    (apiKeyId : Option KeyId) (now : Timestamp)
    (nonneg : 0 ≤ amount) (records : row.Records accountUserId (-amount))
    (write : db.appendAccountLedger row = .ok noted) :
    books (if 0 < amount then
        debitAccount noted accountUserId apiKeyId amount now
      else noted) = books db + post ((account accountUserId).credit (-amount)) := by
  have hasWallet := (appendAccountLedger_ok write).1
  obtain ⟨-, rfl⟩ := appendAccountLedger_ok write
  rw [records.account] at hasWallet
  have noted := books_appendAccountLedger write
  rw [records.books_eq] at noted
  split
  · have debited : books (debitAccount
        { db with accountLedger := db.accountLedger.append row } accountUserId
        apiKeyId amount now) = books (updateCredits
          { db with accountLedger := db.accountLedger.append row } accountUserId
          (-amount) now) := by
      unfold debitAccount
      cases apiKeyId <;> rfl
    rw [debited, books_updateCredits _ _ (by exact hasWallet), noted]
    simp only [credit, post_cons, post_nil, add_zero]
    abel
  · have zero : amount = 0 := by omega
    rw [noted, zero]
    simp [credit]

/-- What a charged amount is posted as: a funded share key is charged to its
pool, everything else to a wallet. -/
def chargeEntry (consumer : ConsumerPrincipal) (funded : Bool) (amount : ℤ)
    (earnings : List (Earner × ℤ)) : Entry :=
  match consumer with
  | .device payer => .charge (.device payer) amount earnings
  | .account accountUserId _ => .charge (.account accountUserId) amount earnings
  | .share issuer keyId =>
    if funded = true ∧ 0 < amount then .spendPool issuer keyId amount earnings
    else .charge (.device issuer) amount earnings

def ConsumerPrincipal.funded (db : Db) : ConsumerPrincipal → Bool
  | .share _ keyId => shareFunded db keyId
  | .device _ | .account _ _ => false

def ConsumerPrincipal.pool (db : Db) : ConsumerPrincipal → ℤ
  | .share _ keyId => sumShareKeyContributions db keyId
  | .device _ | .account _ _ => 0

/-- The consumer of a request has been charged: an amount that the charged book
covers, after which the earners can be credited. -/
structure Charge
    (db : Db) (consumer : ConsumerPrincipal) (amount : ℤ) (charged : Db) :
    Prop where
  nonneg : 0 ≤ amount
  covered : consumer.funded db = true → amount ≤ consumer.pool db
  posts : ∀ earnings db', (∀ earning ∈ earnings, 0 ≤ earning.2) →
    books db' = books charged + post (creditAll earnings) →
    Posts db [chargeEntry consumer (consumer.funded db) amount earnings] db'

theorem charge_device (db : Db) (receipt : Receipt) (payer : DeviceId) (positive : 0 < cost)
    (isAmount : amount = payableByDevice (db.ensureBalance payer) payer cost) :
    Charge db (.device payer) amount (if 0 < amount then
        ((db.ensureBalance payer).appendSpent receipt payer amount).debitDevice payer amount
      else (db.ensureBalance payer).appendSpent receipt payer amount) := by
  have nonneg : 0 ≤ amount := isAmount ▸ payableByDevice_nonneg _ _ positive
  refine ⟨nonneg, by simp [ConsumerPrincipal.funded], ?_⟩
  intro earnings db' earningsNonneg moved
  refine posts_single ⟨nonneg, ?_, earningsNonneg⟩ ?_
  · intro charged
    rw [← books_ensureBalance db payer, books_device]
    subst isAmount
    exact payableByDevice_le charged
  · rw [moved, books_chargeDevice receipt nonneg
      (find?_ensureBalance_self _ _), books_ensureBalance]
    simp only [chargeEntry, journal, post_append, add_assoc]

theorem charge_share (db : Db) (receipt : Receipt) (issuer : DeviceId) (keyId : KeyId)
    (positive : 0 < cost)
    (isAmount : amount = payableByShareKey (db.ensureBalance issuer) issuer keyId cost) :
    Charge db (.share issuer keyId) amount (if 0 < amount then
        debitShareKey ((db.ensureBalance issuer).appendSpent receipt issuer
          amount) issuer keyId amount
      else (db.ensureBalance issuer).appendSpent receipt issuer amount) := by
  have nonneg : 0 ≤ amount := isAmount ▸ payableByShareKey_nonneg _ _ _ positive
  have poolNonneg := sumShareKeyContributions_nonneg db keyId
  have covered : shareFunded db keyId = true → amount ≤ sumShareKeyContributions db keyId := by
    intro funded
    have stillFunded : shareFunded (db.ensureBalance issuer) keyId = true := funded
    rw [payableByShareKey, if_pos stillFunded] at isAmount
    have samePool : sumShareKeyContributions (db.ensureBalance issuer) keyId =
      sumShareKeyContributions db keyId := rfl
    omega
  refine ⟨nonneg, covered, ?_⟩
  intro earnings db' earningsNonneg moved
  by_cases spends : shareFunded db keyId = true ∧ 0 < amount
  · -- the pool pays, and the issuer only gets the row
    have entry : chargeEntry (.share issuer keyId)
        (ConsumerPrincipal.funded db (.share issuer keyId)) amount earnings =
          .spendPool issuer keyId amount earnings := if_pos spends
    rw [entry]
    refine posts_single ⟨spends.2, earningsNonneg⟩ ?_
    rw [moved, if_pos spends.2, books_chargePool receipt issuer spends.2
      (by exact spends.1) (by exact covered spends.1), books_ensureBalance]
    simp only [journal, post_cons, post_nil, add_zero, add_assoc]
  · have entry : chargeEntry (.share issuer keyId)
        (ConsumerPrincipal.funded db (.share issuer keyId)) amount earnings =
          .charge (.device issuer) amount earnings := if_neg spends
    rw [entry]
    have unfunded : 0 < amount → shareFunded (db.ensureBalance issuer) keyId = false :=
      fun charged => Bool.eq_false_of_not_eq_true fun funded => spends ⟨funded, charged⟩
    refine posts_single ⟨nonneg, ?_, earningsNonneg⟩ ?_
    · intro charged
      rw [payableByShareKey, if_neg (Bool.eq_false_iff.mp (unfunded charged))] at isAmount
      rw [← books_ensureBalance db issuer, books_device]
      have byDevice : 0 < payableByDevice (db.ensureBalance issuer) issuer cost := by omega
      have := payableByDevice_le byDevice
      omega
    · rw [moved, books_chargeUnfunded receipt nonneg unfunded (find?_ensureBalance_self _ _),
        books_ensureBalance]
      simp only [journal, post_append, add_assoc]

theorem charge_account {noted : Db} {row : AccountLedgerRow}
    (apiKeyId : Option KeyId) (now : Timestamp) (nonneg : 0 ≤ amount)
    (affordable : 0 < amount → amount ≤ db.creditsOf accountUserId)
    (records : row.Records accountUserId (-amount))
    (write : db.appendAccountLedger row = .ok noted) :
    Charge db (.account accountUserId apiKeyId) amount (if 0 < amount then
        debitAccount noted accountUserId apiKeyId amount now
      else noted) := by
  refine ⟨nonneg, by simp [ConsumerPrincipal.funded], ?_⟩
  intro earnings db' earningsNonneg moved
  refine posts_single ⟨nonneg, ?_, earningsNonneg⟩ ?_
  · rw [books_account]
    exact affordable
  · rw [moved, books_chargeAccount apiKeyId now nonneg records write]
    simp only [chargeEntry, journal, post_append, add_assoc]

theorem settleRequest_posts {provider : Option DeviceId} {online : List DeviceId}
    (ran : settleRequest db consumer provider online cost requestId model now = .ok db') :
    (cost ≤ 0 ∧ db' = db) ∨ (0 < cost ∧ ∃ amount recipients, 0 ≤ amount ∧
        (consumer.funded db = true → amount ≤ consumer.pool db) ∧
        Posts db [chargeEntry consumer (consumer.funded db) amount
          (fleetEarnings provider recipients amount)] db') := by
  have distribute : ∀ (charged : Db) (receipt : Receipt) (amount : ℤ)
      (recipients : List DeviceId), Charge db consumer amount charged →
      ∃ amount' recipients', 0 ≤ amount' ∧
        (consumer.funded db = true → amount' ≤ consumer.pool db) ∧
        Posts db [chargeEntry consumer (consumer.funded db) amount'
          (fleetEarnings provider recipients' amount')]
          (distributeEarnings charged receipt provider recipients amount) := by
    intro charged receipt amount recipients charge
    exact ⟨amount, recipients, charge.nonneg, charge.covered,
      charge.posts _ _ (fleetEarnings_nonneg provider recipients charge.nonneg)
        (books_distributeEarnings charged receipt provider recipients charge.nonneg)⟩
  unfold settleRequest at ran
  split at ran
  case isTrue free =>
    exact .inl ⟨free, (pure_eq_ok.mp ran).symm⟩
  case isFalse costs =>
    have positive : 0 < cost := by omega
    refine .inr ⟨positive, ?_⟩
    cases consumer with
    | device payer =>
      cases ran
      exact distribute _ _ _ _ (charge_device db _ payer positive rfl)
    | share issuer keyId =>
      cases ran
      exact distribute _ _ _ _ (charge_share db _ issuer keyId positive rfl)
    | account accountUserId apiKeyId =>
      simp only [settleRequestAccount, ok_iff] at ran
      obtain ⟨noted, write, rfl⟩ := ran
      have payable := payableByAccount_nonneg db accountUserId positive
      obtain ⟨nonneg, clamped⟩ := clampToCreditLimit_bounds db apiKeyId payable
      refine distribute _ _ _ _ (charge_account apiKeyId now nonneg ?_ ⟨rfl, rfl, rfl⟩ write)
      intro charged
      have := payableByAccount_le (lt_of_lt_of_le charged clamped)
      omega

/-! ## Providers -/

theorem chargeProviderRequest_charge {charged : Db × ℤ × Receipt} (positive : 0 < cost)
    (ran : chargeProviderRequest db consumer providerId cost requestId
      model now = .ok charged) : Charge db consumer charged.2.1 charged.1 := by
  cases consumer with
  | device payer =>
    cases ran
    exact charge_device db _ payer positive rfl
  | share issuer keyId =>
    cases ran
    exact charge_share db _ issuer keyId positive rfl
  | account accountUserId apiKeyId =>
    simp only [chargeProviderRequest, ok_iff] at ran
    obtain ⟨noted, write, rfl⟩ := ran
    exact charge_account apiKeyId now
      (payableByAccount_nonneg db accountUserId positive) payableByAccount_le
      ⟨rfl, rfl, rfl⟩ write

theorem books_creditProvider {receipt : Receipt} (nonneg : 0 ≤ amount)
    (ran : creditProvider db receipt providerId amount model = .ok db') :
    books db' = books db + post ((Earner.provider providerId).credit amount) := by
  unfold creditProvider at ran
  split at ran
  · simp only [ok_iff] at ran
    obtain ⟨-, rfl⟩ := ran
    have weightless : ProviderWalletRow.books providerId { updatedAt := receipt.now } = 0 := by
      simp [ProviderWalletRow.books]
    simp only [books]
    rw [sum_modify _ _ _ (find?_insertOrIgnore_self ..),
      sum_insertOrIgnore_of_weightless _ _ _ weightless]
    simp only [ProviderWalletRow.books, single_add, Earner.credit,
      post_cons, post_nil, add_zero]
    abel
  · cases ran
    have zero : amount = 0 := by omega
    simp [zero, Earner.credit]

def providerEarnings (providerId : ProviderId) (amount : ℤ) : List (Earner × ℤ) :=
  [(.provider providerId, amount * 95 / 100), (.device opsDevice, amount - amount * 95 / 100)]

theorem earned_providerEarnings (providerId : ProviderId) (amount : ℤ) :
    earned (providerEarnings providerId amount) = amount := by
  simp [earned, providerEarnings]

theorem settleProviderRequest_posts
    (ran : settleProviderRequest db consumer providerId cost requestId model now = .ok db') :
    (cost ≤ 0 ∧ db' = db) ∨
      (0 < cost ∧ ∃ amount, 0 ≤ amount ∧ (consumer.funded db = true → amount ≤ consumer.pool db) ∧
        Posts db [chargeEntry consumer (consumer.funded db) amount
          (providerEarnings providerId amount)] db') := by
  unfold settleProviderRequest at ran
  split at ran
  case isTrue free =>
    exact .inl ⟨free, (pure_eq_ok.mp ran).symm⟩
  case isFalse costs =>
    simp only [ok_iff] at ran
    obtain ⟨charged, charge, credited, credit, rfl⟩ := ran
    have positive : 0 < cost := by omega
    have paid := chargeProviderRequest_charge positive charge
    have nonneg := paid.nonneg
    refine .inr ⟨positive, charged.2.1, nonneg, paid.covered, paid.posts _ _ ?_ ?_⟩
    · intro earning member
      simp only [providerEarnings, mem_cons, not_mem_nil, or_false] at member
      rcases member with rfl | rfl <;> simp only <;> omega
    · rw [books_creditEarning _ _ _ _ (by omega), books_creditProvider (by omega) credit]
      simp [creditAll, providerEarnings, add_assoc]

theorem recordProviderPayout_posts
    (ran : recordProviderPayout db providerId amount destination now = .ok db') :
    Posts db [.payout providerId amount] db' := by
  simp only [recordProviderPayout, ok_iff] at ran
  obtain ⟨positive, covered, -, rfl⟩ := ran
  have affordable : 0 < amount ∧ amount ≤ db.providerCreditsOf providerId := by omega
  refine posts_single ⟨affordable.1, ?_⟩ ?_
  · rw [books_provider]
    exact affordable.2
  · cases found : db.providerWallets.find? providerId with
    | none =>
      rw [providerCreditsOf, found] at affordable
      simp only [Option.map_none, Option.getD_none] at affordable
      omega
    | some row =>
      simp only [books]
      rw [sum_modify _ _ _ found]
      simp only [ProviderWalletRow.books, single_sub, journal,
        post_cons, post_nil, single_neg, add_zero]
      abel

/-! ## Availability -/

def sessionEntry (session : DeviceId × AvailabilitySessionRow) : Entry :=
  if 0 ≤ session.2.accruedCredits then
    .endSession session.1 session.2.accruedCredits
  else
    .dropSession session.1 session.2.accruedCredits

theorem finalizeAvailabilitySession_posts
    {session : DeviceId × AvailabilitySessionRow} (now : Timestamp)
    (found : db.availabilitySessions.find? session.1 = some session.2) :
    Posts db [sessionEntry session] (finalizeAvailabilitySession db session.1 session.2 now) := by
  have accrued : session.2.accruedCredits = books db (.session session.1) := by
    rw [books_session, found]
    rfl
  have deleted : ∀ db' : Db, db'.availabilitySessions = db.availabilitySessions → books { db' with
        availabilitySessions := db'.availabilitySessions.deleteWhere
          fun other _ => other = session.1 } =
        books db' + single (.session session.1) (-session.2.accruedCredits) := by
    intro db' same
    simp only [books]
    rw [sum_deleteKey _ _ (same ▸ found)]
    simp only [AvailabilitySessionRow.books, single_neg]
    abel
  unfold sessionEntry
  split
  case isTrue nonneg =>
    refine posts_single accrued ?_
    unfold finalizeAvailabilitySession
    split
    · refine (deleted (db.appendLedger _) rfl).trans ?_
      rw [books_appendLedger]
      simp only [journal, post_cons, post_nil, add_zero]
      abel
    · have zero : session.2.accruedCredits = 0 := by omega
      refine (deleted db rfl).trans ?_
      simp [journal, zero]
  case isFalse negative =>
    refine posts_single ⟨accrued, by omega⟩ ?_
    unfold finalizeAvailabilitySession
    rw [if_neg (by omega)]
    refine (deleted db rfl).trans ?_
    simp [journal]

theorem finalizeSessions_posts
    (now : Timestamp) (sessions : List (DeviceId × AvailabilitySessionRow))
    (db : Db) (nodup : (sessions.map Prod.fst).Nodup)
    (found : ∀ session ∈ sessions, db.availabilitySessions.find? session.1 = some session.2) :
    Posts db (sessions.map sessionEntry) (sessions.foldl (fun db session =>
        finalizeAvailabilitySession db session.1 session.2 now) db) := by
  induction sessions generalizing db with
  | nil => exact posts_refl db
  | cons head tail ih =>
    obtain ⟨headFresh, tailNodup⟩ := nodup_cons.mp nodup
    have first := finalizeAvailabilitySession_posts now (found head mem_cons_self)
    refine first.append (ih _ tailNodup ?_)
    intro session member
    have different : session.1 ≠ head.1 := fun equal =>
      headFresh (mem_map.mpr ⟨session, member, equal⟩)
    have untouched : (finalizeAvailabilitySession db head.1 head.2
        now).availabilitySessions = db.availabilitySessions.deleteWhere
          fun other _ => other = head.1 := by
      unfold finalizeAvailabilitySession
      split <;> rfl
    rw [untouched, find?_deleteWhere, found session (mem_cons_of_mem head member)]
    simp [different]

def endedSessions (db : Db) (recipients : List DripRecipient) :
    List (DeviceId × AvailabilitySessionRow) :=
  db.availabilitySessions.rows.filter fun entry => !stillMatching recipients entry

theorem finalizeEndedSessions_posts (db : Db) (recipients : List DripRecipient) (now : Timestamp) :
    Posts db ((endedSessions db recipients).map sessionEntry)
      (finalizeEndedSessions db recipients now).1 := by
  refine finalizeSessions_posts now (endedSessions db recipients) db ?_ ?_
  · exact db.availabilitySessions.keysNodup.sublist (filter_sublist.map Prod.fst)
  · intro session member
    exact mem_rows_iff_find?.mp (mem_of_mem_filter member)

theorem creditRecipientDrip_posts (now : Timestamp) (db : Db) (recipient : DripRecipient) :
    Posts db [.drip recipient.deviceId recipient.credits]
      (creditRecipientDrip now db recipient) := by
  refine posts_single trivial ?_
  have accrued : ∀ db' : Db, books (db'.accrueSession recipient now) =
      books db' + single (.session recipient.deviceId) recipient.credits := by
    intro db'
    unfold accrueSession
    cases found : db'.availabilitySessions.find? recipient.deviceId with
    | some row =>
      simp only [books]
      rw [sum_modify _ _ _ found]
      simp only [AvailabilitySessionRow.books, single_add]
      abel
    | none =>
      simp only [books]
      rw [sum_insertOrIgnore_of_fresh _ _ _ found]
      simp only [AvailabilitySessionRow.books]
      abel
  simp only [creditRecipientDrip]
  rw [accrued, books_updateBalance _ _ _ (find?_ensureBalance_self _ _)]
  simp [journal, add_assoc]

theorem foldl_creditRecipientDrip_posts
    (now : Timestamp) (recipients : List DripRecipient) (db : Db) : Posts db
      (recipients.map fun recipient => .drip recipient.deviceId recipient.credits)
      (recipients.foldl (creditRecipientDrip now) db) := by
  induction recipients generalizing db with
  | nil => exact posts_refl db
  | cons recipient rest ih => exact (creditRecipientDrip_posts now db recipient).append (ih _)

def dripSkipped (db : Db) (recipients : List DripRecipient) : Prop :=
  0 < dripTotal recipients ∧ db.mintPool.remaining < dripTotal recipients

instance (db : Db) (recipients : List DripRecipient) : Decidable (dripSkipped db recipients) :=
  inferInstanceAs (Decidable (_ ∧ _))

/-- A tick ends sessions and then, when the mint pool can pay, drips. -/
def tickEntries (db : Db) (recipients : List DripRecipient) : List Entry :=
  (endedSessions db recipients).map sessionEntry ++
    if dripSkipped db recipients then []
    else recipients.map fun recipient => .drip recipient.deviceId recipient.credits

theorem mintPool_finalizeEndedSessions
    (db : Db) (recipients : List DripRecipient) (now : Timestamp) :
    (finalizeEndedSessions db recipients now).1.mintPool = db.mintPool := by
  refine foldl_preserves (fun state : Db => state.mintPool = db.mintPool) ?_ rfl
  intro state session _ same
  rw [← same]
  unfold finalizeAvailabilitySession
  split <;> rfl

theorem reconcileAvailabilitySessions_posts
    (db : Db) (recipients : List DripRecipient) (now : Timestamp) :
    Posts db (tickEntries db recipients) (reconcileAvailabilitySessions db recipients now).1 := by
  have ended := finalizeEndedSessions_posts db recipients now
  have samePool := mintPool_finalizeEndedSessions db recipients now
  unfold reconcileAvailabilitySessions tickEntries
  by_cases skipped : dripSkipped db recipients
  · rw [if_pos skipped, append_nil]
    unfold dripSkipped at skipped
    simp only [samePool, if_pos skipped]
    exact ended
  · rw [if_neg skipped]
    unfold dripSkipped at skipped
    simp only [samePool, if_neg skipped]
    refine ended.append ?_
    exact (foldl_creditRecipientDrip_posts now recipients _).of_books_eq rfl

end Teale.Gateway
