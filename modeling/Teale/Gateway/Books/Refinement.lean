import Teale.Gateway.Books.Settlement
import Teale.Gateway.Frame

/-!
# Every call posts entries

A successful call of any ledger function other than the reset posts entries, and `Records` says
which.
-/

namespace Teale.Gateway

open Relational Transactional Bookkeeping List Db

def Call.requestId : Call → Option String
  | .submitAccountWithdrawal _ req _ _ => normalizedOptionalString (some req.requestId)
  | .completeAccountWithdrawalFromTreasury requestId _ _
  | .rejectAccountWithdrawal requestId _ _ => some requestId
  | _ => none

variable {requester : DeviceId} {req : AccountWithdrawalRequest}
  {fresh model : String} {result : Db × AccountWithdrawalRecord}

variable {db db' : Db} {now : Timestamp} {requestId : String}
  {consumer : ConsumerPrincipal} {cost : ℤ} {sha256 : String → String} {call : Call}
  {entries : List Entry} {weight : Book → ℤ}

def AreMoves (entries : List Entry) : Prop :=
  ∀ entry ∈ entries, ∃ payer payee amount, entry = .move payer payee amount

def SubmitRecords (db : Db) (req : AccountWithdrawalRequest) (entries : List Entry) : Prop :=
  ∃ requestId accountUserId, normalizedOptionalString (some req.requestId) = some requestId ∧
    match db.withdrawals.find? requestId with
    | some row =>
      (entries = [] ∧ (row.status ≠ .pending ∨ normalizedOptionalString req.txSignature = none)) ∨
        (entries = [.finalize row.accountUserId row.amountCredits
            row.amountUsdcCents] ∧ row.status = .pending ∧
          (normalizedOptionalString req.txSignature).isSome = true)
    | none =>
      entries = [.hold accountUserId
          (req.amountUsdcCents * creditsPerUsdcCent) req.amountUsdcCents] ∨
        entries = [.burn accountUserId
          (req.amountUsdcCents * creditsPerUsdcCent) req.amountUsdcCents]

/-- The entries of a settlement: none for a request that costs nothing, and
otherwise one charge. -/
def SettleRecords (db : Db) (consumer : ConsumerPrincipal) (cost : ℤ)
    (earnings : ℤ → List (Earner × ℤ) → Prop) (entries : List Entry) : Prop :=
  (cost ≤ 0 ∧ entries = []) ∨ (0 < cost ∧ ∃ amount shares, 0 ≤ amount ∧ earnings amount shares ∧
      (consumer.funded db = true → amount ≤ consumer.pool db) ∧
      entries = [chargeEntry consumer (consumer.funded db) amount shares])

def Records (db : Db) (entries : List Entry) : Call → Prop
  | .recordBonus deviceId amount _ => entries = [.grant (.device deviceId) amount]
  | .recordAccountBonus accountUserId amount _ _ _ =>
    entries = [.grant (.account accountUserId) amount]
  | .adminMint deviceId amount _ _ => 0 < amount ∧ entries = [.grant (.device deviceId) amount]
  | .applyDeviceJoinRewards deviceId code _ _ => ∃ referrer, entries =
      welcomeEntries (.device deviceId) (db.deviceHasBonus deviceId) ++
        referralEntries referrer (.device deviceId) code
  | .applyAccountJoinRewards _ accountUserId code _ _ => ∃ referrer, entries =
      welcomeEntries (.account accountUserId) (db.accountHasBonus accountUserId) ++
        referralEntries referrer (.account accountUserId) code
  | .transferFromDeviceWallet .. | .transferFromAccountWallet ..
  | .transferFromAccountWalletForAccount .. | .sweepDeviceToAccount .. => AreMoves entries
  | .recordAccountOnchainDeposit _ req _ _ => ∃ accountUserId, entries =
      match normalizedOptionalString req.txSignature with
      | none => []
      | some txSignature => depositEntries db accountUserId txSignature (req.amountUsdcCents.getD 0)
  | .recordAccountTreasuryDeposit _ txSignature cents _ _ _ _ =>
    ∃ accountUserId, entries = depositEntries db accountUserId txSignature cents
  | .submitAccountWithdrawal _ req _ _ => SubmitRecords db req entries
  | .completeAccountWithdrawalFromTreasury requestId _ _ => ∃ row,
      db.withdrawals.find? requestId = some row ∧ entries =
        if row.status = .pending then
          [.finalize row.accountUserId row.amountCredits row.amountUsdcCents]
        else []
  | .rejectAccountWithdrawal requestId _ _ => ∃ row,
      db.withdrawals.find? requestId = some row ∧ entries =
        [.release row.accountUserId row.amountCredits row.amountUsdcCents]
  | .mintShareKey .. | .transferToShareKey .. | .migrateUnfundedShareKeys .. => AreFundings entries
  | .revokeShareKey .. | .refundExpiredShareKeys .. => AreRefunds entries
  | .backfillFundedShareKeyContributions .. => AreEndowments entries
  | .settleRequest consumer provider _ cost _ _ _ =>
    SettleRecords db consumer cost
      (fun amount shares => ∃ recipients, shares = fleetEarnings provider recipients amount) entries
  | .settleProviderRequest consumer providerId cost _ _ _ =>
    SettleRecords db consumer cost
      (fun amount shares => shares = providerEarnings providerId amount)
      entries
  | .recordProviderPayout providerId amount _ _ => entries = [.payout providerId amount]
  | .reconcileAvailabilitySessions recipients _ => entries = tickEntries db recipients
  | .resetGenesis => False
  | _ => entries = []

def Explained (db : Db) (call : Call) (db' : Db) : Prop :=
  ∃ entries, Records db entries call ∧ Posts db entries db'

/-! ## Calls that post nothing -/

def bookTables : List TableName :=
  [.ledger, .balances, .contributions, .accountWallets, .accountLedger,
    .availabilitySessions, .providerWallets, .deposits, .withdrawals]

theorem posts_of_within {written : List TableName} (within : Within written db db')
    (apart : ∀ table ∈ bookTables, table ∉ written) : Posts db [] db' := by
  have read : ∀ db : Db, books (db.without written) = books db := by
    simp only [bookTables, forall_mem_cons] at apart
    simp [books, without, apart]
  exact posts_nil (by rw [← read db', within, read db])

/-! ## Where entries come from -/

def Call.Grants : Call → ℤ → Prop
  | .recordBonus _ granted _, amount
  | .recordAccountBonus _ granted _ _ _, amount => amount = granted
  | .adminMint .., amount | .applyDeviceJoinRewards .., amount
  | .applyAccountJoinRewards .., amount => 0 < amount
  | _, _ => False

def Call.Drips : Call → ℤ → Prop
  | .reconcileAvailabilitySessions recipients _, amount =>
    ∃ recipient ∈ recipients, recipient.credits = amount
  | _, _ => False

/-- A settlement that is paid from the pool of a funded share key. -/
def Call.spendsPool (db : Db) : Call → Bool
  | .settleRequest consumer _ _ cost _ _ _
  | .settleProviderRequest consumer _ cost _ _ _ =>
    0 < cost && consumer.funded db && 0 < consumer.pool db
  | _ => false

def Db.isPendingRequest (db : Db) (requestId : String) : Bool :=
  (db.withdrawals.find? requestId).any fun row => row.status = .pending

/-- A completion, or a submission with a signature, of a request whose funds
were reserved before. -/
def Call.finalizesWithdrawal (db : Db) : Call → Bool
  | .submitAccountWithdrawal _ req _ _ =>
    (normalizedOptionalString req.txSignature).isSome &&
      (normalizedOptionalString (some req.requestId)).any db.isPendingRequest
  | .completeAccountWithdrawalFromTreasury requestId _ _ => db.isPendingRequest requestId
  | _ => false

def Entry.From (db : Db) (call : Call) : Entry → Prop
  | .grant _ amount => call.Grants amount
  | .drip _ amount => call.Drips amount
  | .dropSession deviceId _ => books db (.session deviceId) < 0
  | .spendPool .. => call.spendsPool db = true
  | .finalize .. => call.finalizesWithdrawal db = true
  | _ => True

def ConsumerPrincipal.account? : ConsumerPrincipal → Option AccountUserId
  | .account accountUserId _ => some accountUserId
  | .device _ | .share _ _ => none

/-- The account whose credits a call spends, whose keys it manages or for which
it claims a deposit. -/
def Call.actsFor (db : Db) : Call → Option AccountUserId
  | .transferFromAccountWallet requester _ _ _ _
  | .submitAccountWithdrawal requester _ _ _
  | .recordAccountOnchainDeposit requester _ _ _
  | .recordAccountTreasuryDeposit requester _ _ _ _ _ _ => db.accountUserIdForDevice requester
  | .transferFromAccountWalletForAccount accountUserId _ _ _ _ _
  | .createApiKey accountUserId _ _ _ _ | .updateApiKey accountUserId _ _
  | .deleteApiKey accountUserId _ => some accountUserId
  | .settleRequest consumer _ _ _ _ _ _
  | .settleProviderRequest consumer _ _ _ _ _ => consumer.account?
  | _ => none

def Call.mints : Call → Bool
  | .recordBonus _ _ _ | .recordAccountBonus _ _ _ _ _ | .adminMint _ _ _ _
  | .applyDeviceJoinRewards _ _ _ _ | .applyAccountJoinRewards _ _ _ _ _
  | .reconcileAvailabilitySessions _ _
  | .backfillFundedShareKeyContributions _ _ => true
  | _ => false

def Call.Debits (db : Db) (call : Call) (payer : Wallet) : Prop :=
  ∀ accountUserId, payer = .account accountUserId → call.actsFor db = some accountUserId

def Db.HasRequest (db : Db) (credits cents : ℤ) : Prop := ∃ requestId row,
  db.withdrawals.find? requestId = some row ∧ row.amountCredits = credits ∧
    row.amountUsdcCents = cents

/-- What is known of an entry from the call that posts it. -/
def Entry.Arises (db : Db) (call : Call) : Entry → Prop
  | .grant _ amount => call.Grants amount
  | .drip _ amount => call.Drips amount
  | .dropSession deviceId _ => books db (.session deviceId) < 0
  | .move payer _ _ => call.Debits db payer
  | .endow _ _ => call.mints = true
  | .charge payer amount earnings => earned earnings ≤ amount ∧ call.Debits db payer
  | .spendPool _ _ amount earnings => earned earnings ≤ amount ∧ call.spendsPool db = true
  | .deposit _ credits cents => credits = cents * creditsPerUsdcCent
  | .hold accountUserId credits cents | .burn accountUserId credits cents =>
    credits = cents * creditsPerUsdcCent ∧ call.actsFor db = some accountUserId
  | .finalize _ credits cents => db.HasRequest credits cents ∧ call.finalizesWithdrawal db = true
  | .release _ credits cents => db.HasRequest credits cents
  | .endSession _ _ | .fund _ _ _ | .refund _ _ _ | .payout _ _ => True

theorem Entry.Arises.from {entry : Entry} (arises : entry.Arises db call) :
    entry.From db call := by
  cases entry with
  | grant | drip | dropSession => exact arises
  | spendPool | finalize => exact arises.2
  | _ => trivial

def Accounted (db : Db) (call : Call) (db' : Db) : Prop :=
  ∃ entries, Records db entries call ∧ Posts db entries db' ∧ ∀ entry ∈ entries, entry.Arises db call

theorem accounted_nil (records : Records db [] call) (posted : Posts db [] db') :
    Accounted db call db' :=
  ⟨[], records, posted, forall_mem_nil _⟩

theorem accounted_single {entry : Entry} (records : Records db [entry] call)
    (posted : Posts db [entry] db') (arises : entry.Arises db call) : Accounted db call db' :=
  ⟨[entry], records, posted, by simpa using arises⟩

theorem joinEntries_arise {referrer owner : Wallet} {hasBonus : Bool} {code : Option String}
    (grants : ∀ amount, 0 < amount → call.Grants amount) :
    ∀ entry ∈ welcomeEntries owner hasBonus ++ referralEntries referrer owner code,
      entry.Arises db call := by
  intro entry member
  rcases mem_append.mp member with welcome | referral
  · cases hasBonus with
    | true => simp [welcomeEntries] at welcome
    | false =>
      obtain rfl := mem_singleton.mp welcome
      exact grants _ (by decide)
  · unfold referralEntries at referral
    split at referral
    · simp at referral
    · simp only [mem_cons, not_mem_nil, or_false] at referral
      rcases referral with rfl | rfl
      · exact grants _ (by decide)
      · exact grants _ (by decide)

theorem depositEntries_arise {account : AccountUserId} {txSignature : String} {cents : ℤ} :
    ∀ entry ∈ depositEntries db account txSignature cents, entry.Arises db call := by
  intro entry member
  rw [mem_depositEntries member]
  rfl

theorem arise_of_shape {α β γ : Type} {shape : α → β → γ → Entry}
    (shaped : ∀ entry ∈ entries, ∃ first second third, entry = shape first second third)
    (arises : ∀ first second third, (shape first second third).Arises db call) :
    ∀ entry ∈ entries, entry.Arises db call := by
  intro entry member
  obtain ⟨first, second, third, rfl⟩ := shaped entry member
  exact arises first second third

theorem tickEntries_arise {recipients : List DripRecipient} : ∀ entry ∈ tickEntries db recipients,
      entry.Arises db (.reconcileAvailabilitySessions recipients now) := by
  intro entry member
  rcases mem_append.mp member with ended | dripped
  · obtain ⟨session, isEnded, rfl⟩ := mem_map.mp ended
    have found := Table.mem_rows_iff_find?.mp
      (mem_of_mem_filter isEnded)
    have accrued : books db (.session session.1) = session.2.accruedCredits := by
      rw [books_session, found]
      rfl
    unfold sessionEntry
    split
    · trivial
    · rw [Entry.Arises, accrued]
      omega
  · split at dripped
    · simp at dripped
    · obtain ⟨recipient, listed, rfl⟩ := mem_map.mp dripped
      exact ⟨recipient, listed, rfl⟩

/-! ## The refinement -/

/-- A withdrawal call takes no step or one, and records it. -/
theorem execute_request (ran : execute sha256 db call = .ok db')
    (listed : .withdrawals ∈ writes call) (keeps : call ≠ .resetGenesis) :
    ∃ requestId, call.requestId = some requestId ∧ ((db' = db ∧ Records db [] call) ∨
      ∃ now entry, WithdrawalStep db requestId now entry db' ∧ Records db [entry] call ∧
        entry.Arises db call) := by
  cases call with
  | submitAccountWithdrawal requester req =>
    obtain ⟨_, called, rfl⟩ := map_eq_ok.mp ran
    obtain ⟨requestId, _, account, named, linked, outcome⟩ := submitAccountWithdrawal_cases called
    refine ⟨requestId, named, ?_⟩
    cases outcome with
    | replayed found closed unchanged =>
      refine .inl ⟨unchanged, requestId, account, named, ?_⟩
      rw [show db.withdrawals.find? requestId = _ from found]
      exact .inl ⟨rfl, closed⟩
    | @finalized row found isPending signed step =>
      refine .inr ⟨_, _, step, ⟨requestId, account, named, ?_⟩, ⟨requestId, row, found, rfl, rfl⟩, ?_⟩
      · rw [show db.withdrawals.find? requestId = _ from found]
        exact .inr ⟨rfl, isPending, signed⟩
      · simp [Call.finalizesWithdrawal, isPendingRequest, named, signed, isPending,
          show db.withdrawals.find? requestId = _ from found]
    | reserved fresh _ step =>
      refine .inr ⟨_, _, step, ⟨requestId, account, named, ?_⟩, rfl, linked⟩
      rw [show db.withdrawals.find? requestId = _ from fresh]
      exact .inl rfl
    | burned fresh _ step =>
      refine .inr ⟨_, _, step, ⟨requestId, account, named, ?_⟩, rfl, linked⟩
      rw [show db.withdrawals.find? requestId = _ from fresh]
      exact .inr rfl
  | completeAccountWithdrawalFromTreasury requestId =>
    obtain ⟨_, called, rfl⟩ := map_eq_ok.mp ran
    obtain ⟨row, found, ⟨settled, unchanged⟩ | ⟨isPending, step⟩⟩ :=
      completeAccountWithdrawalFromTreasury_cases called
    · exact ⟨requestId, rfl, .inl ⟨unchanged, row, found, by rw [if_neg settled]⟩⟩
    · refine ⟨requestId, rfl, .inr ⟨_, _, step, ⟨row, found, by rw [if_pos isPending]⟩,
        ⟨requestId, row, found, rfl, rfl⟩, ?_⟩⟩
      simp [Call.finalizesWithdrawal, isPendingRequest, found, isPending]
  | rejectAccountWithdrawal requestId =>
    obtain ⟨_, called, rfl⟩ := map_eq_ok.mp ran
    obtain ⟨row, found, -, step⟩ := rejectAccountWithdrawal_cases called
    exact ⟨requestId, rfl, .inr ⟨_, _, step, ⟨row, found, rfl⟩, requestId, row, found, rfl, rfl⟩⟩
  | resetGenesis => exact absurd rfl keeps
  | _ => exact absurd listed (by simp [writes, rewardTables, transferTables, shareKeyTables])

theorem arises_chargeEntry (shared : earned shares ≤ amount)
    (acts : call.actsFor db = consumer.account?)
    (spends : consumer.funded db = true → 0 < amount → call.spendsPool db = true) :
    (chargeEntry consumer (consumer.funded db) amount shares).Arises db call := by
  cases consumer with
  | device => exact ⟨shared, nofun⟩
  | account => exact ⟨shared, fun _ same => acts.trans (congrArg some (Wallet.account.inj same))⟩
  | share issuer keyId =>
    simp only [chargeEntry]
    split
    case isTrue spent => exact ⟨shared, spends spent.1 spent.2⟩
    case isFalse => exact ⟨shared, nofun⟩

theorem accounted_settle {provider : Option DeviceId} {online : List DeviceId}
    (ran : settleRequest db consumer provider online cost requestId model now = .ok db') :
    Accounted db (.settleRequest consumer provider online cost requestId model now) db' := by
  rcases settleRequest_posts ran with ⟨free, rfl⟩ |
    ⟨positive, amount, recipients, nonneg, covered, posted⟩
  · exact accounted_nil (.inl ⟨free, rfl⟩) (posts_refl db')
  · refine accounted_single (.inr ⟨positive, amount, _, nonneg, ⟨recipients, rfl⟩, covered, rfl⟩)
      posted (arises_chargeEntry (earned_fleetEarnings_le provider recipients nonneg) rfl ?_)
    intro funded spends
    simp [Call.spendsPool, positive, funded, lt_of_lt_of_le spends (covered funded)]

theorem accounted_settleProvider {providerId : ProviderId}
    (ran : settleProviderRequest db consumer providerId cost requestId model now = .ok db') :
    Accounted db (.settleProviderRequest consumer providerId cost requestId model now) db' := by
  rcases settleProviderRequest_posts ran with ⟨free, rfl⟩ |
    ⟨positive, amount, nonneg, covered, posted⟩
  · exact accounted_nil (.inl ⟨free, rfl⟩) (posts_refl db')
  · refine accounted_single (.inr ⟨positive, amount, _, nonneg, rfl, covered, rfl⟩) posted
      (arises_chargeEntry (earned_providerEarnings providerId amount).le rfl ?_)
    intro funded spends
    simp [Call.spendsPool, positive, funded, lt_of_lt_of_le spends (covered funded)]

theorem areMoves_single (payer payee : Wallet) (amount : ℤ) :
    AreMoves [.move payer payee amount] := by
  intro entry member
  exact ⟨payer, payee, amount, mem_singleton.mp member⟩

theorem areFundings_single (deviceId : DeviceId) (keyId : KeyId) (amount : ℤ) :
    AreFundings [.fund deviceId keyId amount] := by
  intro entry member
  exact ⟨deviceId, keyId, amount, mem_singleton.mp member⟩

/-- A successful call other than a reset posts entries it may post. -/
theorem execute_accounted (ran : execute sha256 db call = .ok db')
    (keeps : call ≠ .resetGenesis) : Accounted db call db' := by
  cases call with
  | resetGenesis => exact absurd rfl keeps
  | recordProviderPayout => exact accounted_single rfl (recordProviderPayout_posts ran) trivial
  | settleRequest => exact accounted_settle ran
  | settleProviderRequest => exact accounted_settleProvider ran
  | createChallenge | consumeChallenge | issueToken | removeDeviceFromAccount | createApiKey
  | updateApiKey | deleteApiKey | touchLastUsed | createAccountEmailCode | verifyAccountEmailCode
  | verifyAccountEmailLinkToken | createAccountSession | resolveAccountSession
  | revokeAccountSession | upsertProvider | createPin =>
    exact accounted_nil rfl (posts_of_within (execute_within ran) (by simp [writes, bookTables]))
  | linkDeviceToAccount => exact accounted_nil rfl (posts_nil (linkDeviceToAccount_books ran))
  | upsertDevice =>
    cases ran
    refine accounted_nil rfl (posts_nil ?_)
    unfold upsertDevice
    split <;> simp
  | revokeShareKey =>
    cases ran
    obtain ⟨entries, refunds, posted⟩ := revokeShareKey_posts _ _ _ _
    exact ⟨entries, refunds, posted, arise_of_shape refunds fun _ _ _ => trivial⟩
  | refundExpiredShareKeys =>
    cases ran
    obtain ⟨entries, refunds, posted⟩ := refundExpiredShareKeys_posts _ _
    exact ⟨entries, refunds, posted, arise_of_shape refunds fun _ _ _ => trivial⟩
  | reconcileAvailabilitySessions =>
    cases ran
    exact ⟨_, rfl, reconcileAvailabilitySessions_posts _ _ _, tickEntries_arise⟩
  | referralCodeForDevice =>
    exact of_map_eq_ok ran fun called =>
      accounted_nil rfl (posts_nil (referralCodeForDevice_books called))
  | accountUserIdForLogin =>
    exact of_map_eq_ok ran fun called =>
      accounted_nil rfl (posts_nil (accountUserIdForLogin_books called))
  | recordBonus =>
    exact of_map_eq_ok ran fun called => accounted_single rfl (recordBonus_posts called) rfl
  | recordAccountBonus =>
    exact of_map_eq_ok ran fun called => accounted_single rfl (recordAccountBonus_posts called) rfl
  | adminMint =>
    obtain ⟨_, called, rfl⟩ := map_eq_ok.mp ran
    obtain ⟨positive, posted⟩ := adminMint_posts called
    exact accounted_single ⟨positive, rfl⟩ posted positive
  | applyDeviceJoinRewards =>
    obtain ⟨_, called, rfl⟩ := map_eq_ok.mp ran
    obtain ⟨referrer, posted⟩ := applyDeviceJoinRewards_posts called
    exact ⟨_, ⟨referrer, rfl⟩, posted, joinEntries_arise fun _ => id⟩
  | applyAccountJoinRewards =>
    obtain ⟨_, called, rfl⟩ := map_eq_ok.mp ran
    obtain ⟨referrer, posted⟩ := applyAccountJoinRewards_posts called
    exact ⟨_, ⟨referrer, rfl⟩, posted, joinEntries_arise fun _ => id⟩
  | transferFromDeviceWallet =>
    obtain ⟨_, called, rfl⟩ := map_eq_ok.mp ran
    obtain ⟨recipient, -, posted⟩ := transferFromDeviceWallet_posts called
    exact accounted_single (areMoves_single _ _ _) posted (by rintro _ ⟨⟩)
  | transferFromAccountWallet =>
    obtain ⟨_, called, rfl⟩ := map_eq_ok.mp ran
    obtain ⟨account, recipient, linked, -, posted⟩ := transferFromAccountWallet_posts called
    exact accounted_single (areMoves_single _ _ _) posted fun _ same =>
      linked.trans (congrArg some (Wallet.account.inj same))
  | transferFromAccountWalletForAccount =>
    obtain ⟨_, called, rfl⟩ := map_eq_ok.mp ran
    obtain ⟨recipient, -, posted⟩ := transferFromAccountWalletForAccount_posts called
    exact accounted_single (areMoves_single _ _ _) posted fun _ same =>
      congrArg some (Wallet.account.inj same)
  | sweepDeviceToAccount requester target =>
    obtain ⟨_, called, rfl⟩ := map_eq_ok.mp ran
    obtain ⟨entries, posted, moves⟩ := sweepDeviceToAccount_posts called
    refine ⟨entries, ?_, posted, ?_⟩ <;> intro entry member <;>
      obtain ⟨account, amount, rfl⟩ := moves entry member
    · exact ⟨_, _, _, rfl⟩
    · rintro _ ⟨⟩
  | recordAccountOnchainDeposit requester req =>
    obtain ⟨_, called, rfl⟩ := map_eq_ok.mp ran
    obtain ⟨account, posted⟩ := recordAccountOnchainDeposit_posts called
    refine ⟨_, ⟨account, rfl⟩, posted, ?_⟩
    cases normalizedOptionalString req.txSignature with
    | none => exact forall_mem_nil _
    | some txSignature => exact depositEntries_arise
  | recordAccountTreasuryDeposit =>
    obtain ⟨_, called, rfl⟩ := map_eq_ok.mp ran
    obtain ⟨account, posted⟩ := recordAccountTreasuryDeposit_posts called
    exact ⟨_, ⟨account, rfl⟩, posted, depositEntries_arise⟩
  | submitAccountWithdrawal | completeAccountWithdrawalFromTreasury | rejectAccountWithdrawal =>
    obtain ⟨_, -, ⟨rfl, records⟩ | ⟨_, _, step, records, arises⟩⟩ :=
      execute_request ran (by simp [writes]) keeps
    · exact accounted_nil records (posts_refl _)
    · exact accounted_single records step.posts arises
  | mintShareKey =>
    exact of_map_eq_ok ran fun called =>
      accounted_single (areFundings_single _ _ _) (mintShareKey_posts called) trivial
  | transferToShareKey =>
    obtain ⟨_, called, rfl⟩ := map_eq_ok.mp ran
    obtain ⟨keyId, posted⟩ := transferToShareKey_posts called
    exact accounted_single (areFundings_single _ _ _) posted trivial
  | backfillFundedShareKeyContributions =>
    obtain ⟨_, called, rfl⟩ := map_eq_ok.mp ran
    obtain ⟨entries, endowments, posted⟩ := backfillFundedShareKeyContributions_posts called
    refine ⟨entries, endowments, posted, fun entry member => ?_⟩
    obtain ⟨_, _, rfl⟩ := endowments entry member
    rfl
  | migrateUnfundedShareKeys =>
    obtain ⟨_, called, rfl⟩ := map_eq_ok.mp ran
    obtain ⟨entries, fundings, posted⟩ := migrateUnfundedShareKeys_posts called
    exact ⟨entries, fundings, posted, arise_of_shape fundings fun _ _ _ => trivial⟩

theorem execute_explained (ran : execute sha256 db call = .ok db')
    (keeps : call ≠ .resetGenesis) : Explained db call db' := by
  obtain ⟨entries, records, posted, -⟩ := execute_accounted ran keeps
  exact ⟨entries, records, posted⟩

/-! ## Readings that stay at zero -/

section

variable (providers : ∀ providerId, weight (.provider providerId) = 0)

include providers

/-- After everything has been deleted, only providers hold something. -/
theorem weigh_resetGenesis {result : Db × GenesisResetReport} (ran : resetGenesis db = .ok result) :
    weigh weight (books result.1) = 0 := by
  simp only [resetGenesis, ok_iff] at ran
  obtain ⟨_, -, rfl⟩ := ran
  simp [books, empty, Table.map_sum, ProviderWalletRow.books, providers]

theorem execute_weigh_eq_zero
    (each : ∀ entry : Entry, entry.From db call → entry.journal.total weight = 0)
    (before : weigh weight (books db) = 0) (ran : execute sha256 db call = .ok db') :
    weigh weight (books db') = 0 := by
  by_cases resets : call = .resetGenesis
  · subst resets
    obtain ⟨_, called, rfl⟩ := map_eq_ok.mp ran
    exact weigh_resetGenesis providers called
  · obtain ⟨entries, -, posted, arises⟩ := execute_accounted ran resets
    refine (posted.weigh_unchanged _ ?_).trans before
    exact fun entry member => each entry (arises entry member).from

theorem weigh_runCalls_eq_zero
    (each : ∀ entry : Entry, entry.journal.total weight = 0) (calls : List Call) :
    weigh weight (books (runCalls sha256 Db.empty calls)) = 0 := by
  refine run_commit_invariant (fun db => weigh weight (books db) = 0) (fun _ _ _ _ before ran =>
      execute_weigh_eq_zero providers (fun entry _ => each entry) before
        ran) ?_ (admissible_of_forall fun _ _ _ => trivial)
  rw [books_empty, map_zero]

end

end Teale.Gateway
