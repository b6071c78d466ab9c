import Teale.Gateway.Books.Reading

/-!
# What wallet functions post

Bonuses, mints, referral rewards, transfers and sweeps as entries.
-/

namespace Teale.Gateway

open Relational Transactional Bookkeeping Db

variable {db db' : Db} {deviceId : DeviceId} {amount : ℤ} {now : Timestamp}
  {result : Db × ℤ} {note code claimId : String} {account : AccountUserId}

/-- The entries that take the books of one database to those of another. -/
def Posts (db : Db) (entries : List Entry) (db' : Db) : Prop :=
  rules.Posted (books db) entries (books db')

theorem posts_nil (unchanged : books db' = books db) : Posts db [] db' := by
  rw [Posts, unchanged]
  exact .nil _

theorem posts_refl (db : Db) : Posts db [] db := .nil _

theorem posts_single (allowed : entry.Allowed (books db))
    (moved : books db' = books db + post entry.journal) : Posts db [entry] db' :=
  Rules.Posted.single allowed moved

theorem Posts.append (before : Posts db early middle) (after : Posts middle late db') :
    Posts db (early ++ late) db' :=
  Rules.Posted.append before after

theorem Posts.of_books_eq (posted : Posts db entries db') (same : books db = books start) :
    Posts start entries db' := by
  rw [Posts, ← same]
  exact posted

theorem Posts.to_books_eq (posted : Posts db entries db') (same : books finish = books db') :
    Posts db entries finish := by
  rw [Posts, same]
  exact posted

/-! ## Device wallets -/

@[simp] theorem Db.find?_ensureBalance_self (db : Db) (deviceId : DeviceId) :
    ((db.ensureBalance deviceId).balances.find? deviceId).isSome = true := by
  simp [ensureBalance]

@[simp] theorem Db.isSome_find?_creditBalance
    (db : Db) (deviceId other : DeviceId) (type : LedgerType) (amount : ℤ)
    (note : Option String) (now : Timestamp) (refRequestId : Option String) :
    ((db.creditBalance deviceId type amount note now refRequestId).balances.find? other).isSome =
      (db.balances.find? other).isSome := by
  simp [creditBalance, updateBalance, appendLedger]

theorem creditBalance_posts (db : Db) (type : LedgerType) (amount : ℤ)
    (note : Option String) (now : Timestamp) (found : (db.balances.find? deviceId).isSome = true) :
    Posts db [.grant (.device deviceId) amount] (db.creditBalance deviceId type amount note now) :=
  posts_single trivial (books_creditBalance type amount note now none found)

theorem recordBonus_posts (ran : recordBonus db deviceId amount now = .ok result) :
    Posts db [.grant (.device deviceId) amount] result.1 := by
  simp only [recordBonus, ok_iff] at ran
  obtain ⟨row, found, rfl⟩ := ran
  have present := congrArg Option.isSome found
  rw [isSome_find?_creditBalance] at present
  exact creditBalance_posts (db.drawMintPool amount) _ _ _ _ present

theorem creditDeviceWalletTx_posts (db : Db) (deviceId : DeviceId) (amount : ℤ) (type : LedgerType)
    (note : String) (now : Timestamp) : Posts db [.grant (.device deviceId) amount]
      (creditDeviceWalletTx db deviceId amount type note now) := by
  refine (creditBalance_posts (((db.ensureDevice deviceId now).ensureBalance
      deviceId).drawMintPool amount) _ _ _ _ ?_).of_books_eq (by simp)
  exact find?_ensureBalance_self _ _

theorem adminMint_posts (ran : adminMint db deviceId amount note now = .ok result) :
    0 < amount ∧ Posts db [.grant (.device deviceId) amount] result.1 := by
  simp only [adminMint, ok_iff] at ran
  obtain ⟨positive, row, -, rfl⟩ := ran
  exact ⟨by omega, creditDeviceWalletTx_posts db deviceId amount .adminMint note now⟩

/-! ## Account wallets -/

theorem creditAccountWalletTx_posts {type : LedgerType} {deviceId : Option String}
    (ran : creditAccountWalletTx db account amount type deviceId note now = .ok db') :
    Posts db [.grant (.account account) amount] db' := by
  have moved := books_updateCredits_append ran rfl rfl rfl
  exact posts_single trivial moved

theorem recordAccountBonus_posts {deviceId : Option String}
    (ran : recordAccountBonus db account amount deviceId note now = .ok result) :
    Posts db [.grant (.account account) amount] result.1 := by
  simp only [recordAccountBonus, ok_iff] at ran
  obtain ⟨db', credited, row, -, rfl⟩ := ran
  exact creditAccountWalletTx_posts credited

/-! ## Referrals and join rewards -/

def ReferralOwner.wallet : ReferralOwner → Wallet
  | .device deviceId => .device deviceId
  | .account accountUserId => .account accountUserId

theorem referralCodeForDevice_books {result : Db × ReferralCodeSnapshot}
    (ran : referralCodeForDevice db deviceId code now = .ok result) :
    books result.1 = books db := by
  rw [referralCodeForDevice, ensureReferralCodeTx] at ran
  split at ran
  · cases ran
    simp
  · simp only [ok_iff] at ran
    obtain ⟨-, -, rfl⟩ := ran
    exact (books_ensureBalance _ _).trans (books_ensureDevice ..)

theorem insertReferralClaim_books (ran : db.insertReferralClaim claimId row = .ok db') :
    books db' = books db := by
  simp only [insertReferralClaim, ok_iff] at ran
  obtain ⟨-, -, -, -, rfl⟩ := ran
  rfl

theorem rewardReferrerTx_posts (ran : rewardReferrerTx db owner actor note now = .ok db') :
    Posts db [.grant owner.wallet referralBonusCredits] db' := by
  cases owner with
  | device referrer =>
    cases ran
    exact creditDeviceWalletTx_posts db referrer _ _ _ _
  | account referrer => exact creditAccountWalletTx_posts ran

theorem applyReferralForDeviceTx_posts
    (ran : applyReferralForDeviceTx db deviceId code claimId now = .ok result) :
    ∃ referrer : Wallet, Posts db [.grant referrer referralBonusCredits,
        .grant (.device deviceId) referralBonusCredits] result.1 := by
  simp only [applyReferralForDeviceTx, ok_iff] at ran
  obtain ⟨-, code, -, -, -, rewarded, reward, claimed, claim, rfl⟩ := ran
  refine ⟨code.owner.wallet, ?_⟩
  exact (rewardReferrerTx_posts reward).append
    ((creditDeviceWalletTx_posts rewarded deviceId _ _ _ _).to_books_eq
      (insertReferralClaim_books claim))

theorem applyReferralForAccountTx_posts
    (ran : applyReferralForAccountTx db deviceId account code claimId now = .ok result) :
    ∃ referrer : Wallet, Posts db [.grant referrer referralBonusCredits,
        .grant (.account account) referralBonusCredits] result.1 := by
  simp only [applyReferralForAccountTx, ok_iff] at ran
  obtain ⟨-, code, -, -, rewarded, reward, credited, credit, claimed, claim, rfl⟩ := ran
  refine ⟨code.owner.wallet, ?_⟩
  exact (rewardReferrerTx_posts reward).append
    ((creditAccountWalletTx_posts credit).to_books_eq (insertReferralClaim_books claim))

/-- The welcome bonus of a wallet that has had one already is nothing. -/
def welcomeEntries (owner : Wallet) (hasBonus : Bool) : List Entry :=
  if hasBonus then [] else [.grant owner welcomeBonusCredits]

def referralEntries (referrer owner : Wallet) (code : Option String) : List Entry :=
  match normalizedOptionalString code with
  | none => []
  | some _ => [.grant referrer referralBonusCredits, .grant owner referralBonusCredits]

theorem applyDeviceJoinRewards_posts {code : Option String} {result : Db × JoinRewards}
    (ran : applyDeviceJoinRewards db deviceId code claimId now = .ok result) :
    ∃ referrer : Wallet, Posts db (welcomeEntries (.device deviceId) (db.deviceHasBonus deviceId) ++
        referralEntries referrer (.device deviceId) code) result.1 := by
  have welcomed : Posts db (welcomeEntries (.device deviceId) (db.deviceHasBonus deviceId))
      (welcomeDevice ((db.ensureDevice deviceId now).ensureBalance deviceId) deviceId now).1 := by
    have sameBonus : ((db.ensureDevice deviceId now).ensureBalance deviceId).deviceHasBonus
          deviceId = db.deviceHasBonus deviceId := rfl
    unfold welcomeDevice welcomeEntries
    rw [sameBonus]
    split
    · exact posts_nil (by simp)
    · refine (creditBalance_posts (((db.ensureDevice deviceId
        now).ensureBalance deviceId).drawMintPool _) _ _ _ _ ?_).of_books_eq (by simp)
      exact find?_ensureBalance_self _ _
  unfold applyDeviceJoinRewards at ran
  unfold referralEntries
  cases normalized : normalizedOptionalString code with
  | none =>
    simp only [normalized, pure_eq_ok] at ran
    subst ran
    refine ⟨.device deviceId, ?_⟩
    rw [List.append_nil]
    exact welcomed
  | some text =>
    simp only [normalized, ok_iff] at ran
    obtain ⟨claimed, claim, rfl⟩ := ran
    obtain ⟨referrer, posted⟩ := applyReferralForDeviceTx_posts claim
    exact ⟨referrer, welcomed.append posted⟩

theorem applyAccountJoinRewards_posts {code : Option String} {result : Db × JoinRewards}
    (ran : applyAccountJoinRewards db deviceId account code claimId now = .ok result) :
    ∃ referrer : Wallet, Posts db (welcomeEntries (.account account) (db.accountHasBonus account) ++
        referralEntries referrer (.account account) code) result.1 := by
  rw [applyAccountJoinRewards, bind_eq_ok] at ran
  obtain ⟨welcomed, welcome, ran⟩ := ran
  have first : Posts db
      (welcomeEntries (.account account) (db.accountHasBonus account)) welcomed.1 := by
    unfold welcomeAccount at welcome
    unfold welcomeEntries
    split at welcome
    case isTrue hasBonus =>
      cases welcome
      rw [if_pos hasBonus]
      exact posts_nil rfl
    case isFalse noBonus =>
      simp only [ok_iff] at welcome
      obtain ⟨credited, credit, rfl⟩ := welcome
      rw [if_neg noBonus]
      exact creditAccountWalletTx_posts credit
  unfold referralEntries
  cases normalized : normalizedOptionalString code with
  | none =>
    simp only [normalized, pure_eq_ok] at ran
    subst ran
    refine ⟨.account account, ?_⟩
    rw [List.append_nil]
    exact first
  | some text =>
    simp only [normalized, ok_iff] at ran
    obtain ⟨claimed, claim, rfl⟩ := ran
    obtain ⟨referrer, posted⟩ := applyReferralForAccountTx_posts claim
    exact ⟨referrer, first.append posted⟩

end Teale.Gateway
