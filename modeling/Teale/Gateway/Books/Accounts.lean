import Teale.Gateway.Books.Wallets

/-!
# What account functions post

Linking moves nothing; a transfer and a sweep move credits between two
wallets.
-/

namespace Teale.Gateway

open Relational Transactional Bookkeeping Db

open Finsupp (single)

variable {deviceId requester target : DeviceId} {account : AccountUserId}
  {actor : Option String}

variable {db db' : Db} {now : Timestamp} {result : Db × TransferReceipt}
  {amount : ℤ} {rawRecipient : String} {memo : Option String}

/-! ## Linking -/

theorem Db.books_upsertWallet (db : Db) (account : AccountUserId)
    (displayName phone email githubUsername : Option String) (now : Timestamp) :
    books (db.upsertWallet account displayName phone email githubUsername now) = books db := by
  unfold upsertWallet
  split
  · exact books_updateWallet_profile db account fun _ => rfl
  · simp only [books]
    rw [Table.sum_insertOrIgnore_of_weightless]
    simp [AccountWalletRow.books]

theorem Db.books_upsertAccountDevice (db : Db) (deviceId : DeviceId) (account : AccountUserId)
    (deviceName platform : Option String) (now : Timestamp) :
    books (db.upsertAccountDevice deviceId account deviceName platform now) = books db := by
  unfold upsertAccountDevice
  split <;> rfl

theorem linkDeviceToAccount_books
    (ran : linkDeviceToAccount db deviceId account metadata now = .ok db') :
    books db' = books db := by
  simp only [linkDeviceToAccount, ok_iff] at ran
  obtain ⟨normalized, -, rfl⟩ := ran
  rw [books_upsertAccountDevice, books_touchDevice,
    books_upsertWallet, books_ensureBalance, books_ensureDevice]

theorem accountUserIdForLogin_books {result : Db × AccountUserId}
    (ran : accountUserIdForLogin db email now = .ok result) : books result.1 = books db := by
  rw [accountUserIdForLogin, bind_eq_ok] at ran
  obtain ⟨normalized, -, ran⟩ := ran
  split at ran
  · cases ran
    rfl
  · cases ran
    simp only [books]
    rw [Table.sum_insertOrIgnore_of_weightless]
    simp [AccountWalletRow.books]

/-! ## Transfers -/

def ResolvedTransferTarget.wallet : ResolvedTransferTarget → Wallet
  | .device deviceId => .device deviceId
  | .account accountUserId _ _ _ _ => .account accountUserId

theorem Db.books_debit (amount spent : ℤ) (type : LedgerType)
    (now : Timestamp) (refRequestId note : Option String)
    (found : (db.balances.find? deviceId).isSome = true) :
    books ((db.updateBalance deviceId (-amount) 0 spent).appendLedger
        { deviceId, type, amount := -amount, timestamp := now, refRequestId
          note }) = books db + post ((Wallet.device deviceId).credit (-amount)) := by
  rw [books_appendLedger, books_updateBalance _ _ _ found]
  simp only [Wallet.credit, post_cons, post_nil, add_zero]
  abel

theorem creditRecipient_books (ran : creditRecipient db recipient amount actor note now = .ok db') :
    books db' = books db + post (recipient.wallet.credit amount) := by
  cases recipient with
  | device deviceId =>
    cases ran
    rw [books_appendLedger, books_updateBalance _ _ _ (find?_ensureBalance_self _ _),
      books_ensureBalance]
    simp only [ResolvedTransferTarget.wallet, Wallet.credit, post_cons, post_nil, add_zero]
    abel
  | account accountUserId => exact books_updateCredits_append ran rfl rfl rfl

theorem transferFromDeviceWallet_posts
    (ran : transferFromDeviceWallet db sender rawRecipient amount memo now = .ok result) :
    ∃ recipient, resolveTransferTargetTx db rawRecipient = .ok recipient ∧
      Posts db [.move (.device sender) recipient.wallet amount] result.1 := by
  simp only [transferFromDeviceWallet, ok_iff] at ran
  obtain ⟨positive, affordable, recipient, resolved, -, credited, credit, rfl⟩ := ran
  refine ⟨recipient, resolved, posts_single ⟨by omega, ?_⟩ ?_⟩
  · rw [← books_ensureBalance db sender, books_device]
    omega
  · rw [creditRecipient_books credit, books_debit _ _ _ _ _ _ (find?_ensureBalance_self _ _),
      books_ensureBalance]
    simp only [Entry.journal, post_append, add_assoc]

theorem transferFromAccountWalletForAccount_posts
    (ran : transferFromAccountWalletForAccount db account rawRecipient
      amount memo actor now = .ok result) :
    ∃ recipient, resolveTransferTargetTx db rawRecipient = .ok recipient ∧
      Posts db [.move (.account account) recipient.wallet amount] result.1 := by
  simp only [transferFromAccountWalletForAccount, ok_iff] at ran
  obtain ⟨positive, -, affordable, recipient, resolved, -, debited, debit,
    credited, credit, rfl⟩ := ran
  refine ⟨recipient, resolved, posts_single ⟨by omega, ?_⟩ ?_⟩
  · rw [books_account]
    omega
  · rw [creditRecipient_books credit, books_updateCredits_append debit rfl rfl rfl]
    simp only [Entry.journal, post_append, add_assoc]

theorem transferFromAccountWallet_posts
    (ran : transferFromAccountWallet db requester rawRecipient amount memo now = .ok result) :
    ∃ account recipient, db.accountUserIdForDevice requester = some account ∧
      resolveTransferTargetTx db rawRecipient = .ok recipient ∧
      Posts db [.move (.account account) recipient.wallet amount] result.1 := by
  simp only [transferFromAccountWallet, ok_iff] at ran
  obtain ⟨account, linked, transfer⟩ := ran
  obtain ⟨recipient, posted⟩ := transferFromAccountWalletForAccount_posts transfer
  exact ⟨account, recipient, linked, posted⟩

/-! ## Sweeps -/

theorem sweepCredits_books (found : (db.balances.find? target).isSome = true)
    (ran : sweepCredits db account target amount now = .ok db') : books db' = books db +
      post (Entry.move (.device target) (.account account) amount).journal := by
  have credited := books_updateCredits_append ran rfl rfl rfl
  rw [books_updateBalance _ _ _ (by exact found), books_appendLedger] at credited
  rw [credited]
  simp only [Entry.journal, Wallet.credit, post_append, post_cons, post_nil, add_zero]
  abel

theorem sweepDeviceToAccount_posts {result : Db × AccountSweepResult}
    (ran : sweepDeviceToAccount db requester target now = .ok result) :
    ∃ entries, Posts db entries result.1 ∧ ∀ entry ∈ entries, ∃ accountUserId amount,
        entry = .move (.device target) (.account accountUserId) amount := by
  simp only [sweepDeviceToAccount, bind_eq_ok] at ran
  obtain ⟨accountUserId, -, ran⟩ := ran
  split at ran
  case isTrue positive =>
    simp only [ok_iff] at ran
    obtain ⟨swept, sweep, account, -, rfl⟩ := ran
    refine ⟨[.move (.device target) (.account accountUserId) _], posts_single ⟨positive, ?_⟩ ?_, ?_⟩
    · rw [← books_ensureBalance db target, books_device]
    · rw [sweepCredits_books (find?_ensureBalance_self _ _) sweep, books_ensureBalance]
    · intro entry member
      exact ⟨accountUserId, _, List.mem_singleton.mp member⟩
  case isFalse =>
    simp only [ok_iff] at ran
    obtain ⟨swept, rfl, account, -, rfl⟩ := ran
    exact ⟨[], posts_nil (by simp), by simp⟩

end Teale.Gateway
