import Teale.Gateway.Books.Wallets
import Teale.Gateway.Ledger.OnchainCases

/-!
# What on-chain functions post

A credited deposit is one entry, and so is every transition of a withdrawal
request.
-/

namespace Teale.Gateway

open Relational Transactional Bookkeeping Option Relational.Table Db

open Finsupp (single)

variable {deposit : Deposit} {txSignature : String} {cents : ℤ} {entry : Entry}
  {requester : DeviceId} {result : Db × AccountOnchainSnapshot}

variable {db db' : Db} {now : Timestamp} {account : AccountUserId}
  {depositId : String}

/-! ## Deposits -/

theorem Credited.posts (credited : Credited db deposit now db') : Posts db
      [.deposit deposit.accountUserId deposit.amountCredits deposit.amountUsdcCents] db' := by
  obtain ⟨fresh, hasWallet, positive, depositId, usdcRow, creditsRow, isUsdc,
    isCredits, sameAccount, sameAmount, rfl⟩ := credited
  obtain ⟨wallet, found⟩ := isSome_iff_exists.mp hasWallet
  refine posts_single ⟨positive.2, positive.1⟩ ?_
  simp only [books, withDeposit, Log.sum_append]
  rw [sum_insertOrIgnore_of_fresh _ _ _ fresh, sum_modify _ _ _ found]
  simp only [AccountLedgerRow.books, isUsdc, isCredits, sameAccount, sameAmount,
    AccountWalletRow.books, AccountWalletRow.addDeposit, DepositRow.books,
    Deposit.row, Finsupp.single_add, Entry.journal, Wallet.credit, post_append,
    post_cons, post_nil, if_true, reduceCtorEq, if_false, Finsupp.single_zero]
  abel

def depositEntries (db : Db) (accountUserId : AccountUserId) (txSignature : String)
    (cents : ℤ) : List Entry :=
  if (db.deposits.find? txSignature).isSome then
    []
  else
    [.deposit accountUserId (cents * creditsPerUsdcCent) cents]

theorem mem_depositEntries (member : entry ∈ depositEntries db account txSignature cents) :
    entry = .deposit account (cents * creditsPerUsdcCent) cents := by
  unfold depositEntries at member
  split at member
  · exact absurd member List.not_mem_nil
  · exact List.mem_singleton.mp member

theorem recordDeposit_posts
    (ran : recordDeposit db deposit compareSource depositId usdcNote creditsNote now = .ok db')
    (rate : deposit.amountCredits = deposit.amountUsdcCents * creditsPerUsdcCent) : Posts db
      (depositEntries db deposit.accountUserId deposit.txSignature
        deposit.amountUsdcCents) db' := by
  rcases recordDeposit_cases ran with ⟨row, found, -, rfl⟩ | credited
  · rw [depositEntries, found, isSome_some, if_pos rfl]
    exact posts_refl db'
  · rw [depositEntries, credited.fresh, isSome_none, if_neg Bool.false_ne_true, ← rate]
    exact credited.posts

theorem recordAccountOnchainDeposit_posts
    (ran : recordAccountOnchainDeposit db requester req depositId now = .ok result) :
    ∃ account, Posts db (match normalizedOptionalString req.txSignature with
        | none => []
        | some txSignature =>
          depositEntries db account txSignature (req.amountUsdcCents.getD 0)) result.1 := by
  obtain ⟨account, wallet, address, -, -, -, outcome⟩ := recordAccountOnchainDeposit_cases ran
  have enabled : books (db.updateWallet account fun row =>
      row.enableSolana address now) = books db :=
    books_updateWallet_profile db account fun _ => rfl
  refine ⟨account, ?_⟩
  rcases outcome with ⟨unsigned, same⟩ | ⟨txSignature, cents, _, _, signed, amount, -, record⟩
  · rw [unsigned, same]
    exact posts_nil enabled
  · rw [signed, amount]
    exact (recordDeposit_posts record rfl).of_books_eq enabled

theorem recordAccountTreasuryDeposit_posts
    {sourceAddress : Option String} {treasuryAddress : String}
    (ran : recordAccountTreasuryDeposit db requester txSignature cents
      sourceAddress treasuryAddress depositId now = .ok result) : ∃ account, Posts db
      (depositEntries db account txSignature cents) result.1 := by
  obtain ⟨account, _, _, _, -, -, -, record⟩ := recordAccountTreasuryDeposit_cases ran
  exact ⟨account, recordDeposit_posts record rfl⟩

/-! ## Withdrawals -/

theorem books_withdrawalStep {wallet : AccountWalletRow}
    (change : AccountWalletRow → AccountWalletRow)
    (found : db.accountWallets.find? account = some wallet)
    (accountLedger : Log AccountLedgerRow) (withdrawals : Table String WithdrawalRow) :
    books { db with
        accountWallets := db.accountWallets.modify account change
        accountLedger, withdrawals } =
      books db + ((change wallet).books account - wallet.books account) +
        (accountLedger.sum AccountLedgerRow.books - db.accountLedger.sum AccountLedgerRow.books) +
        (withdrawals.sum (fun _ => WithdrawalRow.books) -
          db.withdrawals.sum (fun _ => WithdrawalRow.books)) := by
  simp only [books]
  rw [sum_modify _ _ _ found]
  abel

theorem AccountLedgerRow.Records.books_eq {row : AccountLedgerRow} {amount : ℤ}
    (records : row.Records account amount) :
    row.books = single (.rows (.account account)) amount := by
  simp [AccountLedgerRow.books, records.isCredits, records.account, records.amount]

theorem AccountLedgerRow.books_usdc
    {row : AccountLedgerRow} (isUsdc : row.asset = .usdc) : row.books = 0 := by
  simp [AccountLedgerRow.books, isUsdc]

theorem WithdrawalRow.books_pending {row : WithdrawalRow} (isPending : row.status = .pending) :
    row.books = single (.pending row.accountUserId) row.amountUsdcCents := by
  simp [WithdrawalRow.books, isPending]

@[simp] theorem WithdrawalRow.books_submit
    (row : WithdrawalRow) (txSignature : String) (now : Timestamp) :
    (row.submit txSignature now).books =
      single (.submitted row.accountUserId) row.amountUsdcCents := by
  simp [WithdrawalRow.books, WithdrawalRow.submit]

@[simp] theorem WithdrawalRow.books_reject
    (row : WithdrawalRow) (now : Timestamp) : (row.reject now).books = 0 := by
  simp [WithdrawalRow.books, WithdrawalRow.reject]

theorem WithdrawalStep.posts {requestId : String}
    (step : WithdrawalStep db requestId now entry db') : Posts db [entry] db' := by
  cases step with
  | @reserved row wallet holdRow fresh isPending _ found affordable records =>
    refine posts_single ⟨row.creditsPos, ?_⟩ ?_
    · rw [books_account, creditsOf, found]
      exact affordable
    · rw [books_withdrawalStep _ found,
        sum_insertOrIgnore_of_fresh _ _ _ fresh, Log.sum_append,
        records.books_eq, row.books_pending isPending]
      simp only [AccountWalletRow.books, AccountWalletRow.debitWithdrawal,
        Entry.journal, Wallet.credit, post_append, post_cons, post_nil,
        Finsupp.single_sub, Finsupp.single_neg, Bool.false_eq_true, if_false,
        add_zero]
      abel
  | @burned row wallet burnRow outRow txSignature fresh found affordable records isUsdc =>
    have inserted : (db.withdrawals.insertOrIgnore requestId row).find? requestId = some row := by
      simp [fresh]
    refine posts_single ⟨row.creditsPos, ?_⟩ ?_
    · rw [books_account, creditsOf, found]
      exact affordable
    · rw [books_withdrawalStep _ found, sum_modify _ _ _ inserted,
        sum_insertOrIgnore_of_fresh _ _ _ fresh, Log.sum_append,
        Log.sum_append, records.books_eq,
        AccountLedgerRow.books_usdc isUsdc, WithdrawalRow.books_submit]
      simp only [AccountWalletRow.books, AccountWalletRow.debitWithdrawal,
        Entry.journal, Wallet.credit, post_append, post_cons, post_nil,
        Finsupp.single_sub, Finsupp.single_neg, Finsupp.single_add, if_true,
        add_zero]
      abel
  | @finalized row burnRow outRow txSignature found isPending hasWallet records isUsdc =>
    obtain ⟨wallet, foundWallet⟩ := isSome_iff_exists.mp hasWallet
    refine posts_single row.creditsPos ?_
    rw [books_withdrawalStep _ foundWallet, sum_modify _ _ _ found,
      Log.sum_append, Log.sum_append, records.books_eq,
      AccountLedgerRow.books_usdc isUsdc, WithdrawalRow.books_submit,
      row.books_pending isPending]
    simp only [AccountWalletRow.books, AccountWalletRow.finalizeWithdrawn,
      Entry.journal, post_cons, post_nil, Finsupp.single_neg,
      Finsupp.single_add, add_zero]
    abel
  | @released row refundRow found isPending hasWallet records =>
    obtain ⟨wallet, foundWallet⟩ := isSome_iff_exists.mp hasWallet
    refine posts_single row.creditsPos ?_
    rw [books_withdrawalStep _ foundWallet, sum_modify _ _ _ found,
      Log.sum_append, records.books_eq, WithdrawalRow.books_reject,
      row.books_pending isPending]
    simp only [AccountWalletRow.books, AccountWalletRow.releaseWithdrawal,
      Entry.journal, Wallet.credit, post_append, post_cons, post_nil,
      Finsupp.single_neg, Finsupp.single_add, add_zero]
    abel

end Teale.Gateway
