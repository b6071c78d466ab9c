import Teale.Gateway.Books.Entry
import Teale.Gateway.Ledger.Call

/-!
# Reading the tables as books

`books` adds up the columns of the database. Every statement of the ledger functions has one lemma
that says how it moves the books.
-/

namespace Teale.Gateway

open Relational Transactional Bookkeeping Relational.Table

open Finsupp (single)

variable (account : AccountUserId)

/-! ## The reading -/

noncomputable def BalanceRow.books (deviceId : DeviceId) (row : BalanceRow) : Books Book :=
  single (.wallet (.device deviceId)) row.balance

noncomputable def LedgerRow.books (row : LedgerRow) : Books Book :=
  single (.rows (.device row.deviceId)) row.amount

noncomputable def AvailabilitySessionRow.books
    (deviceId : DeviceId) (row : AvailabilitySessionRow) : Books Book :=
  single (.session deviceId) row.accruedCredits

noncomputable def AccountWalletRow.books
    (accountUserId : AccountUserId) (row : AccountWalletRow) : Books Book :=
  single (.wallet (.account accountUserId)) row.balanceCredits +
    single (.usdc accountUserId) row.usdcCents +
    single (.deposited accountUserId) row.depositedUsdcCentsTotal +
    single (.withdrawn accountUserId) row.withdrawnUsdcCentsTotal

noncomputable def AccountLedgerRow.books (row : AccountLedgerRow) : Books Book :=
  single (.rows (.account row.accountUserId)) (if row.asset = .credits then row.amount else 0)

noncomputable def ProviderWalletRow.books
    (providerId : ProviderId) (row : ProviderWalletRow) : Books Book :=
  single (.provider providerId) row.balanceCredits

noncomputable def ContributionRow.books (row : ContributionRow) : Books Book :=
  single (.pool row.keyId) row.remainingCredits

noncomputable def DepositRow.books (row : DepositRow) : Books Book :=
  single (.depositRows row.accountUserId) row.amountUsdcCents

noncomputable def WithdrawalRow.books (row : WithdrawalRow) : Books Book :=
  single (.pending row.accountUserId) (if row.status = .pending then row.amountUsdcCents else 0) +
    single (.submitted row.accountUserId)
      (if row.status = .submitted then row.amountUsdcCents else 0)

noncomputable def books (db : Db) : Books Book :=
  db.balances.sum BalanceRow.books + db.ledger.sum LedgerRow.books +
    db.availabilitySessions.sum AvailabilitySessionRow.books +
    db.accountWallets.sum AccountWalletRow.books +
    db.accountLedger.sum AccountLedgerRow.books +
    db.providerWallets.sum ProviderWalletRow.books +
    db.contributions.sum (fun _ => ContributionRow.books) +
    db.deposits.sum (fun _ => DepositRow.books) +
    db.withdrawals.sum (fun _ => WithdrawalRow.books)

@[simp] theorem books_empty : books Db.empty = 0 := by
  simp [books, Db.empty]

theorem weigh_books (weight : Book → ℤ) (db : Db) : weigh weight (books db) =
      (db.balances.sum fun deviceId row =>
        row.balance * weight (.wallet (.device deviceId))) + (db.ledger.sum fun row =>
        row.amount * weight (.rows (.device row.deviceId))) +
      (db.availabilitySessions.sum fun deviceId row =>
        row.accruedCredits * weight (.session deviceId)) +
      (db.accountWallets.sum fun account row =>
        row.balanceCredits * weight (.wallet (.account account)) +
          row.usdcCents * weight (.usdc account) +
          row.depositedUsdcCentsTotal * weight (.deposited account) +
          row.withdrawnUsdcCentsTotal * weight (.withdrawn account)) +
      (db.accountLedger.sum fun row => (if row.asset = .credits then row.amount else 0) *
          weight (.rows (.account row.accountUserId))) +
      (db.providerWallets.sum fun providerId row =>
        row.balanceCredits * weight (.provider providerId)) + (db.contributions.sum fun _ row =>
        row.remainingCredits * weight (.pool row.keyId)) + (db.deposits.sum fun _ row =>
        row.amountUsdcCents * weight (.depositRows row.accountUserId)) +
      (db.withdrawals.sum fun _ row => (if row.status = .pending then row.amountUsdcCents else 0) *
            weight (.pending row.accountUserId) +
          (if row.status = .submitted then row.amountUsdcCents else 0) *
            weight (.submitted row.accountUserId)) := by
  simp only [books, map_add, Table.map_sum, Log.map_sum, BalanceRow.books,
    LedgerRow.books, AvailabilitySessionRow.books, AccountWalletRow.books,
    AccountLedgerRow.books, ProviderWalletRow.books, ContributionRow.books,
    DepositRow.books, WithdrawalRow.books, weigh_single]

/-! ## Single books -/

section SingleBooks

variable (db : Db)

theorem books_apply (book : Book) : books db book =
      db.balances.sum (fun deviceId row => row.books deviceId book) +
        db.ledger.sum (fun row => row.books book) +
        db.availabilitySessions.sum (fun deviceId row => row.books deviceId book) +
        db.accountWallets.sum (fun account row => row.books account book) +
        db.accountLedger.sum (fun row => row.books book) +
        db.providerWallets.sum (fun providerId row => row.books providerId book) +
        db.contributions.sum (fun _ row => row.books book) +
        db.deposits.sum (fun _ row => row.books book) +
        db.withdrawals.sum (fun _ row => row.books book) := by
  simp only [books, Finsupp.add_apply, Table.sum_apply, Log.sum_apply]

attribute [local simp] books_apply BalanceRow.books LedgerRow.books
  AvailabilitySessionRow.books AccountWalletRow.books AccountLedgerRow.books
  ProviderWalletRow.books ContributionRow.books DepositRow.books
  WithdrawalRow.books Finsupp.single_apply

theorem books_device (deviceId : DeviceId) :
    books db (.wallet (.device deviceId)) = db.balanceOf deviceId := by
  rw [Db.balanceOf, ← sum_ite_key]
  simp

theorem books_account : books db (.wallet (.account account)) = db.creditsOf account := by
  rw [Db.creditsOf, ← sum_ite_key]
  simp

theorem books_session (deviceId : DeviceId) : books db (.session deviceId) =
      ((db.availabilitySessions.find? deviceId).map
        AvailabilitySessionRow.accruedCredits).getD 0 := by
  rw [← sum_ite_key]
  simp

theorem books_deviceRows (deviceId : DeviceId) : books db (.rows (.device deviceId)) =
      db.ledger.sum fun row =>
        if row.deviceId = deviceId then row.amount else 0 := by
  simp

theorem books_accountRows : books db (.rows (.account account)) = db.accountLedger.sum fun row =>
        if row.accountUserId = account ∧ row.asset = .credits then
          row.amount
        else 0 := by
  simp [ite_and]

theorem books_usdc : books db (.usdc account) =
      ((db.accountWallets.find? account).map AccountWalletRow.usdcCents).getD 0 := by
  rw [← sum_ite_key]
  simp

theorem books_deposited : books db (.deposited account) = ((db.accountWallets.find? account).map
        AccountWalletRow.depositedUsdcCentsTotal).getD 0 := by
  rw [← sum_ite_key]
  simp

theorem books_withdrawn : books db (.withdrawn account) = ((db.accountWallets.find? account).map
        AccountWalletRow.withdrawnUsdcCentsTotal).getD 0 := by
  rw [← sum_ite_key]
  simp

theorem books_depositRows : books db (.depositRows account) = db.deposits.sum fun _ row =>
        if row.accountUserId = account then row.amountUsdcCents else 0 := by
  simp

theorem books_pending : books db (.pending account) = db.withdrawals.sum fun _ row =>
        if row.accountUserId = account ∧ row.status = .pending then
          row.amountUsdcCents
        else 0 := by
  simp [ite_and]

theorem books_submitted : books db (.submitted account) = db.withdrawals.sum fun _ row =>
        if row.accountUserId = account ∧ row.status = .submitted then
          row.amountUsdcCents
        else 0 := by
  simp [ite_and]

theorem books_provider (providerId : ProviderId) :
    books db (.provider providerId) = db.providerCreditsOf providerId := by
  rw [Db.providerCreditsOf, ← sum_ite_key]
  simp

theorem books_pool (keyId : KeyId) :
    books db (.pool keyId) = sumShareKeyContributions db keyId := by
  simp [sumShareKeyContributions]

end SingleBooks

/-! ## Device statements -/

namespace Db

@[simp] theorem books_ensureDevice (db : Db) (deviceId : DeviceId) (now : Timestamp) :
    books (db.ensureDevice deviceId now) = books db := rfl

@[simp] theorem books_touchDevice (db : Db) (deviceId : DeviceId) (now : Timestamp) :
    books (db.touchDevice deviceId now) = books db := rfl

@[simp] theorem books_drawMintPool (db : Db) (amount : ℤ) :
    books (db.drawMintPool amount) = books db := rfl

@[simp] theorem books_ensureBalance (db : Db) (deviceId : DeviceId) :
    books (db.ensureBalance deviceId) = books db := by
  have weightless : BalanceRow.books deviceId {} = 0 := by simp [BalanceRow.books]
  simp [books, ensureBalance, db.balances.sum_insertOrIgnore_of_weightless _ _ weightless]

theorem books_updateBalance (delta earned spent : ℤ)
    (found : (db.balances.find? deviceId).isSome = true) :
    books (db.updateBalance deviceId delta earned spent) =
      books db + single (.wallet (.device deviceId)) delta := by
  obtain ⟨row, foundRow⟩ := Option.isSome_iff_exists.mp found
  have moved : BalanceRow.books deviceId ⟨row.balance + delta, row.totalEarned + earned,
            row.totalSpent + spent⟩ - BalanceRow.books deviceId row =
        single (.wallet (.device deviceId)) delta := by
    simp [BalanceRow.books, Finsupp.single_add]
  simp only [books, updateBalance]
  rw [sum_modify _ _ _ foundRow, moved]
  abel

theorem books_updateBalance_counters (db : Db) (deviceId : DeviceId) (earned spent : ℤ) :
    books (db.updateBalance deviceId 0 earned spent) = books db := by
  simp only [books, updateBalance]
  rw [sum_modify_of_invisible]
  simp [BalanceRow.books]

@[simp] theorem books_appendLedger (db : Db) (row : LedgerRow) : books (db.appendLedger row) =
      books db + single (.rows (.device row.deviceId)) row.amount := by
  simp only [books, appendLedger, Log.sum_append, LedgerRow.books]
  abel

theorem books_creditBalance (type : LedgerType) (amount : ℤ) (note : Option String)
    (now : Timestamp) (refRequestId : Option String)
    (found : (db.balances.find? deviceId).isSome = true) :
    books (db.creditBalance deviceId type amount note now refRequestId) =
      books db + post ((Wallet.device deviceId).credit amount) := by
  rw [creditBalance, books_updateBalance _ _ _ (by exact found), books_appendLedger]
  simp only [Wallet.credit, post_cons, post_nil, add_zero]
  abel

/-! ## Account statements -/

theorem books_updateWallet {account : AccountUserId} {row : AccountWalletRow}
    (change : AccountWalletRow → AccountWalletRow)
    (found : db.accountWallets.find? account = some row) :
    books (db.updateWallet account change) =
      books db + ((change row).books account - row.books account) := by
  simp only [books, updateWallet]
  rw [sum_modify _ _ _ found]
  abel

theorem books_updateWallet_profile (db : Db) (account : AccountUserId)
    (invisible : ∀ row, (change row).books account = row.books account) :
    books (db.updateWallet account change) = books db := by
  simp only [books, updateWallet]
  rw [sum_modify_of_invisible _ _ _ _ invisible]

theorem books_updateCredits {account : AccountUserId} (delta : ℤ) (now : Timestamp)
    (found : (db.accountWallets.find? account).isSome = true) :
    books (db.updateCredits account delta now) =
      books db + single (.wallet (.account account)) delta := by
  obtain ⟨row, foundRow⟩ := Option.isSome_iff_exists.mp found
  rw [updateCredits, books_updateWallet _ foundRow]
  simp only [AccountWalletRow.books, Finsupp.single_add]
  abel

theorem books_appendAccountLedger {db db' : Db} {row : AccountLedgerRow}
    (ran : db.appendAccountLedger row = .ok db') :
    books db' = books db + row.books := by
  obtain ⟨-, rfl⟩ := appendAccountLedger_ok ran
  simp only [books, Log.sum_append]
  abel

theorem books_updateCredits_append
    {db db' : Db} {account : AccountUserId} {delta : ℤ} {now : Timestamp} {row : AccountLedgerRow}
    (ran : (db.updateCredits account delta now).appendAccountLedger row = .ok db')
    (sameAccount : row.accountUserId = account)
    (sameAmount : row.amount = delta) (isCredits : row.asset = .credits) :
    books db' = books db + post ((Wallet.account account).credit delta) := by
  have hasWallet := (appendAccountLedger_ok ran).1
  rw [sameAccount] at hasWallet
  simp only [updateCredits, updateWallet, isSome_find?_modify] at hasWallet
  rw [books_appendAccountLedger ran, books_updateCredits _ _ hasWallet]
  simp only [AccountLedgerRow.books, isCredits, sameAccount, sameAmount,
    Wallet.credit, post_cons, post_nil, add_zero]
  abel

/-! ## Share keys -/

@[simp] theorem books_updateShareKey
    (db : Db) (keyId : KeyId) (change : ShareKeyRow → ShareKeyRow) :
    books (db.updateShareKey keyId change) = books db := rfl

theorem books_modifyContribution (change : ContributionRow → ContributionRow)
    (found : db.contributions.find? contributionId = some row) : books { db with
        contributions := db.contributions.modify contributionId change } =
      books db + ((change row).books - row.books) := by
  simp only [books]
  rw [sum_modify _ _ _ found]
  abel

end Db

end Teale.Gateway
