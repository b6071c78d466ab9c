import Teale.Gateway.Books.Entry
import Teale.Gateway.Ledger.Onchain

/-!
# Every outcome of a deposit and of a withdrawal

What a successful call of each on-chain function can do, with the database it leaves. Later
modules start from these cases.
-/

namespace Teale.Gateway

open Relational Transactional Db

variable {cents : ℤ} {db db' : Db} {requester : DeviceId}
  {depositId usdcNote creditsNote txSignature requestId fresh : String}
  {now : Timestamp} {result : Db × AccountWithdrawalRecord}

theorem creditsFromUsdcCents_ok (ran : creditsFromUsdcCents cents = .ok credits) :
    credits = cents * creditsPerUsdcCent := by
  simp only [creditsFromUsdcCents] at ran
  split at ran
  · exact (Except.ok.inj ran).symm
  · simp at ran

theorem loadRequesterWallet_ok (ran : loadRequesterWallet db requester = .ok loaded) :
    db.accountUserIdForDevice requester = some loaded.1 ∧
      db.accountWallets.find? loaded.1 = some loaded.2 := by
  simp only [loadRequesterWallet, ok_iff] at ran
  obtain ⟨accountUserId, linked, wallet, found, rfl⟩ := ran
  exact ⟨linked, found⟩

/-! ## Deposits -/

def Db.withDeposit (db : Db) (deposit : Deposit) (row : DepositRow)
    (usdcRow creditsRow : AccountLedgerRow) (now : Timestamp) : Db :=
  { db with
    deposits := db.deposits.insertOrIgnore deposit.txSignature row
    accountWallets := db.accountWallets.modify deposit.accountUserId fun wallet =>
      wallet.addDeposit deposit.amountCredits deposit.amountUsdcCents now
    accountLedger := (db.accountLedger.append usdcRow).append creditsRow }

/-- A credited deposit: its row is new, positive and beside a wallet. -/
structure Credited
    (db : Db) (deposit : Deposit) (now : Timestamp) (db' : Db) : Prop where
  fresh : db.deposits.find? deposit.txSignature = none
  hasWallet : (db.accountWallets.find? deposit.accountUserId).isSome = true
  positive : 0 < deposit.amountUsdcCents ∧ 0 < deposit.amountCredits
  result : ∃ depositId usdcRow creditsRow, usdcRow.asset = .usdc ∧ creditsRow.asset = .credits ∧
      creditsRow.accountUserId = deposit.accountUserId ∧
      creditsRow.amount = deposit.amountCredits ∧
      db' = db.withDeposit deposit (deposit.row depositId now positive) usdcRow creditsRow now

theorem creditDeposit_credited
    (ran : creditDeposit db deposit depositId usdcNote creditsNote now = .ok db') :
    Credited db deposit now db' := by
  simp only [creditDeposit, ok_iff, insertDeposit] at ran
  obtain ⟨inserted, ⟨-, fresh, hasWallet, insert⟩, noted, writeUsdc, writeCredits⟩ := ran
  split at insert
  case isFalse => simp at insert
  case isTrue positive =>
    cases insert
    obtain ⟨-, rfl⟩ := appendAccountLedger_ok writeUsdc
    obtain ⟨-, rfl⟩ := appendAccountLedger_ok writeCredits
    exact
      { fresh := by simpa using fresh
        hasWallet := by simpa [Option.isSome_iff_ne_none] using hasWallet
        positive
        result := ⟨depositId, _, _, rfl, rfl, rfl, rfl, rfl⟩ }

/-- A deposit is either a replay of the stored row, which changes nothing, or
credited. -/
theorem recordDeposit_cases {deposit : Deposit} {compareSource : Bool}
    (ran : recordDeposit db deposit compareSource depositId usdcNote
      creditsNote now = .ok db') : (∃ row, db.deposits.find? deposit.txSignature = some row ∧
        row.agrees deposit compareSource = true ∧ db' = db) ∨ Credited db deposit now db' := by
  unfold recordDeposit at ran
  split at ran
  case h_1 row found =>
    simp only [ok_iff] at ran
    obtain ⟨agrees, rfl⟩ := ran
    exact .inl ⟨row, found, by simpa using agrees, rfl⟩
  case h_2 => exact .inr (creditDeposit_credited ran)

theorem recordAccountOnchainDeposit_cases {result : Db × AccountOnchainSnapshot}
    (ran : recordAccountOnchainDeposit db requester req depositId now = .ok result) :
    ∃ accountUserId wallet address, db.accountUserIdForDevice requester = some accountUserId ∧
      db.accountWallets.find? accountUserId = some wallet ∧
      resolveAccountOnchainAddressFromState wallet req.solanaAddress = .ok address ∧
      ((normalizedOptionalString req.txSignature = none ∧
          result.1 = db.updateWallet accountUserId fun row => row.enableSolana address now) ∨
        ∃ txSignature cents usdcNote creditsNote,
          normalizedOptionalString req.txSignature = some txSignature ∧
          req.amountUsdcCents = some cents ∧ 0 < cents ∧ recordDeposit
            (db.updateWallet accountUserId fun row => row.enableSolana address now)
            { accountUserId
              requesterDeviceId := requester
              txSignature
              solanaAddress := address
              sourceAddress := normalizedOptionalString req.sourceAddress
              amountUsdcCents := cents
              amountCredits := cents * creditsPerUsdcCent }
            true depositId usdcNote creditsNote now = .ok result.1) := by
  simp only [recordAccountOnchainDeposit, bind_eq_ok] at ran
  obtain ⟨loaded, load, address, resolved, ran⟩ := ran
  obtain ⟨linked, found⟩ := loadRequesterWallet_ok load
  refine ⟨loaded.1, loaded.2, address, linked, found, resolved, ?_⟩
  cases signature : normalizedOptionalString req.txSignature with
  | none =>
    simp only [signature, ok_iff] at ran
    obtain ⟨_, rfl, _, -, rfl⟩ := ran
    exact .inl ⟨rfl, rfl⟩
  | some txSignature =>
    simp only [signature, ok_iff] at ran
    obtain ⟨cents, hasAmount, positive, credits, converted, recorded, record, _, -, rfl⟩ := ran
    obtain rfl := creditsFromUsdcCents_ok converted
    exact .inr ⟨txSignature, cents, _, _, rfl, hasAmount, by omega, record⟩

theorem recordAccountTreasuryDeposit_cases
    {sourceAddress : Option String} {treasuryAddress : String}
    {result : Db × AccountOnchainSnapshot}
    (ran : recordAccountTreasuryDeposit db requester txSignature cents
      sourceAddress treasuryAddress depositId now = .ok result) :
    ∃ accountUserId wallet usdcNote creditsNote,
      db.accountUserIdForDevice requester = some accountUserId ∧
      db.accountWallets.find? accountUserId = some wallet ∧ 0 < cents ∧ recordDeposit db
        { accountUserId
          requesterDeviceId := requester
          txSignature
          solanaAddress := treasuryAddress
          sourceAddress
          amountUsdcCents := cents
          amountCredits := cents * creditsPerUsdcCent }
        false depositId usdcNote creditsNote now = .ok result.1 := by
  simp only [recordAccountTreasuryDeposit, ok_iff, mapError_eq_ok] at ran
  obtain ⟨positive, credits, converted, loaded, load, recorded, record, _, -, rfl⟩ := ran
  obtain rfl := creditsFromUsdcCents_ok converted
  obtain ⟨linked, found⟩ := loadRequesterWallet_ok load
  exact ⟨loaded.1, loaded.2, _, _, linked, found, by omega, record⟩

/-! ## Withdrawals -/

structure AccountLedgerRow.Records
    (row : AccountLedgerRow) (accountUserId : AccountUserId) (amount : ℤ) :
    Prop where
  isCredits : row.asset = .credits
  account : row.accountUserId = accountUserId
  amount : row.amount = amount

def SignatureFree (db : Db) (requestId txSignature : String) : Prop :=
  ∀ other row, db.withdrawals.find? other = some row → other ≠ requestId →
    row.txSignature ≠ some txSignature

/-- The transitions of one withdrawal request, with the entry each of them
posts. -/
inductive WithdrawalStep
    (db : Db) (requestId : String) (now : Timestamp) : Entry → Db → Prop
  /-- A new request without a signature. -/
  | reserved {row : WithdrawalRow} {wallet : AccountWalletRow} {holdRow : AccountLedgerRow}
      (fresh : db.withdrawals.find? requestId = none)
      (isPending : row.status = .pending) (unsigned : row.txSignature = none)
      (found : db.accountWallets.find? row.accountUserId = some wallet)
      (affordable : row.amountCredits ≤ wallet.balanceCredits)
      (records : holdRow.Records row.accountUserId (-row.amountCredits)) :
      WithdrawalStep db requestId now
        (.hold row.accountUserId row.amountCredits row.amountUsdcCents)
        { db with
          accountWallets := db.accountWallets.modify row.accountUserId
            fun wallet => wallet.debitWithdrawal row.amountCredits row.amountUsdcCents false now
          accountLedger := db.accountLedger.append holdRow
          withdrawals := db.withdrawals.insertOrIgnore requestId row }
  /-- A new request that carries its signature. -/
  | burned {row : WithdrawalRow} {wallet : AccountWalletRow}
      {burnRow outRow : AccountLedgerRow} {txSignature : String}
      (fresh : db.withdrawals.find? requestId = none)
      (found : db.accountWallets.find? row.accountUserId = some wallet)
      (affordable : row.amountCredits ≤ wallet.balanceCredits)
      (records : burnRow.Records row.accountUserId (-row.amountCredits))
      (isUsdc : outRow.asset = .usdc)
      (free : SignatureFree db requestId txSignature) :
      WithdrawalStep db requestId now
        (.burn row.accountUserId row.amountCredits row.amountUsdcCents)
        { db with
          accountWallets := db.accountWallets.modify row.accountUserId
            fun wallet => wallet.debitWithdrawal row.amountCredits row.amountUsdcCents true now
          accountLedger := (db.accountLedger.append burnRow).append outRow
          withdrawals := (db.withdrawals.insertOrIgnore requestId row).modify
            requestId fun row => row.submit txSignature now }
  /-- The payout of a pending request. -/
  | finalized {row : WithdrawalRow} {burnRow outRow : AccountLedgerRow} {txSignature : String}
      (found : db.withdrawals.find? requestId = some row)
      (isPending : row.status = .pending)
      (hasWallet : (db.accountWallets.find? row.accountUserId).isSome = true)
      (records : burnRow.Records row.accountUserId (-row.amountCredits))
      (isUsdc : outRow.asset = .usdc)
      (free : SignatureFree db requestId txSignature) :
      WithdrawalStep db requestId now
        (.finalize row.accountUserId row.amountCredits row.amountUsdcCents)
        { db with
          accountWallets := db.accountWallets.modify row.accountUserId
            fun wallet => wallet.finalizeWithdrawn row.amountUsdcCents now
          accountLedger := (db.accountLedger.append burnRow).append outRow
          withdrawals := db.withdrawals.modify requestId
            fun row => row.submit txSignature now }
  /-- The rejection of a pending request. -/
  | released {row : WithdrawalRow} {refundRow : AccountLedgerRow}
      (found : db.withdrawals.find? requestId = some row)
      (isPending : row.status = .pending)
      (hasWallet : (db.accountWallets.find? row.accountUserId).isSome = true)
      (records : refundRow.Records row.accountUserId row.amountCredits) :
      WithdrawalStep db requestId now
        (.release row.accountUserId row.amountCredits row.amountUsdcCents)
        { db with
          accountWallets := db.accountWallets.modify row.accountUserId
            fun wallet => wallet.releaseWithdrawal row.amountCredits row.amountUsdcCents now
          accountLedger := db.accountLedger.append refundRow
          withdrawals := db.withdrawals.modify requestId
            fun row => row.reject now }

theorem signatureFree_of_any_eq_false (unused : ¬ (db.withdrawals.rows.any fun row =>
      row.1 ≠ requestId && row.2.txSignature = some txSignature) = true) :
    SignatureFree db requestId txSignature := by
  intro other row found different signed
  refine unused (List.any_eq_true.mpr ⟨(other, row), ?_, ?_⟩)
  · exact Table.mem_rows_iff_find?.mpr found
  · simp [different, signed]

theorem finishWithdrawal_ok {account : AccountUserId} {credits : ℤ} {actor : String}
    (ran : finishWithdrawal db requestId account cents credits
      txSignature actor creditsNote usdcNote now = .ok db') :
    (db.accountWallets.find? account).isSome = true ∧ SignatureFree db requestId txSignature ∧
      ∃ burnRow outRow : AccountLedgerRow,
        burnRow.Records account (-credits) ∧ outRow.asset = .usdc ∧ db' = { db with
            accountLedger := (db.accountLedger.append burnRow).append outRow
            withdrawals := db.withdrawals.modify requestId
              fun row => row.submit txSignature now } := by
  simp only [finishWithdrawal, ok_iff, submitWithdrawal] at ran
  obtain ⟨burned, writeBurn, noted, writeOut, unused, rfl⟩ := ran
  obtain ⟨hasWallet, rfl⟩ := appendAccountLedger_ok writeBurn
  obtain ⟨-, rfl⟩ := appendAccountLedger_ok writeOut
  exact ⟨hasWallet, signatureFree_of_any_eq_false unused, _, _, ⟨rfl, rfl, rfl⟩, rfl, rfl⟩

theorem completeAccountWithdrawalFromTreasury_cases
    (ran : completeAccountWithdrawalFromTreasury db requestId txSignature now = .ok result) :
    ∃ row, db.withdrawals.find? requestId = some row ∧ ((row.status ≠ .pending ∧ result.1 = db) ∨
        (row.status = .pending ∧ WithdrawalStep db requestId now
          (.finalize row.accountUserId row.amountCredits row.amountUsdcCents)
          result.1)) := by
  simp only [completeAccountWithdrawalFromTreasury, ok_iff] at ran
  obtain ⟨row, found, ran⟩ := ran
  refine ⟨row, found, ?_⟩
  split at ran
  case isTrue settled =>
    simp only [ok_iff] at ran
    obtain ⟨-, rfl⟩ := ran
    exact .inl ⟨settled, rfl⟩
  case isFalse pending =>
    simp only [ok_iff] at ran
    obtain ⟨-, paid, pay, _, -, rfl⟩ := ran
    obtain ⟨hasWallet, free, burnRow, outRow, records, isUsdc, rfl⟩ := finishWithdrawal_ok pay
    have isPending : row.status = .pending := by simpa using pending
    refine .inr ⟨isPending, ?_⟩
    exact .finalized found isPending
      (by simpa [updateWallet] using hasWallet) records isUsdc free

theorem rejectAccountWithdrawal_cases
    (ran : rejectAccountWithdrawal db requestId reason now = .ok result) :
    ∃ row, db.withdrawals.find? requestId = some row ∧
      row.status = .pending ∧ WithdrawalStep db requestId now
        (.release row.accountUserId row.amountCredits row.amountUsdcCents) result.1 := by
  simp only [rejectAccountWithdrawal, ok_iff] at ran
  obtain ⟨row, found, pending, refunded, writeRefund, _, -, rfl⟩ := ran
  obtain ⟨hasWallet, rfl⟩ := appendAccountLedger_ok writeRefund
  have isPending : row.status = .pending := by simpa using pending
  refine ⟨row, found, isPending, ?_⟩
  exact .released found isPending (by simpa [updateWallet] using hasWallet) ⟨rfl, rfl, rfl⟩

theorem insertWithdrawal_ok (ran : db.insertWithdrawal intent fresh now = .ok db') :
    db.withdrawals.find? intent.requestId = none ∧ ∃ positive, db' = { db with
          withdrawals := db.withdrawals.insertOrIgnore intent.requestId
            (intent.row fresh now positive) } := by
  simp only [insertWithdrawal, ok_iff] at ran
  obtain ⟨-, unused, -, ran⟩ := ran
  split at ran
  case isFalse => simp at ran
  case isTrue positive =>
    cases ran
    exact ⟨by simpa using unused, positive, rfl⟩

inductive SubmitOutcome
    (db : Db) (intent : WithdrawalIntent) (signature : Option String)
    (now : Timestamp) (db' : Db) : Prop
  | replayed {row : WithdrawalRow} (found : db.withdrawals.find? intent.requestId = some row)
      (closed : row.status ≠ .pending ∨ signature = none)
      (unchanged : db' = db)
  | finalized {row : WithdrawalRow} (found : db.withdrawals.find? intent.requestId = some row)
      (isPending : row.status = .pending) (signed : signature.isSome = true)
      (step : WithdrawalStep db intent.requestId now
        (.finalize row.accountUserId row.amountCredits row.amountUsdcCents) db')
  | reserved (fresh : db.withdrawals.find? intent.requestId = none) (unsigned : signature = none)
      (step : WithdrawalStep db intent.requestId now
        (.hold intent.accountUserId intent.amountCredits intent.amountUsdcCents)
        db')
  | burned (fresh : db.withdrawals.find? intent.requestId = none) (signed : signature.isSome = true)
      (step : WithdrawalStep db intent.requestId now
        (.burn intent.accountUserId intent.amountCredits intent.amountUsdcCents)
        db')

theorem submitIntent_outcome
    (hasWallet : db.accountWallets.find? intent.accountUserId = some wallet)
    (ran : submitIntent db intent wallet signature fresh now = .ok result) :
    SubmitOutcome db intent signature now result.1 := by
  unfold submitIntent at ran
  split at ran
  case h_1 row found =>
    simp only [ok_iff] at ran
    obtain ⟨repeats, ran⟩ := ran
    simp only [WithdrawalIntent.repeats, Bool.not_eq_false, Bool.and_eq_true, beq_iff_eq] at repeats
    obtain ⟨⟨⟨sameAccount, -⟩, sameCents⟩, sameCredits⟩ := repeats
    split at ran
    case isTrue settled =>
      simp only [ok_iff] at ran
      obtain ⟨-, rfl⟩ := ran
      exact .replayed found (.inl settled) rfl
    case isFalse pending =>
      have isPending : row.status = .pending := by simpa using pending
      split at ran
      · cases ran
        exact .replayed found (.inr rfl) rfl
      · simp only [burnWithdrawal, ok_iff] at ran
        obtain ⟨_, -, -, paid, pay, _, -, rfl⟩ := ran
        obtain ⟨-, free, burnRow, outRow, records, isUsdc, rfl⟩ := finishWithdrawal_ok pay
        refine .finalized found isPending rfl ?_
        rw [← sameAccount] at records hasWallet ⊢
        rw [← sameCredits] at records
        rw [← sameCents]
        exact .finalized found isPending (by rw [hasWallet]; rfl) records isUsdc free
  case h_2 unused =>
    rw [bind_eq_ok] at ran
    obtain ⟨inserted, insert, ran⟩ := ran
    obtain ⟨-, positive, rfl⟩ := insertWithdrawal_ok insert
    cases signature with
    | none =>
      simp only [reserveWithdrawal, ok_iff] at ran
      obtain ⟨affordable, held, writeHold, _, -, rfl⟩ := ran
      obtain ⟨-, rfl⟩ := appendAccountLedger_ok writeHold
      refine .reserved unused rfl ?_
      exact @WithdrawalStep.reserved _ _ _ (intent.row fresh now positive) _ _
        unused rfl rfl hasWallet (not_lt.mp affordable) ⟨rfl, rfl, rfl⟩
    | some txSignature =>
      simp only [burnWithdrawal, ok_iff] at ran
      obtain ⟨_, -, affordable, paid, pay, _, -, rfl⟩ := ran
      obtain ⟨-, free, burnRow, outRow, records, isUsdc, rfl⟩ := finishWithdrawal_ok pay
      have freeBefore : SignatureFree db intent.requestId txSignature := by
        intro other row found different
        refine free other row ?_ different
        rw [updateWallet, Table.find?_insertOrIgnore, if_neg different]
        exact found
      refine .burned unused rfl ?_
      exact @WithdrawalStep.burned _ _ _ (intent.row fresh now positive) _ _ _ _
        unused hasWallet (by simpa [WithdrawalIntent.row] using affordable)
        records isUsdc freeBefore

/-- The intent of a submission that got as far as the withdrawals table. -/
def AccountWithdrawalRequest.intent (req : AccountWithdrawalRequest) (requesterDeviceId : DeviceId)
    (accountUserId : AccountUserId) (requestId destinationAddress : String) : WithdrawalIntent where
  requesterDeviceId
  accountUserId
  requestId
  destinationAddress
  amountUsdcCents := req.amountUsdcCents
  amountCredits := req.amountUsdcCents * creditsPerUsdcCent

theorem submitAccountWithdrawal_cases
    (ran : submitAccountWithdrawal db requester req fresh now = .ok result) :
    ∃ requestId destination accountUserId,
      normalizedOptionalString (some req.requestId) = some requestId ∧
      db.accountUserIdForDevice requester = some accountUserId ∧ SubmitOutcome db
        (req.intent requester accountUserId requestId destination)
        (normalizedOptionalString req.txSignature) now result.1 := by
  simp only [submitAccountWithdrawal, ok_iff] at ran
  obtain ⟨requestId, named, destination, -, -, loaded, load, -, credits,
    converted, -, submitted⟩ := ran
  obtain ⟨linked, found⟩ := loadRequesterWallet_ok load
  obtain rfl := creditsFromUsdcCents_ok converted
  refine ⟨requestId, destination, loaded.1, named, linked, ?_⟩
  exact submitIntent_outcome found submitted

end Teale.Gateway
