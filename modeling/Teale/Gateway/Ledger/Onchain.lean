import Teale.Gateway.Ledger.Accounts

/-!
# On-chain deposits and withdrawals

The two entry points that credit a verified USDC deposit, and the life cycle of a withdrawal
request.
-/

namespace Teale.Gateway

open Relational Transactional

/-- `AccountOnchainSnapshot`; the wallet's own columns are `wallet`. -/
structure AccountOnchainSnapshot where
  accountUserId : AccountUserId
  wallet : AccountWalletRow
  redeemableUsdcCents : ℤ
  withdrawableCredits : ℤ

def accountOnchainSummary (db : Db) (accountUserId : AccountUserId) :
    Tx AccountOnchainSnapshot := do
  let wallet ← getOr (db.accountWallets.find? accountUserId) (.sql .noRows)
  pure
    { accountUserId
      wallet
      redeemableUsdcCents := redeemableUsdcCents
        wallet.depositedUsdcCentsTotal wallet.withdrawnUsdcCentsTotal
      withdrawableCredits := withdrawableCredits wallet.balanceCredits
        wallet.depositedUsdcCentsTotal wallet.withdrawnUsdcCentsTotal }

def resolveAccountOnchainAddressFromState
    (wallet : AccountWalletRow) (requestedAddress : Option String) : Tx String :=
  match wallet.solanaAddress, normalizedOptionalString requestedAddress with
  | some existing, some requested =>
    if existing ≠ requested then
      .error (.onchain .solanaAddressMismatch)
    else
      .ok existing
  | some existing, none => .ok existing
  | none, some requested => .ok requested
  | none, none => .error (.onchain .solanaAddressRequired)

def loadRequesterWallet (db : Db) (requesterDeviceId : DeviceId) :
    Tx (AccountUserId × AccountWalletRow) := do
  let accountUserId ← getOr (db.accountUserIdForDevice requesterDeviceId)
    (.onchain .accountNotLinked)
  let wallet ← getOr (db.accountWallets.find? accountUserId) (.sql .noRows)
  pure (accountUserId, wallet)

def resolveAccountOnchainAddressForDevice (db : Db) (requesterDeviceId : DeviceId)
    (requestedAddress : Option String) : Tx String := do
  let requester ← loadRequesterWallet db requesterDeviceId
  resolveAccountOnchainAddressFromState requester.2 requestedAddress

/-! ## Changes of a wallet row -/

namespace AccountWalletRow

def enableSolana (row : AccountWalletRow) (address : String) (now : Timestamp) : AccountWalletRow :=
  { row with
    solanaAddress := some address
    solanaEnabled := true
    updatedAt := now }

def addDeposit (row : AccountWalletRow) (amountCredits amountUsdcCents : ℤ)
    (now : Timestamp) : AccountWalletRow :=
  { row with
    balanceCredits := row.balanceCredits + amountCredits
    usdcCents := row.usdcCents + amountUsdcCents
    depositedUsdcCentsTotal := row.depositedUsdcCentsTotal + amountUsdcCents
    updatedAt := now }

/-- The debit of a new withdrawal request: credits and cents leave the wallet
at once, and count as withdrawn only when the request is already signed. -/
def debitWithdrawal (row : AccountWalletRow)
    (amountCredits amountUsdcCents : ℤ) (signed : Bool) (now : Timestamp) : AccountWalletRow :=
  { row with
    balanceCredits := row.balanceCredits - amountCredits
    usdcCents := row.usdcCents - amountUsdcCents
    withdrawnUsdcCentsTotal := row.withdrawnUsdcCentsTotal + (if signed then amountUsdcCents else 0)
    updatedAt := now }

/-- The total of funds that were reserved when the request was made. -/
def finalizeWithdrawn (row : AccountWalletRow) (amountUsdcCents : ℤ)
    (now : Timestamp) : AccountWalletRow :=
  { row with
    withdrawnUsdcCentsTotal := row.withdrawnUsdcCentsTotal + amountUsdcCents
    updatedAt := now }

def releaseWithdrawal (row : AccountWalletRow)
    (amountCredits amountUsdcCents : ℤ) (now : Timestamp) : AccountWalletRow :=
  { row with
    balanceCredits := row.balanceCredits + amountCredits
    usdcCents := row.usdcCents + amountUsdcCents
    updatedAt := now }

end AccountWalletRow

/-! ## Deposits -/

structure AccountOnchainDepositIntent where
  solanaAddress : Option String := none
  txSignature : Option String := none
  sourceAddress : Option String := none
  amountUsdcCents : Option ℤ := none
  deriving DecidableEq, Repr

/-- What the two deposit functions know about the deposit they record. -/
structure Deposit where
  accountUserId : AccountUserId
  requesterDeviceId : DeviceId
  txSignature : String
  solanaAddress : String
  sourceAddress : Option String
  amountUsdcCents : ℤ
  amountCredits : ℤ

def Deposit.row (deposit : Deposit) (depositId : String) (now : Timestamp)
    (positive : 0 < deposit.amountUsdcCents ∧ 0 < deposit.amountCredits) : DepositRow where
  depositId
  accountUserId := deposit.accountUserId
  solanaAddress := deposit.solanaAddress
  sourceAddress := deposit.sourceAddress
  amountUsdcCents := deposit.amountUsdcCents
  amountCredits := deposit.amountCredits
  createdAt := now
  centsPos := positive.1
  creditsPos := positive.2

def Db.insertDeposit (db : Db) (deposit : Deposit) (depositId : String) (now : Timestamp) :
    Tx Db := do
  failIf ((db.deposits.rows.any fun row => row.2.depositId = depositId) = true)
    (.sql (.unique "account_onchain_deposits" "deposit_id"))
  failIf ((db.deposits.find? deposit.txSignature).isSome = true)
    (.sql (.unique "account_onchain_deposits" "tx_signature"))
  failIf ((db.accountWallets.find? deposit.accountUserId).isNone = true)
    (.sql (.foreignKey "account_onchain_deposits"))
  if positive : 0 < deposit.amountUsdcCents ∧ 0 < deposit.amountCredits then
    pure { db with
        deposits := db.deposits.insertOrIgnore deposit.txSignature
          (deposit.row depositId now positive) }
  else
    .error (.sql (.check "account_onchain_deposits" "amount_usdc_cents"))

/-- The credit of a deposit that has not been recorded yet. The two entry
points differ only in the notes. -/
def creditDeposit (db : Db) (deposit : Deposit) (depositId usdcNote creditsNote : String)
    (now : Timestamp) : Tx Db := do
  let db ← db.insertDeposit deposit depositId now
  let db := db.updateWallet deposit.accountUserId fun row =>
    row.addDeposit deposit.amountCredits deposit.amountUsdcCents now
  let db ← db.appendAccountLedger
    { accountUserId := deposit.accountUserId
      asset := .usdc
      amount := deposit.amountUsdcCents
      type := .onchainDepositIn
      timestamp := now
      deviceId := some deposit.requesterDeviceId
      note := some usdcNote }
  db.appendAccountLedger
    { accountUserId := deposit.accountUserId
      asset := .credits
      amount := deposit.amountCredits
      type := .onchainDepositCredit
      timestamp := now
      deviceId := some deposit.requesterDeviceId
      note := some creditsNote }

/-- A replay is accepted only when it repeats the stored row. The on-chain
path also compares the source address. -/
def DepositRow.agrees (row : DepositRow) (deposit : Deposit) (compareSource : Bool) : Bool :=
  row.accountUserId == deposit.accountUserId && row.solanaAddress == deposit.solanaAddress &&
    row.amountUsdcCents == deposit.amountUsdcCents &&
    (!compareSource || row.sourceAddress == deposit.sourceAddress)

def recordDeposit (db : Db) (deposit : Deposit) (compareSource : Bool)
    (depositId usdcNote creditsNote : String) (now : Timestamp) : Tx Db :=
  match db.deposits.find? deposit.txSignature with
  | some row => do
    failIf (row.agrees deposit compareSource = false) (.onchain .depositConflict)
    pure db
  | none => creditDeposit db deposit depositId usdcNote creditsNote now

/-- `record_account_onchain_deposit`: enabling the wallet, and crediting the
deposit when the request carries a signature. -/
def recordAccountOnchainDeposit (db : Db) (requesterDeviceId : DeviceId)
    (req : AccountOnchainDepositIntent) (depositId : String)
    (now : Timestamp) : Tx (Db × AccountOnchainSnapshot) := do
  let requester ← loadRequesterWallet db requesterDeviceId
  let effectiveAddress ← resolveAccountOnchainAddressFromState requester.2
    req.solanaAddress
  let db := db.updateWallet requester.1 fun row =>
    row.enableSolana effectiveAddress now
  let db ←
    match normalizedOptionalString req.txSignature with
    | none => pure db
    | some txSignature => do
      let amountUsdcCents ← getOr req.amountUsdcCents
        (.onchain .depositAmountRequired)
      failIf (amountUsdcCents ≤ 0) (.onchain .invalidUsdcAmount)
      let amountCredits ← creditsFromUsdcCents amountUsdcCents
      recordDeposit db
        { accountUserId := requester.1
          requesterDeviceId
          txSignature
          solanaAddress := effectiveAddress
          sourceAddress := normalizedOptionalString req.sourceAddress
          amountUsdcCents
          amountCredits }
        true depositId ("deposit " ++ txSignature ++ " to " ++ effectiveAddress)
        ("credited from deposit " ++ txSignature) now
  let snapshot ← accountOnchainSummary db requester.1
  pure (db, snapshot)

def treasuryDepositMemo (accountUserId : AccountUserId) : String :=
  "teale:deposit:" ++ accountUserId

/-- `record_account_treasury_deposit`. The signature is used as it is given,
and a replay need not repeat the source address. -/
def recordAccountTreasuryDeposit (db : Db) (requesterDeviceId : DeviceId) (txSignature : String)
    (amountUsdcCents : ℤ) (sourceAddress : Option String)
    (treasuryAddress : String) (depositId : String) (now : Timestamp) :
    Tx (Db × AccountOnchainSnapshot) := do
  failIf (amountUsdcCents ≤ 0) (.onchain .invalidUsdcAmount)
  let amountCredits ← (creditsFromUsdcCents amountUsdcCents).mapError fun _ =>
    .onchain .invalidUsdcAmount
  let requester ← loadRequesterWallet db requesterDeviceId
  let db ← recordDeposit db
    { accountUserId := requester.1
      requesterDeviceId
      txSignature
      solanaAddress := treasuryAddress
      sourceAddress
      amountUsdcCents
      amountCredits }
    false depositId ("treasury deposit " ++ txSignature)
    ("credited from treasury deposit " ++ txSignature) now
  let snapshot ← accountOnchainSummary db requester.1
  pure (db, snapshot)

/-! ## Withdrawals -/

structure AccountWithdrawalRequest where
  requestId : String
  destinationAddress : String
  amountUsdcCents : ℤ
  txSignature : Option String
  deriving DecidableEq, Repr

abbrev AccountWithdrawalRecord := String × WithdrawalRow

def listAccountWithdrawals (db : Db) (accountUserId : AccountUserId) (limit : ℕ) :
    List AccountWithdrawalRecord :=
  ((db.withdrawals.rows.filter fun row =>
      row.2.accountUserId = accountUserId).insertionSort fun left right =>
    right.2.createdAt < left.2.createdAt ∨ (left.2.createdAt = right.2.createdAt ∧
        right.2.withdrawalId ≤ left.2.withdrawalId)).take limit

def requestBySignature (db : Db) (txSignature : String) : Option String :=
  (db.withdrawals.rows.find? fun row => row.2.txSignature = some txSignature).map Prod.fst

/-- The parts of a withdrawal request after the checks that precede the
transaction's writes. -/
structure WithdrawalIntent where
  requesterDeviceId : DeviceId
  accountUserId : AccountUserId
  requestId : String
  destinationAddress : String
  amountUsdcCents : ℤ
  amountCredits : ℤ

def WithdrawalIntent.repeats (intent : WithdrawalIntent) (row : WithdrawalRow) : Bool :=
  row.accountUserId == intent.accountUserId &&
    row.destinationAddress == intent.destinationAddress &&
    row.amountUsdcCents == intent.amountUsdcCents &&
    row.amountCredits == intent.amountCredits

def WithdrawalIntent.row (intent : WithdrawalIntent) (withdrawalId : String) (now : Timestamp)
    (positive : 0 < intent.amountUsdcCents ∧ 0 < intent.amountCredits) : WithdrawalRow where
  withdrawalId
  accountUserId := intent.accountUserId
  destinationAddress := intent.destinationAddress
  amountUsdcCents := intent.amountUsdcCents
  amountCredits := intent.amountCredits
  status := .pending
  txSignature := none
  createdAt := now
  completedAt := none
  centsPos := positive.1
  creditsPos := positive.2

def Db.insertWithdrawal (db : Db) (intent : WithdrawalIntent) (withdrawalId : String)
    (now : Timestamp) : Tx Db := do
  failIf ((db.withdrawals.rows.any fun other => other.2.withdrawalId = withdrawalId) = true)
    (.sql (.unique "account_withdrawals" "withdrawal_id"))
  failIf ((db.withdrawals.find? intent.requestId).isSome = true)
    (.sql (.unique "account_withdrawals" "request_id"))
  failIf ((db.accountWallets.find? intent.accountUserId).isNone = true)
    (.sql (.foreignKey "account_withdrawals"))
  if positive : 0 < intent.amountUsdcCents ∧ 0 < intent.amountCredits then
    pure { db with
        withdrawals := db.withdrawals.insertOrIgnore intent.requestId
          (intent.row withdrawalId now positive) }
  else
    .error (.sql (.check "account_withdrawals" "amount_usdc_cents"))

def WithdrawalRow.submit (row : WithdrawalRow) (txSignature : String)
    (now : Timestamp) : WithdrawalRow :=
  { row with
    status := .submitted
    txSignature := some txSignature
    completedAt := some now }

def WithdrawalRow.reject (row : WithdrawalRow) (now : Timestamp) : WithdrawalRow :=
  { row with status := .rejected, completedAt := some now }

def Db.submitWithdrawal (db : Db) (requestId txSignature : String) (now : Timestamp) : Tx Db := do
  failIf ((db.withdrawals.rows.any fun row =>
      row.1 ≠ requestId && row.2.txSignature = some txSignature) = true)
    (.sql (.unique "account_withdrawals" "tx_signature"))
  pure { db with
      withdrawals := db.withdrawals.modify requestId fun row =>
        row.submit txSignature now }

def Db.rejectWithdrawal (db : Db) (requestId : String) (now : Timestamp) : Db := { db with
    withdrawals := db.withdrawals.modify requestId fun row =>
      row.reject now }

def finishWithdrawal (db : Db) (requestId : String) (accountUserId : AccountUserId)
    (amountUsdcCents amountCredits : ℤ) (txSignature : String)
    (actor creditsNote usdcNote : String) (now : Timestamp) : Tx Db := do
  let db ← db.appendAccountLedger
    { accountUserId
      asset := .credits
      amount := -amountCredits
      type := .onchainWithdrawalBurn
      timestamp := now
      deviceId := some actor
      note := some creditsNote }
  let db ← db.appendAccountLedger
    { accountUserId
      asset := .usdc
      amount := -amountUsdcCents
      type := .onchainWithdrawalOut
      timestamp := now
      deviceId := some actor
      note := some usdcNote }
  db.submitWithdrawal requestId txSignature now

def completeAccountWithdrawalFromTreasury
    (db : Db) (requestId txSignature : String) (now : Timestamp) :
    Tx (Db × AccountWithdrawalRecord) := do
  let existing ← getOr (db.withdrawals.find? requestId)
    (.onchain .withdrawalNotPending)
  if existing.status ≠ .pending then
    failIf (existing.txSignature ≠ some txSignature) (.onchain .withdrawalConflict)
    pure (db, (requestId, existing))
  else
    failIf ((requestBySignature db txSignature).isSome = true)
      (.onchain .withdrawalSignatureConflict)
    let db ← finishWithdrawal
      (db.updateWallet existing.accountUserId fun row =>
        row.finalizeWithdrawn existing.amountUsdcCents now)
      requestId existing.accountUserId existing.amountUsdcCents
      existing.amountCredits txSignature "treasury-payout"
      ("burned for treasury payout " ++ requestId)
      ("treasury payout " ++ requestId ++ " to " ++ existing.destinationAddress)
      now
    let record ← getOr (db.withdrawals.find? requestId) (.sql .noRows)
    pure (db, (requestId, record))

def rejectAccountWithdrawal (db : Db) (requestId : String) (reason : Option String)
    (now : Timestamp) : Tx (Db × AccountWithdrawalRecord) := do
  let existing ← getOr (db.withdrawals.find? requestId)
    (.onchain .withdrawalNotPending)
  failIf (existing.status ≠ .pending) (.onchain .withdrawalConflict)
  let db ← (db.updateWallet existing.accountUserId fun row =>
    row.releaseWithdrawal existing.amountCredits existing.amountUsdcCents now).appendAccountLedger
    { accountUserId := existing.accountUserId
      asset := .credits
      amount := existing.amountCredits
      type := .onchainWithdrawalRefund
      timestamp := now
      deviceId := some "treasury-payout"
      note := some ("refunded rejected withdrawal " ++ requestId ++ " (" ++
        reason.getD "no reason given" ++ ")") }
  let db := db.rejectWithdrawal requestId now
  let record ← getOr (db.withdrawals.find? requestId) (.sql .noRows)
  pure (db, (requestId, record))

def reserveWithdrawal (db : Db) (intent : WithdrawalIntent) (wallet : AccountWalletRow)
    (now : Timestamp) : Tx (Db × AccountWithdrawalRecord) := do
  failIf (wallet.balanceCredits < intent.amountCredits)
    (.onchain (.insufficientWithdrawable wallet.balanceCredits
      wallet.balanceCredits intent.amountCredits))
  let db ← (db.updateWallet intent.accountUserId fun row =>
    row.debitWithdrawal intent.amountCredits intent.amountUsdcCents false now).appendAccountLedger
    { accountUserId := intent.accountUserId
      asset := .credits
      amount := -intent.amountCredits
      type := .onchainWithdrawalHold
      timestamp := now
      deviceId := some intent.requesterDeviceId
      note := some ("reserved for withdrawal request " ++ intent.requestId) }
  let record ← getOr
    (listAccountWithdrawals db intent.accountUserId 1).head?
    (.message "withdrawal not found after insert")
  pure (db, record)

/-- A request with a signature: burn a fresh request, or finalize the totals
of one whose funds were reserved before. -/
def burnWithdrawal (db : Db) (intent : WithdrawalIntent) (wallet : AccountWalletRow)
    (wasReserved : Bool) (txSignature : String) (now : Timestamp) :
    Tx (Db × AccountWithdrawalRecord) := do
  let redeemableCredits ← creditsFromUsdcCents (redeemableUsdcCents
    wallet.depositedUsdcCentsTotal wallet.withdrawnUsdcCentsTotal)
  failIf (wasReserved = false ∧ wallet.balanceCredits < intent.amountCredits)
    (.onchain (.insufficientWithdrawable wallet.balanceCredits
      redeemableCredits intent.amountCredits))
  let db := db.updateWallet intent.accountUserId fun row =>
    if wasReserved then
      row.finalizeWithdrawn intent.amountUsdcCents now
    else
      row.debitWithdrawal intent.amountCredits intent.amountUsdcCents true now
  let db ← finishWithdrawal db intent.requestId intent.accountUserId
    intent.amountUsdcCents intent.amountCredits txSignature
    intent.requesterDeviceId ("burned for withdrawal " ++ intent.requestId)
    ("withdrawal " ++ intent.requestId ++ " to " ++ intent.destinationAddress)
    now
  let record ← getOr (db.withdrawals.find? intent.requestId) (.sql .noRows)
  pure (db, (intent.requestId, record))

def submitIntent (db : Db) (intent : WithdrawalIntent) (wallet : AccountWalletRow)
    (providedSignature : Option String) (fresh : String) (now : Timestamp) :
    Tx (Db × AccountWithdrawalRecord) :=
  match db.withdrawals.find? intent.requestId with
  | some existing => do
    failIf (intent.repeats existing = false) (.onchain .withdrawalConflict)
    if existing.status ≠ .pending then
      failIf (providedSignature.isSome = true ∧ existing.txSignature ≠ providedSignature)
        (.onchain .withdrawalConflict)
      pure (db, (intent.requestId, existing))
    else
      match providedSignature with
      | none => pure (db, (intent.requestId, existing))
      | some txSignature => burnWithdrawal db intent wallet true txSignature now
  | none => do
    let db ← db.insertWithdrawal intent fresh now
    match providedSignature with
    | none => reserveWithdrawal db intent wallet now
    | some txSignature => burnWithdrawal db intent wallet false txSignature now

def submitAccountWithdrawal
    (db : Db) (requesterDeviceId : DeviceId) (req : AccountWithdrawalRequest)
    (fresh : String) (now : Timestamp) : Tx (Db × AccountWithdrawalRecord) := do
  let requestId ← getOr (normalizedOptionalString (some req.requestId))
    (.onchain .missingRequestId)
  let destinationAddress ← getOr
    (normalizedOptionalString (some req.destinationAddress))
    (.onchain .missingDestinationAddress)
  failIf (req.amountUsdcCents ≤ 0) (.onchain .invalidUsdcAmount)
  let requester ← loadRequesterWallet db requesterDeviceId
  failIf (requester.2.solanaEnabled = false ∨ requester.2.solanaAddress.isNone = true)
    (.onchain .solanaWalletNotEnabled)
  let amountCredits ← creditsFromUsdcCents req.amountUsdcCents
  let providedSignature := normalizedOptionalString req.txSignature
  failIf ((providedSignature.any fun signature =>
      (requestBySignature db signature).any fun other =>
        other ≠ requestId) = true)
    (.onchain .withdrawalSignatureConflict)
  submitIntent db
    { requesterDeviceId
      accountUserId := requester.1
      requestId
      destinationAddress
      amountUsdcCents := req.amountUsdcCents
      amountCredits }
    requester.2 providedSignature fresh now

end Teale.Gateway
