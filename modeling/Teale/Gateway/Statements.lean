import Teale.Gateway.Db

/-!
# Statements and failures

The SQL statements the ledger functions are made of, and the errors those functions return. A
statement that can violate a constraint is an `Except`.
-/

namespace Teale.Gateway

open Relational Transactional

/-! ## Errors -/

inductive SqlError
  | foreignKey (table : String)
  | unique (table column : String)
  | check (table column : String)
  | noRows
  deriving DecidableEq, Repr

inductive FundShareKeyError
  | notFound
  | revoked
  | expired
  | notMigrated
  | insufficientBalance (balance required : ℤ)
  deriving DecidableEq, Repr

inductive TransferError
  | unsupportedAsset
  | invalidAmount
  | missingRecipient
  | recipientAccountNotFound
  | recipientDeviceNotFound
  | ambiguousRecipient
  | sameWallet
  | accountNotLinked
  | insufficientBalance (balance required : ℤ)
  deriving DecidableEq, Repr

inductive AccountOnchainError
  | accountNotLinked
  | solanaAddressRequired
  | solanaAddressMismatch
  | solanaWalletNotEnabled
  | invalidUsdcAmount
  | depositAmountRequired
  | missingRequestId
  | missingDestinationAddress
  | depositConflict
  | withdrawalConflict
  | withdrawalSignatureConflict
  | withdrawalNotPending
  | insufficientWithdrawable (balance redeemableCredits required : ℤ)
  deriving DecidableEq, Repr

inductive ReferralError
  | accountNotLinked
  | invalidCode
  | selfReferral
  | deviceAlreadyClaimed
  | accountAlreadyClaimed
  deriving DecidableEq, Repr

/-- Every way a ledger function can fail. The error types of `ledger.rs` wrap
an `anyhow::Error` for the failures they do not name; those are `message` and
`sql` here. A panic unwinds before the transaction commits. -/
inductive LedgerError
  | message (text : String)
  | sql (failure : SqlError)
  | panic
  | fund (failure : FundShareKeyError)
  | transfer (failure : TransferError)
  | onchain (failure : AccountOnchainError)
  | referral (failure : ReferralError)
  deriving DecidableEq, Repr

def TransferError.text : TransferError → String
  | unsupportedAsset => "asset must be 'credits'"
  | invalidAmount => "amount must be greater than zero"
  | missingRecipient => "recipient is required"
  | recipientAccountNotFound => "recipient account not found"
  | recipientDeviceNotFound => "recipient device not found"
  | ambiguousRecipient => "recipient matched multiple accounts"
  | sameWallet => "cannot transfer to the same wallet"
  | accountNotLinked => "requesting device is not linked to an account"
  | insufficientBalance balance required =>
    s!"insufficient credits: balance {balance}, need {required}"

def AccountOnchainError.text : AccountOnchainError → String
  | accountNotLinked => "requesting device is not linked to an account"
  | solanaAddressRequired => "solanaAddress is required when enabling on-chain wallet support"
  | solanaAddressMismatch => "solanaAddress does not match the existing account wallet address"
  | solanaWalletNotEnabled => "solana wallet is not enabled for this account"
  | invalidUsdcAmount => "amountUsdcCents must be greater than zero"
  | depositAmountRequired => "amountUsdcCents is required when txSignature is provided"
  | missingRequestId => "requestID is required"
  | missingDestinationAddress => "destinationAddress is required"
  | depositConflict => "deposit txSignature is already recorded for a different deposit"
  | withdrawalConflict => "withdrawal requestID is already recorded with different details"
  | withdrawalSignatureConflict =>
    "withdrawal txSignature is already recorded for a different request"
  | withdrawalNotPending => "no pending withdrawal for request id"
  | insufficientWithdrawable balance redeemableCredits required =>
    "insufficient withdrawable credits: balance " ++ toString balance ++
      ", redeemable " ++ toString redeemableCredits ++ ", need " ++
      toString required

def ReferralError.text : ReferralError → String
  | accountNotLinked => "requesting device is not linked to an account"
  | invalidCode => "invalid referral code"
  | selfReferral => "cannot refer yourself"
  | deviceAlreadyClaimed => "device already claimed a referral bonus"
  | accountAlreadyClaimed => "account already claimed a referral bonus"

abbrev Tx (α : Type) := Except LedgerError α

namespace Db

/-! ## Devices, balances and the device ledger -/

/-- `INSERT OR IGNORE INTO devices (device_id, first_seen, last_seen)` -/
def ensureDevice (db : Db) (deviceId : DeviceId) (now : Timestamp) : Db :=
  { db with devices := db.devices.insertOrIgnore deviceId ⟨now, now⟩ }

def touchDevice (db : Db) (deviceId : DeviceId) (now : Timestamp) : Db :=
  { db with devices := db.devices.modify deviceId fun row => { row with lastSeen := now } }

def ensureBalance (db : Db) (deviceId : DeviceId) : Db :=
  { db with balances := db.balances.insertOrIgnore deviceId {} }

def updateBalance (db : Db) (deviceId : DeviceId) (delta earned spent : ℤ) : Db :=
  { db with balances := db.balances.modify deviceId fun row =>
      { balance := row.balance + delta
        totalEarned := row.totalEarned + earned
        totalSpent := row.totalSpent + spent } }

/-- `INSERT INTO ledger`; the table has no foreign key. -/
def appendLedger (db : Db) (row : LedgerRow) : Db := { db with ledger := db.ledger.append row }

def drawMintPool (db : Db) (amount : ℤ) : Db := { db with mintPool :=
      { db.mintPool with remaining := max 0 (db.mintPool.remaining - amount) } }

/-- `SELECT balance FROM balances WHERE device_id = ?`, 0 without a row. -/
def balanceOf (db : Db) (deviceId : DeviceId) : ℤ :=
  ((db.balances.find? deviceId).map BalanceRow.balance).getD 0

/-! ## Accounts -/

def updateWallet (db : Db) (accountUserId : AccountUserId)
    (change : AccountWalletRow → AccountWalletRow) : Db :=
  { db with accountWallets := db.accountWallets.modify accountUserId change }

def updateCredits (db : Db) (accountUserId : AccountUserId) (delta : ℤ) (now : Timestamp) : Db :=
  db.updateWallet accountUserId fun row =>
    { row with balanceCredits := row.balanceCredits + delta, updatedAt := now }

/-- `INSERT INTO account_ledger`, with its foreign keys into
`account_wallets` and `api_keys`. -/
def appendAccountLedger (db : Db) (row : AccountLedgerRow) : Tx Db := do
  failIf ((db.accountWallets.find? row.accountUserId).isNone = true)
    (.sql (.foreignKey "account_ledger"))
  failIf ((row.apiKeyId.any fun keyId => (db.apiKeys.find? keyId).isNone) = true)
    (.sql (.foreignKey "account_ledger"))
  pure { db with accountLedger := db.accountLedger.append row }

theorem appendAccountLedger_ok {db db' : Db} {row : AccountLedgerRow}
    (ran : db.appendAccountLedger row = .ok db') :
    (db.accountWallets.find? row.accountUserId).isSome = true ∧
      db' = { db with accountLedger := db.accountLedger.append row } := by
  simp only [appendAccountLedger, ok_iff] at ran
  obtain ⟨hasWallet, -, rfl⟩ := ran
  exact ⟨by simpa [Option.isSome_iff_ne_none] using hasWallet, rfl⟩

def creditsOf (db : Db) (accountUserId : AccountUserId) : ℤ :=
  ((db.accountWallets.find? accountUserId).map AccountWalletRow.balanceCredits).getD 0

def accountUserIdForDevice (db : Db) (deviceId : DeviceId) : Option AccountUserId :=
  (db.accountDevices.find? deviceId).map AccountDeviceRow.accountUserId

/-! ## Share keys -/

def updateShareKey (db : Db) (keyId : KeyId) (change : ShareKeyRow → ShareKeyRow) : Db :=
  { db with shareKeys := db.shareKeys.modify keyId change }

/-- The contributions of a key under a condition, `ORDER BY created_at ASC,
contribution_id ASC`. -/
def contributionsOf (db : Db) (keyId : KeyId) (condition : ContributionRow → Bool) :
    List (String × ContributionRow) :=
  (db.contributions.rows.filter fun row =>
      row.2.keyId == keyId && condition row.2).insertionSort fun left right =>
    left.2.createdAt < right.2.createdAt ∨ (left.2.createdAt = right.2.createdAt ∧ left.1 ≤ right.1)

end Db

end Teale.Gateway
