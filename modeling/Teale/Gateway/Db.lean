import Teale.Lib.Table
import Teale.Lib.Transaction

/-!
# The gateway database

The tables of `gateway/src/db.rs`, each under its primary key; deposits are kept under
`tx_signature` and withdrawals under `request_id`, both `NOT NULL UNIQUE`. A `CHECK` on a row is a
field of the row type; other constraints are checked by the statements. `INTEGER` columns are read
as unbounded integers.
-/

namespace Teale.Gateway

open Relational Transactional

abbrev DeviceId := String
abbrev AccountUserId := String
abbrev ProviderId := String
abbrev KeyId := String
abbrev Timestamp := ℤ

/-! ## Row types -/

/-- `LedgerType` of `ledger.rs`, followed by the row types the code writes as
string literals. -/
inductive LedgerType
  | bonus
  | directEarn
  | availabilityEarn
  | availabilityDrip
  | availabilitySession
  | spent
  | opsFee
  | shareKeyFund
  | shareKeyRefund
  | adminMint
  | providerEarn
  | providerPayout
  | referralBonus
  | transferOut
  | transferIn
  | accountSweepOut
  | sweepIn
  | inferenceSpent
  | onchainDepositIn
  | onchainDepositCredit
  | onchainWithdrawalHold
  | onchainWithdrawalBurn
  | onchainWithdrawalOut
  | onchainWithdrawalRefund
  deriving DecidableEq, Repr

def LedgerType.asStr : LedgerType → String
  | bonus => "BONUS"
  | directEarn => "DIRECT_EARN"
  | availabilityEarn => "AVAILABILITY_EARN"
  | availabilityDrip => "AVAILABILITY_DRIP"
  | availabilitySession => "AVAILABILITY_SESSION"
  | spent => "SPENT"
  | opsFee => "OPS_FEE"
  | shareKeyFund => "SHARE_KEY_FUND"
  | shareKeyRefund => "SHARE_KEY_REFUND"
  | adminMint => "ADMIN_MINT"
  | providerEarn => "PROVIDER_EARN"
  | providerPayout => "PROVIDER_PAYOUT"
  | referralBonus => "REFERRAL_BONUS"
  | transferOut => "TRANSFER_OUT"
  | transferIn => "TRANSFER_IN"
  | accountSweepOut => "ACCOUNT_SWEEP_OUT"
  | sweepIn => "SWEEP_IN"
  | inferenceSpent => "INFERENCE_SPENT"
  | onchainDepositIn => "ONCHAIN_DEPOSIT_IN"
  | onchainDepositCredit => "ONCHAIN_DEPOSIT_CREDIT"
  | onchainWithdrawalHold => "ONCHAIN_WITHDRAWAL_HOLD"
  | onchainWithdrawalBurn => "ONCHAIN_WITHDRAWAL_BURN"
  | onchainWithdrawalOut => "ONCHAIN_WITHDRAWAL_OUT"
  | onchainWithdrawalRefund => "ONCHAIN_WITHDRAWAL_REFUND"

structure MintPool where
  totalMinted : ℤ
  remaining : ℤ

structure DeviceRow where
  firstSeen : Timestamp
  lastSeen : Timestamp

structure TokenRow where
  deviceId : DeviceId
  expiresAt : Timestamp

structure LedgerRow where
  deviceId : DeviceId
  type : LedgerType
  amount : ℤ
  timestamp : Timestamp
  refRequestId : Option String := none
  note : Option String

/-- A row of `balances`; the defaults are those of the schema. -/
structure BalanceRow where
  balance : ℤ := 0
  totalEarned : ℤ := 0
  totalSpent : ℤ := 0

structure ShareKeyRow where
  token : String
  issuerDeviceId : DeviceId
  label : Option String
  expiresAt : Timestamp
  budgetCredits : ℤ
  consumedCredits : ℤ
  createdAt : Timestamp
  revokedAt : Option Timestamp
  funded : Bool
  fundingId : Option String
  refundsSettledAt : Option Timestamp

inductive RefundReason
  | expired
  | revoked
  | legacyRevoked
  | legacyExpired
  | legacyExpiredRefunded
  deriving DecidableEq, Repr

def RefundReason.asStr : RefundReason → String
  | expired => "expired"
  | revoked => "revoked"
  | legacyRevoked => "legacy_revoked"
  | legacyExpired => "legacy_expired"
  | legacyExpiredRefunded => "legacy_expired_refunded"

/-- A row of `share_key_contributions`, with the two `CHECK`s of the table. -/
structure ContributionRow where
  keyId : KeyId
  funderDeviceId : DeviceId
  fundedCredits : ℤ
  remainingCredits : ℤ
  createdAt : Timestamp
  refundedAt : Option Timestamp
  refundReason : Option RefundReason
  fundedPos : 0 < fundedCredits
  remainingNonneg : 0 ≤ remainingCredits

structure AccountWalletRow where
  displayName : Option String
  phone : Option String
  email : Option String
  githubUsername : Option String
  balanceCredits : ℤ := 0
  usdcCents : ℤ := 0
  createdAt : Timestamp
  updatedAt : Timestamp
  solanaAddress : Option String := none
  solanaEnabled : Bool := false
  depositedUsdcCentsTotal : ℤ := 0
  withdrawnUsdcCentsTotal : ℤ := 0

structure AccountDeviceRow where
  accountUserId : AccountUserId
  deviceName : Option String
  platform : Option String
  linkedAt : Timestamp
  lastSeen : Timestamp

inductive Asset
  | credits
  | usdc
  deriving DecidableEq, Repr

def Asset.asStr : Asset → String
  | credits => "credits"
  | usdc => "usdc"

structure AccountLedgerRow where
  accountUserId : AccountUserId
  asset : Asset
  amount : ℤ
  type : LedgerType
  timestamp : Timestamp
  deviceId : Option String
  note : Option String
  apiKeyId : Option KeyId := none

structure AvailabilitySessionRow where
  modelId : Option String
  startedAt : Timestamp
  lastAccruedAt : Timestamp
  accruedCredits : ℤ

structure ProviderWalletRow where
  balanceCredits : ℤ := 0
  totalEarned : ℤ := 0
  totalPaidOut : ℤ := 0
  updatedAt : Timestamp

structure ProviderLedgerRow where
  providerId : ProviderId
  type : LedgerType
  amount : ℤ
  timestamp : Timestamp
  refRequestId : Option String := none
  modelId : Option String := none
  note : Option String

/-- A row of `account_onchain_deposits`, with the `CHECK`s on its amounts. -/
structure DepositRow where
  depositId : String
  accountUserId : AccountUserId
  solanaAddress : String
  sourceAddress : Option String
  amountUsdcCents : ℤ
  amountCredits : ℤ
  createdAt : Timestamp
  centsPos : 0 < amountUsdcCents
  creditsPos : 0 < amountCredits

inductive WithdrawalStatus
  | pending
  | submitted
  | rejected
  deriving DecidableEq, Repr

def WithdrawalStatus.asStr : WithdrawalStatus → String
  | pending => "pending"
  | submitted => "submitted"
  | rejected => "rejected"

/-- A row of `account_withdrawals`, with the `CHECK`s on its amounts. -/
structure WithdrawalRow where
  withdrawalId : String
  accountUserId : AccountUserId
  destinationAddress : String
  amountUsdcCents : ℤ
  amountCredits : ℤ
  status : WithdrawalStatus
  txSignature : Option String
  createdAt : Timestamp
  completedAt : Option Timestamp
  centsPos : 0 < amountUsdcCents
  creditsPos : 0 < amountCredits

/-- The three owner columns of `referral_codes` and of `referral_claims`:
`owner_kind` says which of the two id columns is set. -/
inductive ReferralOwner
  | device (deviceId : DeviceId)
  | account (accountUserId : AccountUserId)
  deriving DecidableEq, Repr

structure ReferralCodeRow where
  owner : ReferralOwner
  createdAt : Timestamp

structure ReferralClaimRow where
  code : String
  referrer : ReferralOwner
  referred : ReferralOwner
  referrerBonusCredits : ℤ
  referredBonusCredits : ℤ
  createdAt : Timestamp

inductive ApiKeyRole
  | live
  | provisioning
  deriving DecidableEq, Repr

structure ApiKeyRow where
  accountUserId : AccountUserId
  keyHash : String
  tokenPrefix : String
  name : Option String
  role : ApiKeyRole
  creditLimit : Option ℤ
  usageCredits : ℤ
  disabled : Bool
  createdAt : Timestamp
  lastUsedAt : Option Timestamp

structure EmailCodeRow where
  email : String
  codeHash : String
  createdAt : Timestamp
  expiresAt : Timestamp
  attempts : ℤ
  consumedAt : Option Timestamp
  linkTokenHash : Option String

structure AccountSessionRow where
  accountUserId : AccountUserId
  tokenHash : String
  createdAt : Timestamp
  expiresAt : Timestamp
  lastSeenAt : Timestamp
  deviceId : Option String
  deviceName : Option String
  revokedAt : Option Timestamp

/-! ## The database -/

structure Db where
  mintPool : MintPool
  devices : Table DeviceId DeviceRow
  tokens : Table String TokenRow
  challenges : Table (DeviceId × String) Timestamp
  ledger : Log LedgerRow
  balances : Table DeviceId BalanceRow
  shareKeys : Table KeyId ShareKeyRow
  contributions : Table String ContributionRow
  accountWallets : Table AccountUserId AccountWalletRow
  accountDevices : Table DeviceId AccountDeviceRow
  accountLedger : Log AccountLedgerRow
  availabilitySessions : Table DeviceId AvailabilitySessionRow
  providers : Table ProviderId String
  providerWallets : Table ProviderId ProviderWalletRow
  providerLedger : Log ProviderLedgerRow
  deposits : Table String DepositRow
  withdrawals : Table String WithdrawalRow
  referralCodes : Table String ReferralCodeRow
  referralClaims : Table String ReferralClaimRow
  apiKeys : Table KeyId ApiKeyRow
  emailCodes : Table String EmailCodeRow
  accountSessions : Table String AccountSessionRow
  pins : Table String AccountUserId

def initialMintPool : ℤ := 1000000000

def Db.empty : Db where
  mintPool := ⟨initialMintPool, initialMintPool⟩
  devices := ∅
  tokens := ∅
  challenges := ∅
  ledger := ∅
  balances := ∅
  shareKeys := ∅
  contributions := ∅
  accountWallets := ∅
  accountDevices := ∅
  accountLedger := ∅
  availabilitySessions := ∅
  providers := ∅
  providerWallets := ∅
  providerLedger := ∅
  deposits := ∅
  withdrawals := ∅
  referralCodes := ∅
  referralClaims := ∅
  apiKeys := ∅
  emailCodes := ∅
  accountSessions := ∅
  pins := ∅

end Teale.Gateway
