import Teale.Gateway.Statements
import Teale.Lib.RustText

/-!
# Device and account wallets

Registering devices, bonuses, operator mints and referral rewards of `gateway/src/ledger.rs`. The
clock and the freshly generated identifiers are arguments.
-/

namespace Teale.Gateway

open Relational Transactional

def welcomeBonusCredits : ℤ := 100000

def referralBonusCredits : ℤ := 1000000

def welcomeNote : String := "Welcome to Teale"

def normalizedOptionalString (value : Option String) : Option String := value.bind fun raw =>
    let trimmed := RustText.trim raw
    if trimmed = "" then none else some trimmed

/-! ## Devices -/

def upsertDevice (db : Db) (deviceId : DeviceId) (now : Timestamp) : Db × Bool :=
  match db.devices.find? deviceId with
  | none => ((db.ensureDevice deviceId now).ensureBalance deviceId, true)
  | some _ => (db.touchDevice deviceId now, false)

/-- A ledger row of a device together with the balance update that belongs to
it; the balance row is expected to exist. -/
def Db.creditBalance (db : Db) (deviceId : DeviceId) (type : LedgerType) (amount : ℤ)
    (note : Option String) (now : Timestamp) (refRequestId : Option String := none) : Db :=
  (db.appendLedger { deviceId, type, amount, timestamp := now, refRequestId, note }).updateBalance
      deviceId amount amount 0

/-- `record_bonus`: the balance after the bonus. Without a balance row the
final query fails. -/
def recordBonus (db : Db) (deviceId : DeviceId) (amount : ℤ) (now : Timestamp) : Tx (Db × ℤ) := do
  let db := (db.drawMintPool amount).creditBalance deviceId .bonus amount
    (some welcomeNote) now
  let row ← getOr (db.balances.find? deviceId) (.sql .noRows)
  pure (db, row.balance)

def creditDeviceWalletTx (db : Db) (deviceId : DeviceId) (amountCredits : ℤ) (type : LedgerType)
    (note : String) (now : Timestamp) : Db :=
  (((db.ensureDevice deviceId now).ensureBalance deviceId).drawMintPool
    amountCredits).creditBalance deviceId type amountCredits (some note) now

/-- `credit_account_wallet_tx`: the foreign key of `account_ledger` makes the
transaction fail when the account has no wallet. -/
def creditAccountWalletTx (db : Db) (accountUserId : AccountUserId) (amountCredits : ℤ)
    (type : LedgerType) (deviceId : Option String) (note : String) (now : Timestamp) : Tx Db :=
  ((db.drawMintPool amountCredits).updateCredits accountUserId amountCredits
    now).appendAccountLedger
      { accountUserId, asset := .credits, amount := amountCredits, type,
        timestamp := now, deviceId, note := some note }

def recordAccountBonus (db : Db) (accountUserId : AccountUserId) (amountCredits : ℤ)
    (deviceId : Option String) (note : String) (now : Timestamp) : Tx (Db × ℤ) := do
  let db ← creditAccountWalletTx db accountUserId amountCredits .bonus deviceId
    note now
  let row ← getOr (db.accountWallets.find? accountUserId) (.sql .noRows)
  pure (db, row.balanceCredits)

def adminMint (db : Db) (deviceId : DeviceId) (amount : ℤ) (note : String)
    (now : Timestamp) : Tx (Db × ℤ) := do
  failIf (amount ≤ 0) (.message "amount must be > 0")
  let db := (((db.ensureDevice deviceId now).ensureBalance
    deviceId).drawMintPool amount).creditBalance deviceId .adminMint amount (some note) now
  let row ← getOr (db.balances.find? deviceId) (.sql .noRows)
  pure (db, row.balance)

/-! ## Referral codes -/

/-- `ReferralCodeSnapshot`; kind and id of the owner are `owner`. -/
structure ReferralCodeSnapshot where
  code : String
  owner : ReferralOwner
  deriving DecidableEq, Repr

def referralCodeForOwner (db : Db) (owner : ReferralOwner) : Option ReferralCodeSnapshot :=
  (db.referralCodes.rows.find? fun row => row.2.owner = owner).map fun row => ⟨row.1, row.2.owner⟩

def ReferralOwner.present (db : Db) : ReferralOwner → Bool
  | .device deviceId => (db.devices.find? deviceId).isSome
  | .account accountUserId => (db.accountWallets.find? accountUserId).isSome

/-- `ensure_referral_code_tx`; `code` is the value of `new_referral_code`. -/
def ensureReferralCodeTx (db : Db) (owner : ReferralOwner) (code : String) (now : Timestamp) :
    Tx (Db × ReferralCodeSnapshot) :=
  match referralCodeForOwner db owner with
  | some existing => pure (db, existing)
  | none => do
    failIf ((db.referralCodes.find? code).isSome = true) (.sql (.unique "referral_codes" "code"))
    failIf (owner.present db = false) (.sql (.foreignKey "referral_codes"))
    pure ({ db with
          referralCodes := db.referralCodes.insertOrIgnore code ⟨owner, now⟩ },
        ⟨code, owner⟩)

def referralCodeForDevice (db : Db) (requesterDeviceId : DeviceId) (code : String)
    (now : Timestamp) : Tx (Db × ReferralCodeSnapshot) :=
  let db := (db.ensureDevice requesterDeviceId now).ensureBalance
    requesterDeviceId
  let owner :=
    match db.accountUserIdForDevice requesterDeviceId with
    | some accountUserId => ReferralOwner.account accountUserId
    | none => ReferralOwner.device requesterDeviceId
  ensureReferralCodeTx db owner code now

/-! ## Referral claims -/

def referralClaimExists (db : Db) (referred : ReferralOwner) : Bool :=
  db.referralClaims.rows.any fun row => row.2.referred = referred

def Db.insertReferralClaim (db : Db) (claimId : String) (row : ReferralClaimRow) : Tx Db := do
  failIf ((db.referralClaims.find? claimId).isSome = true)
    (.sql (.unique "referral_claims" "claim_id"))
  failIf (referralClaimExists db row.referred = true) (.sql (.unique "referral_claims" "referred"))
  failIf ((db.referralCodes.find? row.code).isNone = true) (.sql (.foreignKey "referral_claims"))
  failIf (row.referred.present db = false) (.sql (.foreignKey "referral_claims"))
  pure { db with referralClaims := db.referralClaims.insertOrIgnore claimId row }

/-- The reward paid to the owner of a code; `actor` is the device on whose
behalf the claim is made. -/
def rewardReferrerTx (db : Db) (owner : ReferralOwner) (actor : DeviceId) (note : String)
    (now : Timestamp) : Tx Db :=
  match owner with
  | .device referrerDeviceId =>
    pure (creditDeviceWalletTx db referrerDeviceId referralBonusCredits .referralBonus note now)
  | .account referrerAccountUserId =>
    creditAccountWalletTx db referrerAccountUserId referralBonusCredits
      .referralBonus (some actor) note now

def applyReferralForDeviceTx (db : Db) (deviceId : DeviceId) (referralCode claimId : String)
    (now : Timestamp) : Tx (Db × ℤ) := do
  failIf (referralClaimExists db (.device deviceId) = true) (.referral .deviceAlreadyClaimed)
  let code ← getOr (db.referralCodes.find? referralCode)
    (.referral .invalidCode)
  failIf (code.owner = .device deviceId) (.referral .selfReferral)
  -- a device cannot claim a code of the account it is linked to
  failIf ((db.accountUserIdForDevice deviceId).map ReferralOwner.account =
    some code.owner) (.referral .selfReferral)
  let db ← rewardReferrerTx db code.owner deviceId
    ("referral bonus for device " ++ deviceId) now
  let db := creditDeviceWalletTx db deviceId referralBonusCredits .referralBonus
    ("joined with referral code " ++ referralCode) now
  let db ← db.insertReferralClaim claimId
    { code := referralCode
      referrer := code.owner
      referred := .device deviceId
      referrerBonusCredits := referralBonusCredits
      referredBonusCredits := referralBonusCredits
      createdAt := now }
  pure (db, referralBonusCredits)

def applyReferralForAccountTx
    (db : Db) (requesterDeviceId : DeviceId) (accountUserId : AccountUserId)
    (referralCode claimId : String) (now : Timestamp) : Tx (Db × ℤ) := do
  failIf (referralClaimExists db (.account accountUserId) = true) (.referral .accountAlreadyClaimed)
  let code ← getOr (db.referralCodes.find? referralCode)
    (.referral .invalidCode)
  failIf (code.owner = .account accountUserId ∨
    code.owner = .device requesterDeviceId) (.referral .selfReferral)
  let db ← rewardReferrerTx db code.owner requesterDeviceId
    ("referral bonus for account " ++ accountUserId) now
  let db ← creditAccountWalletTx db accountUserId referralBonusCredits
    .referralBonus (some requesterDeviceId)
    ("joined with referral code " ++ referralCode) now
  let db ← db.insertReferralClaim claimId
    { code := referralCode
      referrer := code.owner
      referred := .account accountUserId
      referrerBonusCredits := referralBonusCredits
      referredBonusCredits := referralBonusCredits
      createdAt := now }
  pure (db, referralBonusCredits)

/-! ## Join rewards -/

structure JoinRewards where
  welcomeBonusCredits : ℤ := 0
  referralBonusCredits : ℤ := 0
  deriving DecidableEq, Repr

def Db.deviceHasBonus (db : Db) (deviceId : DeviceId) : Bool := db.ledger.rows.any fun row =>
    row.2.deviceId = deviceId && row.2.type = .bonus

def Db.accountHasBonus (db : Db) (accountUserId : AccountUserId) : Bool :=
  db.accountLedger.rows.any fun row => row.2.accountUserId = accountUserId && row.2.type = .bonus

def welcomeDevice (db : Db) (deviceId : DeviceId) (now : Timestamp) : Db × ℤ :=
  if db.deviceHasBonus deviceId then
    (db, 0)
  else
    ((db.drawMintPool welcomeBonusCredits).creditBalance deviceId .bonus
      welcomeBonusCredits (some welcomeNote) now, welcomeBonusCredits)

def applyDeviceJoinRewards (db : Db) (deviceId : DeviceId) (referralCode : Option String)
    (claimId : String) (now : Timestamp) : Tx (Db × JoinRewards) := do
  let db := (db.ensureDevice deviceId now).ensureBalance deviceId
  let welcomed := welcomeDevice db deviceId now
  match normalizedOptionalString referralCode with
  | none => pure (welcomed.1, ⟨welcomed.2, 0⟩)
  | some code =>
    let claimed ← applyReferralForDeviceTx welcomed.1 deviceId code claimId now
    pure (claimed.1, ⟨welcomed.2, claimed.2⟩)

def welcomeAccount (db : Db) (requesterDeviceId : DeviceId) (accountUserId : AccountUserId)
    (now : Timestamp) : Tx (Db × ℤ) :=
  if db.accountHasBonus accountUserId then
    pure (db, 0)
  else do
    let db ← creditAccountWalletTx db accountUserId welcomeBonusCredits .bonus
      (some requesterDeviceId) welcomeNote now
    pure (db, welcomeBonusCredits)

def applyAccountJoinRewards (db : Db) (requesterDeviceId : DeviceId) (accountUserId : AccountUserId)
    (referralCode : Option String) (claimId : String) (now : Timestamp) :
    Tx (Db × JoinRewards) := do
  let welcomed ← welcomeAccount db requesterDeviceId accountUserId now
  match normalizedOptionalString referralCode with
  | none => pure (welcomed.1, ⟨welcomed.2, 0⟩)
  | some code =>
    let claimed ← applyReferralForAccountTx welcomed.1 requesterDeviceId
      accountUserId code claimId now
    pure (claimed.1, ⟨welcomed.2, claimed.2⟩)

end Teale.Gateway
