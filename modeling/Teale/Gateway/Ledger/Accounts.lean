import Teale.Gateway.Ledger.Wallets

/-!
# Accounts

Linking devices to account wallets, resolving the recipient of a transfer,
and the transfers and sweeps between device and account wallets.
-/

namespace Teale.Gateway

open Relational Transactional RustText

/-! ## Credits and cents -/

def creditsPerUsdcCent : ℤ := 10000

def i64Max : ℤ := 2 ^ 63 - 1

def i64Min : ℤ := -2 ^ 63

def creditsFromUsdcCents (usdcCents : ℤ) : Tx ℤ :=
  let credits := usdcCents * creditsPerUsdcCent
  if i64Min ≤ credits ∧ credits ≤ i64Max then
    .ok credits
  else
    .error (.message "usdc cents overflow while converting to credits")

def redeemableUsdcCents (deposited withdrawn : ℤ) : ℤ := max (deposited - withdrawn) 0

def withdrawableCredits (balanceCredits deposited withdrawn : ℤ) : ℤ :=
  let redeemableCredits :=
    match creditsFromUsdcCents (redeemableUsdcCents deposited withdrawn) with
    | .ok credits => credits
    | .error _ => i64Max
  max (min balanceCredits redeemableCredits) 0

/-! ## Identifiers -/

def isUuidShaped (text : String) : Bool :=
  len text == 36 && text.toList.zipIdx.all fun entry =>
      if entry.2 = 8 ∨ entry.2 = 13 ∨ entry.2 = 18 ∨ entry.2 = 23 then
        entry.1 == '-'
      else
        isAsciiHexdigit entry.1

/-- `normalize_account_user_id`. The slice `v[..6]` panics when byte 6 is not
a character boundary. -/
def normalizeAccountUserId (value : String) : Tx AccountUserId :=
  let text := trim value
  if isUuidShaped text then
    .ok (toAsciiUppercase text)
  else if 6 < len text then
    match splitAtByte? 6 text.toList with
    | none => .error .panic
    | some parts =>
      if toAsciiLowercase (String.ofList parts.1) = "email:" then
        .ok ("email:" ++ toLowercase (String.ofList parts.2))
      else
        .ok text
  else
    .ok text

def normalizeEmail (value : String) : Option String :=
  let trimmed := toLowercase (trim value)
  if trimmed = "" then none else some trimmed

def normalizeGithubUsername (value : String) : Option String :=
  let trimmed := toLowercase
    (String.ofList ((trim value).toList.dropWhile (· == '@')))
  if trimmed = "" then none else some trimmed

def normalizePhoneDigits (value : String) : Option String :=
  let digits := String.ofList (value.toList.filter Char.isDigit)
  if digits = "" then none else some digits

def normalizePhoneValue (value : String) : Option String :=
  let trimmed := trim value
  (normalizePhoneDigits trimmed).map fun digits =>
    if startsWith trimmed '+' then "+" ++ digits else digits

/-! ## Linking -/

structure AccountLinkMetadata where
  deviceName : Option String := none
  platform : Option String := none
  displayName : Option String := none
  phone : Option String := none
  email : Option String := none
  githubUsername : Option String := none
  deriving DecidableEq, Repr

def Db.upsertWallet (db : Db) (accountUserId : AccountUserId)
    (displayName phone email githubUsername : Option String) (now : Timestamp) : Db :=
  match db.accountWallets.find? accountUserId with
  | some _ =>
    db.updateWallet accountUserId fun row => { row with
        displayName := displayName.or row.displayName
        phone := phone.or row.phone
        email := email.or row.email
        githubUsername := githubUsername.or row.githubUsername
        updatedAt := now }
  | none =>
    { db with
      accountWallets := db.accountWallets.insertOrIgnore accountUserId
        { displayName, phone, email, githubUsername
          createdAt := now
          updatedAt := now } }

def Db.upsertAccountDevice (db : Db) (deviceId : DeviceId) (accountUserId : AccountUserId)
    (deviceName platform : Option String) (now : Timestamp) : Db :=
  match db.accountDevices.find? deviceId with
  | some _ =>
    { db with accountDevices := db.accountDevices.modify deviceId fun row =>
        { accountUserId
          deviceName := deviceName.or row.deviceName
          platform := platform.or row.platform
          linkedAt := now
          lastSeen := now } }
  | none =>
    { db with
      accountDevices := db.accountDevices.insertOrIgnore deviceId
        { accountUserId, deviceName, platform, linkedAt := now
          lastSeen := now } }

def linkDeviceToAccount (db : Db) (deviceId : DeviceId) (accountUserId : String)
    (metadata : AccountLinkMetadata) (now : Timestamp) : Tx Db := do
  let accountUserId ← normalizeAccountUserId accountUserId
  let db := (db.ensureDevice deviceId now).ensureBalance deviceId
  let db := db.upsertWallet accountUserId metadata.displayName
    (metadata.phone.bind normalizePhoneValue)
    (metadata.email.bind normalizeEmail)
    (metadata.githubUsername.bind normalizeGithubUsername) now
  pure ((db.touchDevice deviceId now).upsertAccountDevice deviceId
    accountUserId metadata.deviceName metadata.platform now)

/-! ## Recipients -/

inductive ResolvedTransferTarget
  | device (deviceId : DeviceId)
  | account (accountUserId : AccountUserId) (displayName phone email githubUsername : Option String)
  deriving DecidableEq, Repr

inductive TransferLookup
  | device (deviceId : String)
  | account (accountUserId : String)
  | email (email : String)
  | phoneDigits (digits : String)
  | github (username : String)
  deriving DecidableEq, Repr

def looksLikeDeviceId (value : String) : Bool :=
  len value == 64 && value.toList.all isAsciiHexdigit

def parseBareLookup (trimmed : String) : Tx TransferLookup := do
  if looksLikeDeviceId trimmed then
    pure (.device trimmed)
  else if contains trimmed '@' then
    let email ← getOr (normalizeEmail trimmed) (.transfer .missingRecipient)
    pure (.email email)
  else
    match normalizePhoneDigits trimmed with
    | some digits =>
      if startsWith trimmed '+' ||
          trimmed.toList.any fun char =>
            char == '(' || char == ')' || char == ' ' || char == '-' || char == '.' then
        pure (.phoneDigits digits)
      else
        let github ← getOr (normalizeGithubUsername trimmed)
          (.transfer .missingRecipient)
        pure (.github github)
    | none =>
      let github ← getOr (normalizeGithubUsername trimmed)
        (.transfer .missingRecipient)
      pure (.github github)

def parseTransferLookup (raw : String) : Tx TransferLookup := do
  let trimmed := trim raw
  failIf (trimmed = "") (.transfer .missingRecipient)
  match stripPrefix "device:" trimmed with
  | some rest => pure (.device (trim rest))
  | none =>
  match stripPrefix "account:" trimmed with
  | some rest => pure (.account (trim rest))
  | none =>
  match stripPrefix "email:" trimmed with
  | some rest =>
    let email ← getOr (normalizeEmail rest) (.transfer .missingRecipient)
    pure (.email email)
  | none =>
  match stripPrefix "phone:" trimmed with
  | some rest =>
    let digits ← getOr (normalizePhoneDigits rest)
      (.transfer .missingRecipient)
    pure (.phoneDigits digits)
  | none =>
  match stripPrefix "github:" trimmed with
  | some rest =>
    let github ← getOr (normalizeGithubUsername rest)
      (.transfer .missingRecipient)
    pure (.github github)
  | none => parseBareLookup trimmed

def AccountWalletRow.target (row : AccountWalletRow)
    (accountUserId : AccountUserId) : ResolvedTransferTarget :=
  .account accountUserId row.displayName row.phone row.email row.githubUsername

/-- `load_account_target_from_query`: exactly one wallet meets the
condition. -/
def loadAccountTarget (db : Db) (condition : AccountWalletRow → Bool) : Tx ResolvedTransferTarget :=
  match db.accountWallets.rows.filter fun row => condition row.2 with
  | [] => .error (.transfer .recipientAccountNotFound)
  | [row] => .ok (row.2.target row.1)
  | _ :: _ :: _ => .error (.transfer .ambiguousRecipient)

def strippedPhone (phone : Option String) : String :=
  String.ofList ((phone.getD "").toList.filter fun char =>
    !(char == '+' || char == ' ' || char == '-' || char == '(' || char == ')' || char == '.'))

def findDeviceTarget (db : Db) (deviceId : DeviceId) : Option ResolvedTransferTarget :=
  (db.devices.find? deviceId).map fun _ => .device deviceId

def findAccountTarget (db : Db) (accountUserId : AccountUserId) : Option ResolvedTransferTarget :=
  (db.accountWallets.find? accountUserId).map fun row => row.target accountUserId

def resolveLookup (db : Db) : TransferLookup → Tx ResolvedTransferTarget
  | .device deviceId => getOr (findDeviceTarget db deviceId) (.transfer .recipientDeviceNotFound)
  | .account accountUserId =>
    getOr (findAccountTarget db accountUserId) (.transfer .recipientAccountNotFound)
  | .email email => loadAccountTarget db fun row =>
    row.email.map toAsciiLowercase == some email
  | .phoneDigits digits => loadAccountTarget db fun row => strippedPhone row.phone == digits
  | .github username => loadAccountTarget db fun row =>
    row.githubUsername.map toAsciiLowercase == some username

/-- `resolve_transfer_target_tx`: a bare text is first tried as a device and
then as an account. -/
def resolveTransferTargetTx (db : Db) (rawRecipient : String) : Tx ResolvedTransferTarget :=
  let trimmed := trim rawRecipient
  let bare := trimmed ≠ "" ∧ contains trimmed '@' = false ∧
    startsWith trimmed '+' = false ∧
    contains trimmed ':' = false
  let direct :=
    if bare then (findDeviceTarget db trimmed).or (findAccountTarget db trimmed)
    else none
  match direct with
  | some target => .ok target
  | none => do
    let lookup ← parseTransferLookup rawRecipient
    resolveLookup db lookup

/-! ## Notes and receipts -/

def formatSenderNote (recipient : ResolvedTransferTarget) (memo : Option String) : String :=
  let target :=
    match recipient with
    | .device deviceId => "device " ++ deviceId
    | .account accountUserId _ phone email githubUsername =>
      ((phone.or email).or githubUsername).getD ("account " ++ accountUserId)
  match normalizedOptionalString memo with
  | some memo => "transfer to " ++ target ++ ": " ++ memo
  | none => "transfer to " ++ target

def formatRecipientNote (senderLabel : String) (memo : Option String) : String :=
  match normalizedOptionalString memo with
  | some memo => "transfer from " ++ senderLabel ++ ": " ++ memo
  | none => "transfer from " ++ senderLabel

inductive WalletKind
  | device
  | account
  deriving DecidableEq, Repr

/-- `TransferReceipt`; the asset is always credits. -/
structure TransferReceipt where
  amount : ℤ
  memo : Option String
  senderKind : WalletKind
  senderId : String
  senderBalanceCredits : ℤ
  recipient : ResolvedTransferTarget
  deriving DecidableEq, Repr

/-! ## Transfers -/

/-- The credit side of a transfer: `actor` fills the device column of an
account row. -/
def creditRecipient (db : Db) (recipient : ResolvedTransferTarget) (amountCredits : ℤ)
    (actor : Option String) (note : String) (now : Timestamp) : Tx Db :=
  match recipient with
  | .device deviceId =>
    pure (((db.ensureBalance deviceId).updateBalance deviceId amountCredits 0 0).appendLedger
        { deviceId, type := .transferIn, amount := amountCredits
          timestamp := now, note := some note })
  | .account accountUserId _ _ _ _ =>
    (db.updateCredits accountUserId amountCredits now).appendAccountLedger
      { accountUserId, asset := .credits, amount := amountCredits
        type := .transferIn, timestamp := now, deviceId := actor
        note := some note }

def transferFromDeviceWallet (db : Db) (senderDeviceId : DeviceId) (rawRecipient : String)
    (amountCredits : ℤ) (memo : Option String) (now : Timestamp) : Tx (Db × TransferReceipt) := do
  failIf (amountCredits ≤ 0) (.transfer .invalidAmount)
  let db := db.ensureBalance senderDeviceId
  let senderBalance := db.balanceOf senderDeviceId
  failIf (senderBalance < amountCredits)
    (.transfer (.insufficientBalance senderBalance amountCredits))
  let recipient ← resolveTransferTargetTx db rawRecipient
  failIf (recipient = .device senderDeviceId) (.transfer .sameWallet)
  let db := (db.updateBalance senderDeviceId (-amountCredits) 0 0).appendLedger
    { deviceId := senderDeviceId, type := .transferOut, amount := -amountCredits
      timestamp := now, note := some (formatSenderNote recipient memo) }
  let db ← creditRecipient db recipient amountCredits (some senderDeviceId)
    (formatRecipientNote senderDeviceId memo) now
  pure (db, ⟨amountCredits, normalizedOptionalString memo, .device,
    senderDeviceId, senderBalance - amountCredits, recipient⟩)

def ResolvedTransferTarget.isAccount (accountUserId : AccountUserId) : ResolvedTransferTarget → Bool
  | .device _ => false
  | .account other _ _ _ _ => other = accountUserId

def transferFromAccountWalletForAccount
    (db : Db) (accountUserId : AccountUserId) (rawRecipient : String)
    (amountCredits : ℤ) (memo : Option String) (actorDeviceId : Option String) (now : Timestamp) :
    Tx (Db × TransferReceipt) := do
  failIf (amountCredits ≤ 0) (.transfer .invalidAmount)
  failIf ((db.accountWallets.find? accountUserId).isNone = true) (.transfer .accountNotLinked)
  let senderBalance := db.creditsOf accountUserId
  failIf (senderBalance < amountCredits)
    (.transfer (.insufficientBalance senderBalance amountCredits))
  let recipient ← resolveTransferTargetTx db rawRecipient
  failIf (recipient.isAccount accountUserId = true) (.transfer .sameWallet)
  let db ← (db.updateCredits accountUserId (-amountCredits)
    now).appendAccountLedger
      { accountUserId, asset := .credits, amount := -amountCredits
        type := .transferOut, timestamp := now, deviceId := actorDeviceId
        note := some (formatSenderNote recipient memo) }
  let db ← creditRecipient db recipient amountCredits actorDeviceId
    (formatRecipientNote ("account " ++ accountUserId) memo) now
  pure (db, ⟨amountCredits, normalizedOptionalString memo, .account,
    accountUserId, senderBalance - amountCredits, recipient⟩)

def transferFromAccountWallet (db : Db) (requesterDeviceId : DeviceId) (rawRecipient : String)
    (amountCredits : ℤ) (memo : Option String) (now : Timestamp) : Tx (Db × TransferReceipt) := do
  let accountUserId ← getOr (db.accountUserIdForDevice requesterDeviceId)
    (.transfer .accountNotLinked)
  transferFromAccountWalletForAccount db accountUserId rawRecipient
    amountCredits memo (some requesterDeviceId) now

/-! ## Summaries -/

/-- `AccountDeviceSnapshot`; `wallet_usdc_cents` is always 0. -/
structure AccountDeviceSnapshot where
  deviceId : DeviceId
  deviceName : Option String
  platform : Option String
  linkedAt : Timestamp
  lastSeen : Timestamp
  walletBalanceCredits : ℤ

/-- `AccountWalletSnapshot`; the wallet's own columns are `wallet`. -/
structure AccountWalletSnapshot where
  accountUserId : AccountUserId
  wallet : AccountWalletRow
  redeemableUsdcCents : ℤ
  withdrawableCredits : ℤ
  devices : List AccountDeviceSnapshot
  transactions : List (ℕ × AccountLedgerRow)

/-- The device list of `account_summary`, `ORDER BY last_seen DESC, device_id
ASC`. -/
def accountDeviceSnapshots (db : Db) (accountUserId : AccountUserId) : List AccountDeviceSnapshot :=
  ((db.accountDevices.rows.filter fun row =>
      row.2.accountUserId = accountUserId).insertionSort fun left right =>
    right.2.lastSeen < left.2.lastSeen ∨
      (left.2.lastSeen = right.2.lastSeen ∧ left.1 ≤ right.1)).map fun row =>
    ⟨row.1, row.2.deviceName, row.2.platform, row.2.linkedAt, row.2.lastSeen, db.balanceOf row.1⟩

def listAccountTransactions (db : Db) (accountUserId : AccountUserId) (limit : ℕ) :
    List (ℕ × AccountLedgerRow) :=
  ((db.accountLedger.rows.filter fun row =>
      row.2.accountUserId = accountUserId).insertionSort fun left right =>
    right.2.timestamp < left.2.timestamp ∨
      (left.2.timestamp = right.2.timestamp ∧ right.1 ≤ left.1)).take limit

def accountSummary (db : Db) (accountUserId : AccountUserId) : Tx AccountWalletSnapshot := do
  let wallet ← getOr (db.accountWallets.find? accountUserId) (.sql .noRows)
  pure
    { accountUserId
      wallet
      redeemableUsdcCents := redeemableUsdcCents
        wallet.depositedUsdcCentsTotal wallet.withdrawnUsdcCentsTotal
      withdrawableCredits := withdrawableCredits wallet.balanceCredits
        wallet.depositedUsdcCentsTotal wallet.withdrawnUsdcCentsTotal
      devices := accountDeviceSnapshots db accountUserId
      transactions := listAccountTransactions db accountUserId 100 }

/-! ## Sweeping and unlinking -/

/-- `AccountSweepResult`; a device wallet holds no USDC, so `swept_usdc_cents`
is always 0. -/
structure AccountSweepResult where
  sweptCredits : ℤ
  account : AccountWalletSnapshot

/-- The two account checks that `sweep_device_to_account` and
`remove_device_from_account` share: the account both devices are linked
to. -/
def sharedAccount (db : Db) (requesterDeviceId targetDeviceId : DeviceId) : Tx AccountUserId := do
  let accountUserId ← getOr (db.accountUserIdForDevice requesterDeviceId)
    (.message "requesting device is not linked to an account")
  failIf (db.accountUserIdForDevice targetDeviceId ≠ some accountUserId)
    (.message "target device is not linked to this account")
  pure accountUserId

def sweepCredits (db : Db) (accountUserId : AccountUserId) (targetDeviceId : DeviceId)
    (balanceCredits : ℤ) (now : Timestamp) : Tx Db :=
  (((db.appendLedger
      { deviceId := targetDeviceId, type := .accountSweepOut
        amount := -balanceCredits, timestamp := now
        note := some ("swept to account " ++ accountUserId) }).updateBalance
      targetDeviceId (-balanceCredits) 0 balanceCredits).updateCredits
      accountUserId balanceCredits now).appendAccountLedger
    { accountUserId, asset := .credits, amount := balanceCredits
      type := .sweepIn, timestamp := now, deviceId := some targetDeviceId
      note := some ("swept from device " ++ targetDeviceId) }

def sweepDeviceToAccount (db : Db) (requesterDeviceId targetDeviceId : DeviceId)
    (now : Timestamp) : Tx (Db × AccountSweepResult) := do
  let accountUserId ← sharedAccount db requesterDeviceId targetDeviceId
  let db := db.ensureBalance targetDeviceId
  let balanceCredits := db.balanceOf targetDeviceId
  let db ← if 0 < balanceCredits then
      sweepCredits db accountUserId targetDeviceId balanceCredits now
    else
      pure db
  let account ← accountSummary db accountUserId
  pure (db, ⟨balanceCredits, account⟩)

def removeDeviceFromAccount (db : Db) (requesterDeviceId targetDeviceId : DeviceId) :
    Tx (Db × AccountWalletSnapshot) := do
  failIf (requesterDeviceId = targetDeviceId)
    (.message "current device cannot remove itself from this account")
  let accountUserId ← sharedAccount db requesterDeviceId targetDeviceId
  let db :=
    { db with
      accountDevices := db.accountDevices.deleteWhere fun deviceId _ =>
        deviceId = targetDeviceId }
  let account ← accountSummary db accountUserId
  pure (db, account)

end Teale.Gateway
