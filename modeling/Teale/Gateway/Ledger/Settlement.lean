import Teale.Gateway.Ledger.ShareKeys

/-!
# Settlement and availability

Charging a finished request to its consumer and splitting the charge among
the earners, paying out providers, and the availability drip.
-/

namespace Teale.Gateway

open Relational Transactional

def opsDevice : DeviceId := "__ops__"

inductive ConsumerPrincipal
  | device (deviceId : DeviceId)
  | share (issuerDeviceId : DeviceId) (keyId : KeyId)
  | account (accountUserId : AccountUserId) (apiKeyId : Option KeyId)
  deriving DecidableEq, Repr

/-! ## What the consumer can pay -/

def shareFunded (db : Db) (keyId : KeyId) : Bool :=
  (db.shareKeys.find? keyId).any ShareKeyRow.funded

/-- `budget_credits - consumed_credits` of a key, 0 without a row. -/
def keyRemaining (db : Db) (keyId : KeyId) : ℤ := ((db.shareKeys.find? keyId).map fun row =>
    row.budgetCredits - row.consumedCredits).getD 0

def payableByDevice (db : Db) (deviceId : DeviceId) (cost : ℤ) : ℤ :=
  min cost (max (db.balanceOf deviceId) 0)

def payableByShareKey (db : Db) (issuerDeviceId : DeviceId) (keyId : KeyId) (cost : ℤ) : ℤ :=
  if shareFunded db keyId then
    min cost (max (sumShareKeyContributions db keyId) 0)
  else
    min (payableByDevice db issuerDeviceId cost) (max (keyRemaining db keyId) 0)

def payableByAccount (db : Db) (accountUserId : AccountUserId) (cost : ℤ) : ℤ :=
  min cost (max (db.creditsOf accountUserId) 0)

/-- The lifetime limit of an API key caps what a fleet request may charge. -/
def clampToCreditLimit (db : Db) (apiKeyId : Option KeyId) (payable : ℤ) : ℤ :=
  match (apiKeyId.bind db.apiKeys.find?).bind fun row =>
      row.creditLimit.map fun limit => max (limit - row.usageCredits) 0 with
  | some remaining => min payable remaining
  | none => payable

/-! ## Charging -/

def Db.debitDevice (db : Db) (deviceId : DeviceId) (amount : ℤ) : Db :=
  db.updateBalance deviceId (-amount) 0 amount

/-- The pool side of a share-key charge; a key that has not been pre-funded
still debits its issuer. -/
def debitShareKey (db : Db) (issuerDeviceId : DeviceId) (keyId : KeyId) (amount : ℤ) : Db :=
  let funded := shareFunded db keyId
  let db := db.updateShareKey keyId fun row =>
    { row with consumedCredits := row.consumedCredits + amount }
  if funded then
    (applyProRataShareKeySpendTx db keyId amount).updateBalance issuerDeviceId 0 0 amount
  else
    db.debitDevice issuerDeviceId amount

def debitAccount (db : Db) (accountUserId : AccountUserId) (apiKeyId : Option KeyId)
    (amount : ℤ) (now : Timestamp) : Db :=
  let db := db.updateCredits accountUserId (-amount) now
  match apiKeyId with
  | none => db
  | some keyId =>
    { db with apiKeys := db.apiKeys.modify keyId fun row => { row with
          usageCredits := row.usageCredits + amount
          lastUsedAt := some now } }

def settlementNote (base : String) (shortfall : ℤ) : String :=
  if 0 < shortfall then base ++ " shortfall=" ++ toString shortfall else base

/-! ## Earnings -/

structure Receipt where
  requestId : String
  note : String
  now : Timestamp

/-- `INSERT OR IGNORE` of the balance, the ledger row and the credit, when
there is something to credit. -/
def creditEarning (db : Db) (receipt : Receipt) (deviceId : DeviceId) (type : LedgerType)
    (amount : ℤ) : Db :=
  if 0 < amount then
    (db.ensureBalance deviceId).creditBalance deviceId type amount
      (some receipt.note) receipt.now (some receipt.requestId)
  else
    db

structure Split where
  directEarn : ℤ
  perPeer : ℤ
  opsTotal : ℤ
  deriving DecidableEq, Repr

/-- Seventy per cent to the provider, a quarter divided among the recipients,
and to operations the rest: its own five per cent, what whole credits cannot
divide, and the whole quarter when there is no recipient. -/
def splitCharge (effectiveCost : ℤ) (recipients : List DeviceId) : Split :=
  let directEarn := effectiveCost * 70 / 100
  let poolShare := effectiveCost * 25 / 100
  let opsFee := effectiveCost - directEarn - poolShare
  let perPeer := if recipients = [] then 0 else poolShare / recipients.length
  { directEarn
    perPeer
    opsTotal := opsFee + (poolShare - perPeer * recipients.length) }

def distributeEarnings (db : Db) (receipt : Receipt) (providerDeviceId : Option DeviceId)
    (recipients : List DeviceId) (effectiveCost : ℤ) : Db :=
  let split := splitCharge effectiveCost recipients
  let db :=
    match providerDeviceId with
    | some provider => creditEarning db receipt provider .directEarn split.directEarn
    | none => db
  let db := recipients.foldl (fun db peer =>
    creditEarning db receipt peer .availabilityEarn split.perPeer) db
  creditEarning db receipt opsDevice .opsFee split.opsTotal

def settleRequestAccount (db : Db) (accountUserId : AccountUserId) (apiKeyId : Option KeyId)
    (providerDeviceId : Option DeviceId) (onlineDeviceIds : List DeviceId)
    (cost : ℤ) (requestId model : String) (now : Timestamp) : Tx Db := do
  let effectiveCost := clampToCreditLimit db apiKeyId
    (payableByAccount db accountUserId cost)
  let base :=
    match apiKeyId with
    | some keyId => "api_key:" ++ keyId ++ " model=" ++ model
    | none => "model=" ++ model
  let receipt : Receipt :=
    ⟨requestId, settlementNote base (cost - effectiveCost), now⟩
  let db ← db.appendAccountLedger
    { accountUserId
      asset := .credits
      amount := -effectiveCost
      type := .spent
      timestamp := now
      deviceId := none
      note := some receipt.note
      apiKeyId }
  let db :=
    if 0 < effectiveCost then
      debitAccount db accountUserId apiKeyId effectiveCost now
    else
      db
  pure (distributeEarnings db receipt providerDeviceId
    (onlineDeviceIds.filter fun device => some device ≠ providerDeviceId)
    effectiveCost)

def Db.appendSpent (db : Db) (receipt : Receipt) (deviceId : DeviceId) (amount : ℤ) : Db :=
  db.appendLedger
    { deviceId
      type := .spent
      amount := -amount
      timestamp := receipt.now
      refRequestId := some receipt.requestId
      note := some receipt.note }

def settleRequest (db : Db) (consumer : ConsumerPrincipal)
    (providerDeviceId : Option DeviceId) (onlineDeviceIds : List DeviceId)
    (cost : ℤ) (requestId model : String) (now : Timestamp) : Tx Db :=
  if cost ≤ 0 then
    pure db
  else
    match consumer with
    | .account accountUserId apiKeyId =>
      settleRequestAccount db accountUserId apiKeyId providerDeviceId
        onlineDeviceIds cost requestId model now
    | .device payer =>
      let db := db.ensureBalance payer
      let effectiveCost := payableByDevice db payer cost
      let receipt : Receipt :=
        ⟨requestId, settlementNote ("model=" ++ model) (cost - effectiveCost), now⟩
      let db := db.appendSpent receipt payer effectiveCost
      let db :=
        if 0 < effectiveCost then db.debitDevice payer effectiveCost else db
      pure (distributeEarnings db receipt providerDeviceId (onlineDeviceIds.filter fun device =>
          some device ≠ providerDeviceId && device ≠ payer) effectiveCost)
    | .share payer keyId =>
      let db := db.ensureBalance payer
      let effectiveCost := payableByShareKey db payer keyId cost
      let receipt : Receipt :=
        ⟨requestId, settlementNote ("share_key:" ++ keyId ++ " model=" ++ model)
          (cost - effectiveCost), now⟩
      let db := db.appendSpent receipt payer effectiveCost
      let db :=
        if 0 < effectiveCost then debitShareKey db payer keyId effectiveCost
        else db
      pure (distributeEarnings db receipt providerDeviceId (onlineDeviceIds.filter fun device =>
          some device ≠ providerDeviceId && device ≠ payer) effectiveCost)

/-! ## Centralized providers -/

/-- The consumer's side of `settle_provider_request`: the database after the
charge, what was charged, and the receipt. -/
def chargeProviderRequest (db : Db) (consumer : ConsumerPrincipal) (providerId : ProviderId)
    (cost : ℤ) (requestId model : String) (now : Timestamp) : Tx (Db × ℤ × Receipt) :=
  let suffix := "provider=" ++ providerId ++ " model=" ++ model
  match consumer with
  | .device payer =>
    let db := db.ensureBalance payer
    let effectiveCost := payableByDevice db payer cost
    let receipt : Receipt :=
      ⟨requestId, settlementNote suffix (cost - effectiveCost), now⟩
    let db := db.appendSpent receipt payer effectiveCost
    pure (if 0 < effectiveCost then db.debitDevice payer effectiveCost else db,
      effectiveCost, receipt)
  | .share payer keyId =>
    let db := db.ensureBalance payer
    let effectiveCost := payableByShareKey db payer keyId cost
    let receipt : Receipt :=
      ⟨requestId, settlementNote ("share_key:" ++ keyId ++ " " ++ suffix)
        (cost - effectiveCost), now⟩
    let db := db.appendSpent receipt payer effectiveCost
    pure (if 0 < effectiveCost then debitShareKey db payer keyId effectiveCost
      else db, effectiveCost, receipt)
  | .account accountUserId apiKeyId => do
    let effectiveCost := payableByAccount db accountUserId cost
    let receipt : Receipt :=
      ⟨requestId, settlementNote ("account=" ++ accountUserId ++ " " ++ suffix)
        (cost - effectiveCost), now⟩
    let db ← db.appendAccountLedger
      { accountUserId
        asset := .credits
        amount := -effectiveCost
        type := .inferenceSpent
        timestamp := now
        deviceId := none
        note := some receipt.note
        apiKeyId }
    pure (if 0 < effectiveCost then
        debitAccount db accountUserId apiKeyId effectiveCost now
      else db, effectiveCost, receipt)

/-- The provider's share, credited to its wallet and its own ledger. -/
def creditProvider (db : Db) (receipt : Receipt) (providerId : ProviderId)
    (providerEarn : ℤ) (model : String) : Tx Db :=
  if 0 < providerEarn then do
    failIf ((db.providers.find? providerId).isNone = true) (.sql (.foreignKey "provider_wallets"))
    pure { db with
        providerWallets :=
          (db.providerWallets.insertOrIgnore providerId
            { updatedAt := receipt.now }).modify providerId fun row =>
              { row with
                balanceCredits := row.balanceCredits + providerEarn
                totalEarned := row.totalEarned + providerEarn
                updatedAt := receipt.now }
        providerLedger := db.providerLedger.append
          { providerId
            type := .providerEarn
            amount := providerEarn
            timestamp := receipt.now
            refRequestId := some receipt.requestId
            modelId := some model
            note := some receipt.note } }
  else
    pure db

/-- `settle_provider_request`: 95 per cent to the provider, the rest to
operations. -/
def settleProviderRequest (db : Db) (consumer : ConsumerPrincipal) (providerId : ProviderId)
    (cost : ℤ) (requestId model : String) (now : Timestamp) : Tx Db :=
  if cost ≤ 0 then
    pure db
  else do
    let charged ← chargeProviderRequest db consumer providerId cost requestId
      model now
    let providerEarn := charged.2.1 * 95 / 100
    let db ← creditProvider charged.1 charged.2.2 providerId providerEarn model
    pure (creditEarning db charged.2.2 opsDevice .opsFee (charged.2.1 - providerEarn))

def Db.providerCreditsOf (db : Db) (providerId : ProviderId) : ℤ :=
  ((db.providerWallets.find? providerId).map ProviderWalletRow.balanceCredits).getD 0

def recordProviderPayout (db : Db) (providerId : ProviderId) (amount : ℤ)
    (destination : Option String) (now : Timestamp) : Tx Db := do
  failIf (amount ≤ 0) (.message "payout amount must be positive")
  let available := db.providerCreditsOf providerId
  failIf (available < amount)
    (.message s!"payout exceeds provider balance: requested={amount} available={available}")
  failIf ((db.providers.find? providerId).isNone = true) (.sql (.foreignKey "provider_ledger"))
  pure { db with
      providerLedger := db.providerLedger.append
        { providerId
          type := .providerPayout
          amount := -amount
          timestamp := now
          note := some ((destination.map fun dest => "dest=" ++ dest).getD "") }
      providerWallets := db.providerWallets.modify providerId fun row =>
        { row with
          balanceCredits := row.balanceCredits - amount
          totalPaidOut := row.totalPaidOut + amount
          updatedAt := now } }

/-! ## The availability drip -/

structure DripRecipient where
  deviceId : DeviceId
  credits : ℤ
  modelId : Option String
  deriving DecidableEq, Repr

structure AvailabilityReconcileReport where
  creditedDevices : ℕ := 0
  finalizedSessions : ℕ := 0
  deriving DecidableEq, Repr

def sessionNote (modelId : Option String) (durationSecs : ℤ) : String :=
  match modelId with
  | some model =>
    "availability session ended // model=" ++ model ++ " // duration=" ++
      toString durationSecs ++ "s"
  | none => "availability session ended // duration=" ++ toString durationSecs ++ "s"

def finalizeAvailabilitySession (db : Db) (deviceId : DeviceId) (session : AvailabilitySessionRow)
    (endedAt : Timestamp) : Db :=
  let db :=
    if 0 < session.accruedCredits then
      db.appendLedger
        { deviceId
          type := .availabilitySession
          amount := session.accruedCredits
          timestamp := endedAt
          note := some (sessionNote session.modelId (max (endedAt - session.startedAt) 1)) }
    else
      db
  { db with
    availabilitySessions := db.availabilitySessions.deleteWhere
      fun other _ => other = deviceId }

/-- The recipient a map collected from the list keeps for a device: the
last one. -/
def recipientFor (recipients : List DripRecipient) (deviceId : DeviceId) : Option DripRecipient :=
  recipients.reverse.find? fun recipient => recipient.deviceId = deviceId

/-- The session goes on: its device is still there with the same model. -/
def stillMatching (recipients : List DripRecipient)
    (entry : DeviceId × AvailabilitySessionRow) : Bool :=
  (recipientFor recipients entry.1).any fun recipient => recipient.modelId = entry.2.modelId

/-- End every session whose device disappeared or changed its model. -/
def finalizeEndedSessions (db : Db) (recipients : List DripRecipient) (now : Timestamp) : Db × ℕ :=
  let ended := db.availabilitySessions.rows.filter fun entry =>
    !stillMatching recipients entry
  (ended.foldl (fun db entry =>
    finalizeAvailabilitySession db entry.1 entry.2 now) db, ended.length)

def Db.accrueSession (db : Db) (recipient : DripRecipient) (now : Timestamp) : Db :=
  match db.availabilitySessions.find? recipient.deviceId with
  | some _ =>
    { db with
      availabilitySessions := db.availabilitySessions.modify recipient.deviceId fun row =>
          { row with
            modelId := recipient.modelId
            lastAccruedAt := now
            accruedCredits := row.accruedCredits + recipient.credits } }
  | none =>
    { db with
      availabilitySessions := db.availabilitySessions.insertOrIgnore recipient.deviceId
        { modelId := recipient.modelId
          startedAt := now
          lastAccruedAt := now
          accruedCredits := recipient.credits } }

def creditRecipientDrip (now : Timestamp) (db : Db) (recipient : DripRecipient) : Db :=
  let deviceId := recipient.deviceId
  ((((db.ensureDevice deviceId now).touchDevice deviceId now).ensureBalance
    deviceId).updateBalance deviceId recipient.credits recipient.credits
      0).accrueSession recipient now

def dripTotal (recipients : List DripRecipient) : ℤ :=
  (recipients.map fun recipient => max recipient.credits 0).sum

/-- `reconcile_availability_sessions`: sessions end first; when the mint pool
cannot pay the tick, nobody is credited. -/
def reconcileAvailabilitySessions (db : Db) (recipients : List DripRecipient) (now : Timestamp) :
    Db × AvailabilityReconcileReport :=
  let ended := finalizeEndedSessions db recipients now
  let totalNeeded := dripTotal recipients
  if 0 < totalNeeded ∧ ended.1.mintPool.remaining < totalNeeded then
    (ended.1, { finalizedSessions := ended.2 })
  else
    let db := { ended.1 with mintPool :=
      { ended.1.mintPool with
        remaining := ended.1.mintPool.remaining - totalNeeded } }
    (recipients.foldl (creditRecipientDrip now) db,
      { creditedDevices := recipients.length, finalizedSessions := ended.2 })

end Teale.Gateway
