import Teale.Gateway.Statements
import Teale.Protocol.Netmap

/-!
# Private networks

`gateway/src/pins.rs`. Every function holds the lock of the database for all of its statements,
except that `approve_member` checks the approver and `build_netmap` reads the network under a lock
of their own. `Codec` reads and writes the columns that hold JSON.
-/

namespace Teale.Gateway.Pins

open Relational Transactional Protocol

abbrev PinId := String

/-! ## Rows -/

inductive MemberStatus
  | pending
  | active
  | disabled
  | removed
  deriving DecidableEq, Repr

def MemberStatus.text : MemberStatus → String
  | pending => "pending"
  | active => "active"
  | disabled => "disabled"
  | removed => "removed"

/-- `ROLE_ADMIN` and `ROLE_MODELRATOR` -/
inductive PinRole
  | admin
  | modelrator
  deriving DecidableEq, Repr

def PinRole.text : PinRole → String
  | admin => "admin"
  | modelrator => "modelrator"

def PinRole.ofText (text : String) : Option PinRole :=
  if text = "admin" then some admin
  else if text = "modelrator" then some modelrator
  else none

structure PinSettings where
  dinContributionDefault : Bool := true
  priorityPolicy : String := "pin_first"
  deriving DecidableEq, Repr

structure PinRow where
  name : String
  joinCode : String
  joinCodeGeneration : ℤ := 1
  ownerAccountUserId : AccountUserId
  netmapGeneration : ℤ := 1
  settings : PinSettings := {}
  createdAt : Timestamp
  deletedAt : Option Timestamp := none
  deriving DecidableEq, Repr

structure RoleRow where
  role : PinRole
  grantedBy : String
  grantedAt : Timestamp
  deriving DecidableEq, Repr

structure MemberRow where
  nodePubkey : String
  wgPubkey : String := ""
  displayName : Option String
  status : MemberStatus := .pending
  servesModels : Bool := true
  allowRemoteModels : Bool := true
  offersExit : Bool := false
  endpoints : String := "[]"
  loadedModels : String := "[]"
  requestedAt : Timestamp
  approvedBy : Option AccountUserId := none
  joinedAt : Option Timestamp := none
  lastSeen : Option Timestamp := none
  removedAt : Option Timestamp := none
  removedBy : Option String := none
  deriving DecidableEq, Repr

/-! The columns of a member that the statements set together. -/

def MemberRow.knock (nodePubkey : String) (displayName : Option String)
    (now : Timestamp) (row : MemberRow) : MemberRow :=
  { row with
    status := .pending
    nodePubkey
    displayName := displayName.or row.displayName
    requestedAt := now
    approvedBy := none
    joinedAt := none
    removedAt := none
    removedBy := none }

def MemberRow.approve (approverAccount : AccountUserId) (now : Timestamp)
    (row : MemberRow) : MemberRow :=
  { row with
    status := .active
    approvedBy := some approverAccount
    joinedAt := some now }

def MemberRow.expel (remover : String) (now : Timestamp) (row : MemberRow) : MemberRow := { row with
    status := .removed
    removedAt := some now
    removedBy := some remover }

def MemberRow.setStatus (status : MemberStatus) (row : MemberRow) : MemberRow := { row with status }

def MemberRow.rename (displayName : Option String) (row : MemberRow) : MemberRow :=
  { row with displayName := displayName.or row.displayName }

def MemberRow.serve (servesModels : Bool) (row : MemberRow) : MemberRow := { row with servesModels }

def MemberRow.offerExit (offersExit : Bool) (row : MemberRow) : MemberRow := { row with offersExit }

def MemberRow.advertise (endpointsJson loadedModelsJson wgPubkey : String) (now : Timestamp)
    (row : MemberRow) : MemberRow :=
  { row with
    endpoints := endpointsJson
    loadedModels := loadedModelsJson
    wgPubkey
    lastSeen := some now }

def MemberRow.touch (now : Timestamp) (row : MemberRow) : MemberRow :=
  { row with lastSeen := some now }

def MemberRow.allowRemote (allow : Bool) (row : MemberRow) : MemberRow :=
  { row with allowRemoteModels := allow }

structure PolicyRow where
  desiredState : String
  setBy : String
  setAt : Timestamp
  appliedState : Option String := none
  appliedAt : Option Timestamp := none
  lastError : Option String := none
  deriving DecidableEq, Repr

structure UsageCounts where
  requests : ℤ
  tokensIn : ℤ
  tokensOut : ℤ
  deriving DecidableEq, Repr

structure Networks where
  pins : Table PinId PinRow := ∅
  roles : Table (PinId × AccountUserId) RoleRow := ∅
  members : Table (PinId × DeviceId) MemberRow := ∅
  policies : Table (PinId × DeviceId × String) PolicyRow := ∅
  usage : Table (PinId × String × DeviceId × DeviceId × String) UsageCounts := ∅
  batches : Table (PinId × DeviceId × String) Timestamp := ∅

/-- `serde_json` on the columns of `pin_members`. -/
structure Codec where
  validate : String → Except String PUnit
  readEndpoints : String → Option (List PinEndpoint)
  readModels : String → Option (List String)
  printEndpoints : List PinEndpoint → String
  printModels : List String → String

/-! ## Join codes -/

def joinCodeAlphabet : List Char := "ABCDEFGHJKMNPQRSTVWXYZ23456789".toList

/-- `normalize_join_code`; a character is cut to its lowest byte before it is
looked up. -/
def normalizeJoinCode (code : String) : String := String.ofList (code.toList.filterMap fun char =>
    let upper := char.toUpper
    if joinCodeAlphabet.any fun letter => letter.toNat = upper.toNat % 256 then
      some upper
    else
      none)

/-! ## Queries -/

namespace Networks

variable (networks : Networks)

def getPin (pinId : PinId) : Option PinRow :=
  (networks.pins.find? pinId).filter fun row => row.deletedAt.isNone

def findByJoinCode (code : String) : Option PinId :=
  let normalized := normalizeJoinCode code
  if normalized = "" then
    none
  else
    (networks.pins.rows.find? fun row => row.2.deletedAt.isNone &&
        normalizeJoinCode row.2.joinCode = normalized).map Prod.fst

def roleOf (pinId : PinId) (account : AccountUserId) : Option PinRole :=
  if (networks.getPin pinId).map PinRow.ownerAccountUserId = some account then
    some .admin
  else
    (networks.roles.find? (pinId, account)).map RoleRow.role

def memberStatus (pinId : PinId) (deviceId : DeviceId) : Option MemberStatus :=
  (networks.members.find? (pinId, deviceId)).map MemberRow.status

def membersOf (pinId : PinId) : List (DeviceId × MemberRow) :=
  (networks.members.rows.filterMap fun row =>
    if row.1.1 = pinId ∧ row.2.status ≠ .removed then
      some (row.1.2, row.2)
    else
      none).insertionSort fun earlier later => earlier.2.requestedAt ≤ later.2.requestedAt

structure MembershipSummary where
  pinId : PinId
  name : String
  status : MemberStatus
  deriving DecidableEq, Repr

def pinsForDevice (deviceId : DeviceId) : List MembershipSummary :=
  ((networks.pins.rows.filter fun row => row.2.deletedAt.isNone).insertionSort
    fun earlier later => earlier.2.createdAt ≤ later.2.createdAt).filterMap fun row =>
        match networks.memberStatus row.1 deviceId with
        | none | some .removed => none
        | some status => some ⟨row.1, row.2.name, status⟩

structure PinSummary where
  pinId : PinId
  name : String
  role : PinRole
  activeCount : ℕ
  pendingCount : ℕ
  netmapGeneration : ℤ
  createdAt : Timestamp
  deriving DecidableEq, Repr

def pinsForAccount (account : AccountUserId) : List PinSummary :=
  ((networks.pins.rows.filter fun row => row.2.deletedAt.isNone).insertionSort
    fun earlier later => earlier.2.createdAt ≤ later.2.createdAt).filterMap fun row =>
        (networks.roles.find? (row.1, account)).map fun granted =>
          let members := networks.membersOf row.1
          { pinId := row.1
            name := row.2.name
            role := granted.role
            activeCount := members.countP fun member =>
              member.2.status = .active || member.2.status = .disabled
            pendingCount := members.countP fun member =>
              member.2.status = .pending
            netmapGeneration := row.2.netmapGeneration
            createdAt := row.2.createdAt }

def modelPolicy (pinId : PinId) (deviceId : Option DeviceId) :
    List ((DeviceId × String) × PolicyRow) :=
  (networks.policies.rows.filterMap fun row =>
    if row.1.1 = pinId ∧ deviceId.all (fun device => device = row.1.2.1) then
      some (row.1.2, row.2)
    else
      none).insertionSort fun earlier later =>
        earlier.1.1 < later.1.1 ∨ earlier.1.1 = later.1.1 ∧ earlier.1.2 ≤ later.1.2

structure UsageRow where
  day : String
  providerDeviceId : DeviceId
  consumerDeviceId : DeviceId
  modelId : String
  counts : UsageCounts
  deriving DecidableEq, Repr

def UsageRow.key (row : UsageRow) : List String :=
  [row.day, row.providerDeviceId, row.consumerDeviceId, row.modelId]

def usageRows (pinId : PinId) (first last : Option String)
    (consumerFilter : Option DeviceId) : List UsageRow :=
  (networks.usage.rows.filterMap fun row =>
    let (network, day, provider, consumer, model) := row.1
    if network = pinId ∧ first.all (fun first => first ≤ day) ∧
        last.all (fun last => day ≤ last) ∧
        consumerFilter.all (fun device => device = consumer) then
      some ⟨day, provider, consumer, model, row.2⟩
    else
      none).insertionSort fun earlier later => earlier.key ≤ later.key

/-! ## Statements -/

def updatePinRow (pinId : PinId) (change : PinRow → PinRow) : Networks :=
  { networks with pins := networks.pins.modify pinId change }

def bumpGeneration (pinId : PinId) : Networks := networks.updatePinRow pinId fun row =>
    { row with netmapGeneration := row.netmapGeneration + 1 }

def updateMemberRow (pinId : PinId) (deviceId : DeviceId)
    (change : MemberRow → MemberRow) : Networks :=
  { networks with members := networks.members.modify (pinId, deviceId) change }

end Networks

/-! ## The functions of `pins.rs` -/

def createPin (ledger : Db) (networks : Networks) (pinId name joinCode : String)
    (ownerAccount : AccountUserId) (now : Timestamp) : Tx Networks := do
  let name := RustText.trim name
  failIf (name = "") (.message "network name is required")
  failIf ((networks.pins.find? pinId).isSome = true) (.sql (.unique "pins" "pin_id"))
  failIf ((ledger.accountWallets.find? ownerAccount).isNone = true) (.sql (.foreignKey "pins"))
  failIf ((networks.roles.find? (pinId, ownerAccount)).isSome = true)
    (.sql (.unique "pin_roles" "account_user_id"))
  pure { networks with
      pins := networks.pins.insertOrIgnore pinId
        { name, joinCode, ownerAccountUserId := ownerAccount, createdAt := now }
      roles := networks.roles.insertOrIgnore (pinId, ownerAccount)
        { role := .admin, grantedBy := ownerAccount, grantedAt := now } }

def submitJoin (networks : Networks) (pinId : PinId) (deviceId : DeviceId)
    (nodePubkey : String) (displayName : Option String) (now : Timestamp) : Tx Networks :=
  match networks.memberStatus pinId deviceId with
  | none => do
    failIf ((networks.pins.find? pinId).isNone = true) (.sql (.foreignKey "pin_members"))
    pure { networks with
        members := networks.members.insertOrIgnore (pinId, deviceId)
          { nodePubkey, displayName, requestedAt := now } }
  | some .pending | some .removed =>
    pure (networks.updateMemberRow pinId deviceId (MemberRow.knock nodePubkey displayName now))
  | some .active | some .disabled => pure networks

def requireAdmin (networks : Networks) (pinId : PinId) (account : AccountUserId) : Tx PUnit :=
  failIf (networks.roleOf pinId account ≠ some .admin)
    (.message s!"account {account} is not an admin of this network")

def admitPending (networks : Networks) (pinId : PinId) (deviceId : DeviceId)
    (approverAccount : AccountUserId) (now : Timestamp) : Tx Networks := do
  failIf (networks.memberStatus pinId deviceId ≠ some .pending)
    (.message "no pending join request for this device")
  pure ((networks.updateMemberRow pinId deviceId
    (MemberRow.approve approverAccount now)).bumpGeneration pinId)

def approveMember (networks : Networks) (pinId : PinId) (deviceId : DeviceId)
    (approverAccount : AccountUserId) (now : Timestamp) : Tx Networks := do
  requireAdmin networks pinId approverAccount
  admitPending networks pinId deviceId approverAccount now

def denyMember (networks : Networks) (pinId : PinId) (deviceId : DeviceId) : Tx Networks := do
  failIf (networks.memberStatus pinId deviceId ≠ some .pending)
    (.message "no pending join request for this device")
  pure { networks with
      members := networks.members.deleteWhere fun key _ =>
        key = (pinId, deviceId) }

def removeMember (networks : Networks) (pinId : PinId) (deviceId : DeviceId)
    (remover : String) (now : Timestamp) : Tx Networks := do
  failIf (networks.memberStatus pinId deviceId ≠ some .active ∧
      networks.memberStatus pinId deviceId ≠ some .disabled)
    (.message "device is not a member of this network")
  pure ((networks.updateMemberRow pinId deviceId
    (MemberRow.expel remover now)).bumpGeneration pinId)

def setMemberDisabled (networks : Networks) (pinId : PinId)
    (deviceId : DeviceId) (disabled : Bool) : Tx Networks := do
  let (source, target) :=
    if disabled then (MemberStatus.active, MemberStatus.disabled)
    else (.disabled, .active)
  failIf (networks.memberStatus pinId deviceId ≠ some source)
    (.message s!"device is not {source.text} in this network")
  pure ((networks.updateMemberRow pinId deviceId (MemberRow.setStatus target)).bumpGeneration pinId)

/-- `update_member`; only a change of `serves_models` counts. -/
def updateMember (networks : Networks) (pinId : PinId) (deviceId : DeviceId)
    (displayName : Option String) (servesModels : Option Bool) : Tx Networks := do
  failIf (displayName.isSome = true ∧ networks.memberStatus pinId deviceId = none)
    (.message "device is not a member of this network")
  let renamed := networks.updateMemberRow pinId deviceId
    (MemberRow.rename displayName)
  match servesModels with
  | none => pure renamed
  | some serves =>
    if (networks.members.find? (pinId, deviceId)).any fun row =>
        row.servesModels ≠ serves then
      pure ((renamed.updateMemberRow pinId deviceId (MemberRow.serve serves)).bumpGeneration pinId)
    else
      pure renamed

def rotateJoinCode (networks : Networks) (pinId : PinId) (code : String) : Tx Networks := do
  failIf ((networks.getPin pinId).isNone = true) (.message "unknown network")
  pure (networks.updatePinRow pinId fun row => { row with
      joinCode := code
      joinCodeGeneration := row.joinCodeGeneration + 1 })

def grantRole (networks : Networks) (pinId : PinId) (account : AccountUserId)
    (role grantedBy : String) (now : Timestamp) : Tx Networks := do
  let granted ← getOr (PinRole.ofText role) (.message ("unknown role " ++ role))
  failIf ((networks.pins.find? pinId).isNone = true) (.sql (.foreignKey "pin_roles"))
  pure { networks with
      roles := networks.roles.upsert (pinId, account)
        { role := granted, grantedBy, grantedAt := now } }

def revokeRole (networks : Networks) (pinId : PinId) (account : AccountUserId) : Tx Networks := do
  let row ← getOr (networks.pins.find? pinId) (.message "unknown network")
  failIf (row.ownerAccountUserId = account)
    (.message "cannot revoke the owner's role; transfer ownership first")
  let admins := networks.roles.rows.countP fun row =>
    row.1.1 = pinId && row.2.role = .admin
  failIf ((networks.roles.find? (pinId, account)).map RoleRow.role = some .admin ∧ admins ≤ 1)
    (.message "cannot remove the last admin")
  pure { networks with
      roles := networks.roles.deleteWhere fun key _ => key = (pinId, account) }

def touchMemberLastSeen (networks : Networks) (pinId : PinId)
    (deviceId : DeviceId) (now : Timestamp) : Networks :=
  networks.updateMemberRow pinId deviceId (MemberRow.touch now)

def setMemberOffersExit (networks : Networks) (pinId : PinId)
    (deviceId : DeviceId) (offersExit : Bool) : Networks :=
  if (networks.members.find? (pinId, deviceId)).any fun row =>
      row.offersExit ≠ offersExit then
    (networks.updateMemberRow pinId deviceId (MemberRow.offerExit offersExit)).bumpGeneration pinId
  else
    networks

def updateMemberEndpoints (codec : Codec) (networks : Networks) (pinId : PinId)
    (deviceId : DeviceId) (endpointsJson loadedModelsJson wgPubkey : String)
    (now : Timestamp) : Tx Networks := do
  let _ ← (codec.validate endpointsJson).mapError LedgerError.message
  let _ ← (codec.validate loadedModelsJson).mapError LedgerError.message
  pure (networks.updateMemberRow pinId deviceId
    (MemberRow.advertise endpointsJson loadedModelsJson wgPubkey now))

def deletePin (networks : Networks) (pinId : PinId) (now : Timestamp) : Tx Networks := do
  failIf ((networks.getPin pinId).isNone = true) (.message "unknown network")
  pure (networks.updatePinRow pinId fun row => { row with deletedAt := some now })

def setSettings (networks : Networks) (pinId : PinId) (settings : PinSettings) : Tx Networks := do
  failIf ((networks.getPin pinId).isNone = true) (.message "unknown network")
  pure (networks.updatePinRow pinId fun row => { row with settings })

def setAllowRemoteModels (networks : Networks) (pinId : PinId)
    (deviceId : DeviceId) (allow : Bool) : Networks :=
  networks.updateMemberRow pinId deviceId (MemberRow.allowRemote allow)

/-- `set_model_policy`: the models of a device with their desired states, in
place of those it had. -/
def setModelPolicy (networks : Networks) (pinId : PinId) (deviceId : DeviceId)
    (models : List (String × String)) (setBy : String) (now : Timestamp) : Tx Networks := do
  models.forM fun model => failIf (model.2 ∉ ["loaded", "downloaded", "none"])
      (.message ("invalid desired state " ++ model.2))
  let cleared := networks.policies.deleteWhere fun key _ =>
    key.1 = pinId && key.2.1 = deviceId
  let policies ← models.foldlM (fun policies model => do
    failIf ((networks.pins.find? pinId).isNone = true) (.sql (.foreignKey "pin_model_policy"))
    failIf ((policies.find? (pinId, deviceId, model.1)).isSome = true)
      (.sql (.unique "pin_model_policy" "model_id"))
    pure (policies.insertOrIgnore (pinId, deviceId, model.1)
      { desiredState := model.2, setBy, setAt := now })) cleared
  pure { networks with policies }

def reportModelPolicyStatus (networks : Networks) (pinId : PinId)
    (deviceId : DeviceId) (statuses : List (String × String × Option String))
    (now : Timestamp) : Networks :=
  { networks with
    policies := statuses.foldl (fun policies status =>
      policies.modify (pinId, deviceId, status.1) fun row => { row with
          appliedState := some status.2.1
          appliedAt := some now
          lastError := status.2.2 }) networks.policies }

structure UsageEntry where
  day : String
  consumerDeviceId : DeviceId
  modelId : String
  counts : UsageCounts
  deriving DecidableEq, Repr

/-- `record_usage_batch`: the tables, and whether the batch was new. -/
def recordUsageBatch (networks : Networks) (pinId : PinId)
    (providerDeviceId : DeviceId) (batchId : String) (entries : List UsageEntry)
    (now : Timestamp) : Tx (Networks × Bool) :=
  if (networks.batches.find? (pinId, providerDeviceId, batchId)).isSome then
    pure (networks, false)
  else do
    failIf ((networks.pins.find? pinId).isNone = true) (.sql (.foreignKey "pin_usage_batches"))
    let usage ← entries.foldlM (fun usage entry => do
      failIf (entry.counts.requests < 0 ∨ entry.counts.tokensIn < 0 ∨ entry.counts.tokensOut < 0)
        (.message "usage counts must be non-negative")
      let key := (pinId, entry.day, providerDeviceId, entry.consumerDeviceId,
        entry.modelId)
      pure ((usage.insertOrIgnore key ⟨0, 0, 0⟩).modify key fun counts =>
        { requests := counts.requests + entry.counts.requests
          tokensIn := counts.tokensIn + entry.counts.tokensIn
          tokensOut := counts.tokensOut + entry.counts.tokensOut }))
        networks.usage
    pure ({ networks with
          usage
          batches := networks.batches.insertOrIgnore
            (pinId, providerDeviceId, batchId) now }, true)

def bumpNetmapGeneration (networks : Networks) (pinId : PinId) : Tx (Networks × ℤ) := do
  let bumped := networks.bumpGeneration pinId
  let row ← getOr (bumped.pins.find? pinId) (.sql .noRows)
  pure (bumped, row.netmapGeneration)

/-! ## Netmaps -/

abbrev Live := String → Option (List String)

def netmapMember (codec : Codec) (live : Live) (member : DeviceId × MemberRow) : PinNetmapMember :=
  let disabled := member.2.status = .disabled
  { deviceId := member.1
    nodePubkey := member.2.nodePubkey
    wgPubkey := member.2.wgPubkey
    displayName := member.2.displayName
    servesModels := member.2.servesModels
    offersExit := member.2.offersExit
    disabled
    endpoints :=
      if disabled then [] else (codec.readEndpoints member.2.endpoints).getD []
    loadedModels := (live member.2.nodePubkey).getD
      ((codec.readModels member.2.loadedModels).getD [])
    lastSeen := member.2.lastSeen }

/-- The second half of `build_netmap`: the members as they are now, under the row
of the network that was read before. -/
def assembleNetmap (codec : Codec) (networks : Networks) (pinId : PinId)
    (pin : PinRow) (live : Live) (now : Timestamp) : PinNetmap where
  pinId
  name := pin.name
  generation := pin.netmapGeneration
  issuedAt := now
  members :=
    ((networks.membersOf pinId).filter fun member =>
      member.2.status = .active || member.2.status = .disabled).map (netmapMember codec live)

/-- `build_netmap`, when nothing comes between its two reads. -/
def buildNetmap (codec : Codec) (networks : Networks) (pinId : PinId)
    (live : Live) (now : Timestamp) : Tx PinNetmap := do
  let pin ← getOr (networks.getPin pinId) (.message "unknown network")
  pure (assembleNetmap codec networks pinId pin live now)

structure GatewayIdentity where
  publicKeyHex : String
  signHex : List UInt8 → String

def signNetmap (netmap : PinNetmap) (identity : GatewayIdentity) : SignedPinNetmap where
  netmap
  gatewayPubkey := identity.publicKeyHex
  signature := identity.signHex (canonicalJson netmap)

/-! ## Calls -/

/-- The functions that write to the tables, with the values they draw and the
time they read. -/
inductive PinCall
  | createPin (ledger : Db) (pinId name joinCode : String)
      (ownerAccount : AccountUserId) (now : Timestamp)
  | submitJoin (pinId : PinId) (deviceId : DeviceId) (nodePubkey : String)
      (displayName : Option String) (now : Timestamp)
  | approveMember (pinId : PinId) (deviceId : DeviceId)
      (approverAccount : AccountUserId) (now : Timestamp)
  | denyMember (pinId : PinId) (deviceId : DeviceId)
  | removeMember (pinId : PinId) (deviceId : DeviceId) (remover : String) (now : Timestamp)
  | setMemberDisabled (pinId : PinId) (deviceId : DeviceId) (disabled : Bool)
  | updateMember (pinId : PinId) (deviceId : DeviceId)
      (displayName : Option String) (servesModels : Option Bool)
  | rotateJoinCode (pinId : PinId) (code : String)
  | grantRole (pinId : PinId) (account : AccountUserId) (role grantedBy : String) (now : Timestamp)
  | revokeRole (pinId : PinId) (account : AccountUserId)
  | touchMemberLastSeen (pinId : PinId) (deviceId : DeviceId) (now : Timestamp)
  | setMemberOffersExit (pinId : PinId) (deviceId : DeviceId) (offersExit : Bool)
  | updateMemberEndpoints (pinId : PinId) (deviceId : DeviceId)
      (endpointsJson loadedModelsJson wgPubkey : String) (now : Timestamp)
  | deletePin (pinId : PinId) (now : Timestamp)
  | setSettings (pinId : PinId) (settings : PinSettings)
  | setAllowRemoteModels (pinId : PinId) (deviceId : DeviceId) (allow : Bool)
  | setModelPolicy (pinId : PinId) (deviceId : DeviceId)
      (models : List (String × String)) (setBy : String) (now : Timestamp)
  | reportModelPolicyStatus (pinId : PinId) (deviceId : DeviceId)
      (statuses : List (String × String × Option String)) (now : Timestamp)
  | recordUsageBatch (pinId : PinId) (providerDeviceId : DeviceId)
      (batchId : String) (entries : List UsageEntry) (now : Timestamp)
  | bumpNetmapGeneration (pinId : PinId)

def PinCall.execute (codec : Codec) (networks : Networks) : PinCall → Tx Networks
  | createPin ledger pinId name joinCode ownerAccount now =>
    Pins.createPin ledger networks pinId name joinCode ownerAccount now
  | submitJoin pinId deviceId nodePubkey displayName now =>
    Pins.submitJoin networks pinId deviceId nodePubkey displayName now
  | approveMember pinId deviceId approverAccount now =>
    Pins.approveMember networks pinId deviceId approverAccount now
  | denyMember pinId deviceId => Pins.denyMember networks pinId deviceId
  | removeMember pinId deviceId remover now => Pins.removeMember networks pinId deviceId remover now
  | setMemberDisabled pinId deviceId disabled =>
    Pins.setMemberDisabled networks pinId deviceId disabled
  | updateMember pinId deviceId displayName servesModels =>
    Pins.updateMember networks pinId deviceId displayName servesModels
  | rotateJoinCode pinId code => Pins.rotateJoinCode networks pinId code
  | grantRole pinId account role grantedBy now =>
    Pins.grantRole networks pinId account role grantedBy now
  | revokeRole pinId account => Pins.revokeRole networks pinId account
  | touchMemberLastSeen pinId deviceId now =>
    pure (Pins.touchMemberLastSeen networks pinId deviceId now)
  | setMemberOffersExit pinId deviceId offersExit =>
    pure (Pins.setMemberOffersExit networks pinId deviceId offersExit)
  | updateMemberEndpoints pinId deviceId endpointsJson loadedModelsJson wgPubkey now =>
    Pins.updateMemberEndpoints codec networks pinId deviceId endpointsJson
      loadedModelsJson wgPubkey now
  | deletePin pinId now => Pins.deletePin networks pinId now
  | setSettings pinId settings => Pins.setSettings networks pinId settings
  | setAllowRemoteModels pinId deviceId allow =>
    pure (Pins.setAllowRemoteModels networks pinId deviceId allow)
  | setModelPolicy pinId deviceId models setBy now =>
    Pins.setModelPolicy networks pinId deviceId models setBy now
  | reportModelPolicyStatus pinId deviceId statuses now =>
    pure (Pins.reportModelPolicyStatus networks pinId deviceId statuses now)
  | recordUsageBatch pinId providerDeviceId batchId entries now =>
    Prod.fst <$> Pins.recordUsageBatch networks pinId providerDeviceId batchId entries now
  | bumpNetmapGeneration pinId => Prod.fst <$> Pins.bumpNetmapGeneration networks pinId

end Teale.Gateway.Pins
