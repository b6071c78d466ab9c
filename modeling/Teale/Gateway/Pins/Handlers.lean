import Teale.Gateway.Handlers.Keys
import Teale.Gateway.Pins.Store

/-!
# The endpoints of private networks

`gateway/src/handlers/pins.rs`, and the lane of `handlers/chat.rs` that is open to the members of
one network. Whoever has neither a role nor a member device gets the answer of a network that does
not exist.
-/

namespace Teale.Gateway.Pins

open Relational Transactional Service Protocol

/-! ## What a request finds -/

structure ScheduleReq where
  model : String
  ctxEstimate : Option ℕ := none
  exclude : List String := []
  deriving DecidableEq, Repr

structure LiveDevice where
  nodeId : String
  loadedModels : List String
  deriving DecidableEq, Repr

structure Setting where
  ledger : Db
  identity : Option GatewayIdentity
  devices : List LiveDevice
  /-- `Scheduler::pick`, which returns one of the candidates. -/
  pick : List LiveDevice → ScheduleReq → Option LiveDevice
  pick_mem : ∀ candidates req device, pick candidates req = some device → device ∈ candidates
  /-- The decision of `pin_join_limiter`. -/
  joinAllowed : Bool
  now : Timestamp
  draw : ℕ → String

/-- The models of the live devices by node key. Of two devices with one key the
map keeps the later one. -/
def Setting.live (setting : Setting) : Live := fun pubkey =>
  (setting.devices.reverse.find? fun device => device.nodeId = pubkey).map LiveDevice.loadedModels

abbrev PinHandler (α : Type) := Service Networks Failure α

/-! ## Standing -/

def unknownNetwork : Failure := .error (.notFound "unknown network")

def requireDevice : PrincipalKind → Except Failure DeviceId
  | .device deviceId => .ok deviceId
  | .static _ | .share _ _ _ | .apiKey _ _ _ _ _ | .accountSession _ _ =>
    .error (.error (.unauthorized "PIN endpoints require a device token"))

inductive PinActor
  | staff (account : AccountUserId) (role : PinRole)
  | member (deviceId : DeviceId)
  deriving DecidableEq, Repr

def PinActor.isStaff : PinActor → Bool
  | staff _ _ => true
  | member _ => false

def staffActor (ledger : Db) (networks : Networks) (principal : PrincipalKind)
    (pinId : PinId) : Option PinActor := do
  let account ← accountOf ledger principal
  let role ← networks.roleOf pinId account
  pure (.staff account role)

def resolveActor (ledger : Db) (networks : Networks) (principal : PrincipalKind)
    (pinId : PinId) : Except Failure PinActor :=
  match staffActor ledger networks principal pinId, principal with
  | some actor, _ => .ok actor
  | none, .device deviceId =>
    if networks.memberStatus pinId deviceId = some .active then
      .ok (.member deviceId)
    else
      .error unknownNetwork
  | none, _ => .error unknownNetwork

def requireAdminActor (ledger : Db) (networks : Networks)
    (principal : PrincipalKind) (pinId : PinId) : Except Failure AccountUserId := do
  match ← resolveActor ledger networks principal pinId with
  | .staff account .admin => pure account
  | .staff _ .modelrator | .member _ => throw (.error (.forbidden "requires the admin role"))

def requireStaffActor (ledger : Db) (networks : Networks)
    (principal : PrincipalKind) (pinId : PinId) : Except Failure AccountUserId := do
  match ← resolveActor ledger networks principal pinId with
  | .staff account _ => pure account
  | .member _ => throw (.error (.forbidden "requires the admin or modelrator role"))

/-! ## Requests and answers -/

structure JoinReq where
  joinCode : String
  displayName : Option String := none
  nodePubkey : String
  deriving DecidableEq, Repr

structure PatchMemberReq where
  displayName : Option String := none
  servesModels : Option Bool := none
  disabled : Option Bool := none
  deriving DecidableEq, Repr

structure SettingsReq where
  dinContributionDefault : Option Bool := none
  priorityPolicy : Option String := none
  deriving DecidableEq, Repr

/-- `SyncReq`; nothing reads `knownGeneration`. -/
structure SyncReq where
  endpoints : List PinEndpoint := []
  wgPubkey : String := ""
  loadedModels : List String := []
  offersExit : Option Bool := none
  modelPolicyStatus : List (String × String × Option String) := []
  deriving DecidableEq, Repr

structure UsageQuery where
  first : Option String := none
  last : Option String := none
  grouping : Option String := none
  deriving DecidableEq, Repr

inductive NetworkRequest
  | getPin
  | listMembers
  | approveMember (deviceId : DeviceId)
  | denyMember (deviceId : DeviceId)
  | patchMember (deviceId : DeviceId) (req : PatchMemberReq)
  | removeMember (deviceId : DeviceId)
  | leave
  | rotateCode
  | getJoinCode
  | setRole (account : AccountUserId) (role : Option String)
  | putSettings (req : SettingsReq)
  | deletePin
  | sync (req : SyncReq)
  | schedule (req : ScheduleReq)
  | setDeviceModels (deviceId : DeviceId) (models : List (String × String))
  | getModels
  | usageReport (batchId : String) (entries : List UsageEntry)
  | usage (query : UsageQuery)
  deriving DecidableEq, Repr

inductive Request
  | createPin (name : String)
  | listPins
  | join (req : JoinReq)
  | network (pinId : PinId) (request : NetworkRequest)
  deriving DecidableEq, Repr

structure PinDetail where
  pinId : PinId
  name : String
  settings : PinSettings
  netmapGeneration : ℤ
  createdAt : Timestamp
  yourRole : String
  pendingCount : Option ℕ
  deriving DecidableEq, Repr

structure SyncResponse where
  membership : String
  netmap : Option SignedPinNetmap := none
  modelPolicy : List ((DeviceId × String) × PolicyRow) := []
  settings : Option PinSettings := none
  deriving DecidableEq

structure ScheduleResponse where
  deviceId : DeviceId
  nodePubkey : String
  displayName : Option String
  endpoints : List PinEndpoint
  deriving DecidableEq, Repr

inductive Response
  | created (pinId : PinId) (pin : PinRow)
  | pins (staff : List Networks.PinSummary) (memberships : List Networks.MembershipSummary)
  /-- Status 202. -/
  | submitted
  | detail (detail : PinDetail)
  | members (members : List (DeviceId × MemberRow))
  | status (text : String)
  | joinCode (code : String)
  | settings (settings : PinSettings)
  | sync (response : SyncResponse)
  | schedule (response : ScheduleResponse)
  | models (policy : List ((DeviceId × String) × PolicyRow))
  | usage (rows : List Networks.UsageRow) (totals : List (String × UsageCounts))
  deriving DecidableEq

/-! ## Handlers -/

section Handlers

variable (codec : Codec) (setting : Setting) (principal : PrincipalKind)

def createNetwork (name : String) : PinHandler Response := do
  let account ← require (accountOf setting.ledger principal)
    (.error (.forbidden "creating a network requires a device linked to a Teale account"))
  perform (fun networks => Pins.createPin setting.ledger networks
      (setting.draw 0) name (setting.draw 1) account setting.now)
    fun error => error.answer .other
  pure (.created (setting.draw 0)
    { name := RustText.trim name
      joinCode := setting.draw 1
      ownerAccountUserId := account
      createdAt := setting.now })

def listPins : PinHandler Response := query fun networks =>
    .ok (.pins ((accountOf setting.ledger principal).elim [] networks.pinsForAccount)
      (match principal with
        | .device deviceId => networks.pinsForDevice deviceId
        | _ => []))

/-- The second half of `join`, once the limiter let the device through. -/
def submit (deviceId : DeviceId) (req : JoinReq) : PinHandler Response := do
  match ← query fun networks => .ok (networks.findByJoinCode req.joinCode) with
  | none => pure .submitted
  | some pinId =>
    perform (fun networks => submitJoin networks pinId deviceId req.nodePubkey
        req.displayName setting.now)
      fun error => error.answer .other
    pure .submitted

def join (req : JoinReq) : PinHandler Response := do
  let deviceId ← outcome (requireDevice principal)
  if setting.joinAllowed then submit setting deviceId req else pure .submitted

variable (pinId : PinId)

def actor : PinHandler PinActor :=
  query fun networks => resolveActor setting.ledger networks principal pinId

def adminActor : PinHandler AccountUserId :=
  query fun networks => requireAdminActor setting.ledger networks principal pinId

def staffAccount : PinHandler AccountUserId :=
  query fun networks => requireStaffActor setting.ledger networks principal pinId

def existingPin : PinHandler PinRow :=
  query fun networks => getOr (networks.getPin pinId) unknownNetwork

def getPin : PinHandler Response := do
  let caller ← actor setting principal pinId
  let pin ← existingPin pinId
  query fun networks => .ok (.detail
    { pinId
      name := pin.name
      settings := pin.settings
      netmapGeneration := pin.netmapGeneration
      createdAt := pin.createdAt
      yourRole :=
        match caller with
        | .staff _ role => role.text
        | .member _ => "member"
      pendingCount :=
        if caller.isStaff then
          some ((networks.membersOf pinId).countP fun member =>
            member.2.status = .pending)
        else
          none })

/-- `list_members`; members do not see the approval queue. -/
def listMembers : PinHandler Response := do
  let caller ← actor setting principal pinId
  query fun networks => .ok (.members ((networks.membersOf pinId).filter fun member =>
      caller.isStaff || member.2.status ≠ .pending))

def approve (deviceId : DeviceId) : PinHandler Response := do
  let account ← adminActor setting principal pinId
  perform (fun networks => approveMember networks pinId deviceId account setting.now)
    fun error => error.answer .conflict
  pure (.status "active")

def deny (deviceId : DeviceId) : PinHandler Response := do
  let _ ← adminActor setting principal pinId
  perform (fun networks => denyMember networks pinId deviceId) fun error => error.answer .conflict
  pure (.status "denied")

/-- The check of `patch_member`: an admin disables, the staff does the rest. -/
def patchActor (req : PatchMemberReq) : PinHandler AccountUserId :=
  if req.disabled.isSome then adminActor setting principal pinId
  else staffAccount setting principal pinId

def patchRow (deviceId : DeviceId) (req : PatchMemberReq) : PinHandler PUnit :=
  if req.displayName.isSome || req.servesModels.isSome then
    perform (fun networks => updateMember networks pinId deviceId req.displayName req.servesModels)
      fun error => error.answer .conflict
  else
    pure ⟨⟩

def patchDisabled (deviceId : DeviceId) : Option Bool → PinHandler PUnit
  | none => pure ⟨⟩
  | some disabled =>
    perform (fun networks => setMemberDisabled networks pinId deviceId disabled)
      fun error => error.answer .conflict

def patchMember (deviceId : DeviceId) (req : PatchMemberReq) : PinHandler Response := do
  let _ ← patchActor setting principal pinId req
  patchRow pinId deviceId req
  patchDisabled pinId deviceId req.disabled
  pure (.status "ok")

def remove (deviceId : DeviceId) : PinHandler Response := do
  let account ← adminActor setting principal pinId
  perform (fun networks => removeMember networks pinId deviceId account setting.now)
    fun error => error.answer .conflict
  pure (.status "removed")

def leave : PinHandler Response := do
  let deviceId ← outcome (requireDevice principal)
  perform (fun networks => removeMember networks pinId deviceId deviceId setting.now)
    fun error => error.answer .conflict
  pure (.status "left")

def rotateCode : PinHandler Response := do
  let _ ← adminActor setting principal pinId
  perform (fun networks => rotateJoinCode networks pinId (setting.draw 0))
    fun error => error.answer .other
  pure (.joinCode (setting.draw 0))

def getJoinCode : PinHandler Response := do
  let _ ← adminActor setting principal pinId
  let pin ← existingPin pinId
  pure (.joinCode pin.joinCode)

def changeRole (granter account : AccountUserId) : Option String → PinHandler PUnit
  | some role =>
    perform (fun networks => grantRole networks pinId account role granter setting.now)
      fun error => error.answer .badRequest
  | none =>
    perform (fun networks => revokeRole networks pinId account) fun error => error.answer .conflict

def setRole (account : AccountUserId) (role : Option String) : PinHandler Response := do
  let granter ← adminActor setting principal pinId
  changeRole setting pinId granter account role
  pure (.status "ok")

def SettingsReq.applied (req : SettingsReq) (settings : PinSettings) : PinSettings where
  dinContributionDefault := req.dinContributionDefault.getD settings.dinContributionDefault
  priorityPolicy := req.priorityPolicy.getD settings.priorityPolicy

def putSettings (req : SettingsReq) : PinHandler Response := do
  let _ ← staffAccount setting principal pinId
  let pin ← existingPin pinId
  refuseIf (req.priorityPolicy.any fun policy => policy ≠ "pin_first" && policy ≠ "equal")
    (.error (.badRequest "priorityPolicy must be pin_first or equal"))
  perform (fun networks => setSettings networks pinId (req.applied pin.settings))
    fun error => error.answer .other
  pure (.settings (req.applied pin.settings))

def delete : PinHandler Response := do
  let account ← adminActor setting principal pinId
  let pin ← existingPin pinId
  refuseIf (pin.ownerAccountUserId ≠ account)
    (.error (.forbidden "only the owner can delete a network"))
  perform (fun networks => Pins.deletePin networks pinId setting.now)
    fun error => error.answer .other
  pure (.status "deleted")

def syncOffersExit (deviceId : DeviceId) : Option Bool → PinHandler PUnit
  | none => pure ⟨⟩
  | some offersExit =>
    perform (fun networks =>
        (pure (setMemberOffersExit networks pinId deviceId offersExit) : Tx Networks))
      fun error => error.answer .other

def syncModelPolicy (deviceId : DeviceId)
    (statuses : List (String × String × Option String)) : PinHandler PUnit :=
  if statuses.isEmpty then
    pure ⟨⟩
  else
    perform (fun networks =>
        (pure (reportModelPolicyStatus networks pinId deviceId statuses setting.now) : Tx Networks))
      fun error => error.answer .other

def syncActive (deviceId : DeviceId) (req : SyncReq) : PinHandler SyncResponse := do
  perform (fun networks => updateMemberEndpoints codec networks pinId deviceId
      (codec.printEndpoints req.endpoints) (codec.printModels req.loadedModels)
      req.wgPubkey setting.now)
    fun error => error.answer .other
  syncOffersExit pinId deviceId req.offersExit
  syncModelPolicy setting pinId deviceId req.modelPolicyStatus
  let pin ← existingPin pinId
  let identity ← require setting.identity
    (.error (.other "gateway identity unavailable"))
  let netmap ← query fun networks =>
    (buildNetmap codec networks pinId setting.live setting.now).mapError
      fun error => error.answer .other
  query fun networks => .ok
    { membership := "active"
      netmap := some (signNetmap netmap identity)
      modelPolicy := networks.modelPolicy pinId (some deviceId)
      settings := some pin.settings }

/-- `sync`; a removed device and one that never asked get the same answer. -/
def sync (req : SyncReq) : PinHandler SyncResponse := do
  let deviceId ← outcome (requireDevice principal)
  match ← query fun networks => .ok (networks.memberStatus pinId deviceId) with
  | some .active => syncActive codec setting pinId deviceId req
  | some .removed | none => pure { membership := "none" }
  | some status => pure { membership := status.text }

def Networks.serving (networks : Networks) (pinId : PinId) : List (DeviceId × MemberRow) :=
  (networks.membersOf pinId).filter fun member => member.2.status = .active && member.2.servesModels

/-- The map of `schedule` by node key. Of two members with one key it keeps the
later one. -/
def servingWithKey (members : List (DeviceId × MemberRow)) (nodeId : String) :
    Option (DeviceId × MemberRow) :=
  members.reverse.find? fun member => member.2.nodePubkey = nodeId

def scheduleAmong (networks : Networks) (req : ScheduleReq) : Except Failure ScheduleResponse := do
  let serving := networks.serving pinId
  let candidates := setting.devices.filter fun device =>
    (servingWithKey serving device.nodeId).isSome
  let picked ← getOr (setting.pick candidates req)
    (.error (.noEligibleDevice req.model))
  let member ← getOr (servingWithKey serving picked.nodeId) .panic
  pure
    { deviceId := member.1
      nodePubkey := member.2.nodePubkey
      displayName := member.2.displayName
      endpoints := (codec.readEndpoints member.2.endpoints).getD [] }

def schedule (req : ScheduleReq) : PinHandler ScheduleResponse := do
  let _ ← actor setting principal pinId
  query fun networks => scheduleAmong codec setting pinId networks req

def setDeviceModels (deviceId : DeviceId) (models : List (String × String)) :
    PinHandler Response := do
  let account ← staffAccount setting principal pinId
  let status ← query fun networks => .ok (networks.memberStatus pinId deviceId)
  refuseIf (status ≠ some .active ∧ status ≠ some .disabled) (.error (.notFound "unknown device"))
  perform (fun networks => setModelPolicy networks pinId deviceId models account setting.now)
    fun error => error.answer .badRequest
  query fun networks => .ok (.models (networks.modelPolicy pinId (some deviceId)))

def getModels : PinHandler Response := do
  let _ ← actor setting principal pinId
  query fun networks => .ok (.models (networks.modelPolicy pinId none))

def usageReport (batchId : String) (entries : List UsageEntry) : PinHandler Response := do
  let deviceId ← outcome (requireDevice principal)
  let status ← query fun networks => .ok (networks.memberStatus pinId deviceId)
  refuseIf (status ≠ some .active) unknownNetwork
  refuseIf (RustText.trim batchId = "") (.error (.badRequest "batchId is required"))
  let applied ← transact (fun networks =>
      recordUsageBatch networks pinId deviceId batchId entries setting.now)
    fun error => error.answer .badRequest
  pure (.status (if applied then "applied" else "duplicate"))

def groupKey (grouping : String) (row : Networks.UsageRow) : String :=
  if grouping = "device" then row.providerDeviceId
  else if grouping = "model" then row.modelId
  else if grouping = "consumer" then row.consumerDeviceId
  else row.day

def usageTotals (grouping : String) (rows : List Networks.UsageRow) : List (String × UsageCounts) :=
  ((rows.map (groupKey grouping)).dedup.insertionSort (· ≤ ·)).map fun key =>
    let group := (rows.filter fun row => groupKey grouping row = key).map
      Networks.UsageRow.counts
    (key,
      { requests := (group.map UsageCounts.requests).sum
        tokensIn := (group.map UsageCounts.tokensIn).sum
        tokensOut := (group.map UsageCounts.tokensOut).sum })

/-- `usage`; members see their own consumption only. -/
def usage (asked : UsageQuery) : PinHandler Response := do
  let caller ← actor setting principal pinId
  query fun networks =>
    let rows := networks.usageRows pinId asked.first asked.last
      (match caller with
        | .staff _ _ => none
        | .member deviceId => some deviceId)
    .ok (.usage rows (usageTotals (asked.grouping.getD "day") rows))

def handleNetwork : NetworkRequest → PinHandler Response
  | .getPin => getPin setting principal pinId
  | .listMembers => listMembers setting principal pinId
  | .approveMember deviceId => approve setting principal pinId deviceId
  | .denyMember deviceId => deny setting principal pinId deviceId
  | .patchMember deviceId req => patchMember setting principal pinId deviceId req
  | .removeMember deviceId => remove setting principal pinId deviceId
  | .leave => leave setting principal pinId
  | .rotateCode => rotateCode setting principal pinId
  | .getJoinCode => getJoinCode setting principal pinId
  | .setRole account role => setRole setting principal pinId account role
  | .putSettings req => putSettings setting principal pinId req
  | .deletePin => delete setting principal pinId
  | .sync req => .sync <$> sync codec setting principal pinId req
  | .schedule req => .schedule <$> schedule codec setting principal pinId req
  | .setDeviceModels deviceId models => setDeviceModels setting principal pinId deviceId models
  | .getModels => getModels setting principal pinId
  | .usageReport batchId entries => usageReport setting principal pinId batchId entries
  | .usage asked => usage setting principal pinId asked

def handle : Request → PinHandler Response
  | .createPin name => createNetwork setting principal name
  | .listPins => listPins setting principal
  | .join req => join setting principal req
  | .network pinId request => handleNetwork codec setting principal pinId request

end Handlers

/-! ## The lane of one network -/

def laneAccount : PrincipalKind → Option AccountUserId
  | .accountSession accountUserId _ => some accountUserId
  | .apiKey _ accountUserId _ _ _ => some accountUserId
  | .static _ | .device _ | .share _ _ _ => none

/-- `apmhelp_lane_request`, with the network of the configuration. -/
def apmhelpLaneRequest (pinId : PinId) (networks : Networks) (principal : PrincipalKind) : Bool :=
  if pinId = "" then
    false
  else if ((laneAccount principal).bind (networks.roleOf pinId)).isSome then
    true
  else
    match principal with
    | .device deviceId => networks.memberStatus pinId deviceId = some .active
    | _ => false

end Teale.Gateway.Pins
