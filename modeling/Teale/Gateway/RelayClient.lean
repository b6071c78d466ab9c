import Teale.Gateway.Inference.Sessions
import Teale.Gateway.Registry

/-!
# The gateway's side of the relay

`gateway/src/relay_client.rs`: the read loop of the connection to the relay. A session is found by
its id alone, and each has a channel of 128 events. What the gateway sends and what waits for a
`relayReady` change neither registry nor sessions and are left out.
-/

namespace Teale.Gateway

open Relational Serde Transactional List Option Relational.Table Function

variable {F : Type}

/-! ## Messages -/

/-- A peer of a discover response; what is missing or cannot be read is `none`. -/
structure DiscoveredPeer where
  nodeID : Option String
  displayName : Option String
  capabilities : Option NodeCapabilities

/-- `ClusterMessage`; `heartbeat` stands for its acknowledgement too. -/
inductive ClusterMessage (F : Type)
  | inferenceChunk (chunk : Value F)
  | inferenceComplete (tokensOut : Option ℕ)
  | inferenceError (errorMessage : String) (code : Option String)
  | heartbeat (payload : HeartbeatPayload)
  | unhandled

inductive IncomingRelayMessage (F : Type)
  | registerAck
  | discoverResponse (peers : List DiscoveredPeer)
  | peerJoined (nodeId : String)
  | peerLeft (nodeId : String)
  | relayReady (fromNodeId sessionId : String)
  | relayData (fromNodeId sessionId : String) (message : Option (ClusterMessage F))
  | relayClose (fromNodeId sessionId : String)
  | error (code message : String)
  | unknown

structure SupplyRules where
  allowedNodeIds : List String
  employeeNodeIds : List String
  strangerSupply : Bool

namespace SupplyRules

def allows (rules : SupplyRules) (nodeId : String) : Bool :=
  rules.allowedNodeIds.isEmpty || rules.allowedNodeIds.contains nodeId

def employee (rules : SupplyRules) (nodeId : String) : Bool :=
  rules.employeeNodeIds.contains nodeId && !rules.allows nodeId

def probation (rules : SupplyRules) (nodeId : String) : Bool :=
  !rules.allows nodeId && !rules.employee nodeId && rules.strangerSupply

end SupplyRules

/-- A channel of `mpsc::channel(128)` with what was read from it. A receiver that
is gone is one that reads no more. -/
structure SessionChannel (F : Type) where
  queue : List (SessionEvent F) := []
  received : List (SessionEvent F) := []

def SessionChannel.trySend (channel : SessionChannel F) (event : SessionEvent F) : SessionChannel F :=
  if channel.queue.length < 128 then
    { channel with queue := channel.queue ++ [event] }
  else channel

def SessionChannel.recv (channel : SessionChannel F) : SessionChannel F :=
  match channel.queue with
  | [] => channel
  | event :: rest => { queue := rest, received := channel.received ++ [event] }

/-- The sessions are kept with the device they are with. -/
structure RelayClient (F : Type) where
  registry : Registry := {}
  sessions : Table String String := ∅
  channels : String → SessionChannel F := fun _ => {}

def extractPeerNodeId (message : String) : Option String :=
  (RustText.stripPrefix "Peer " message).bind fun rest =>
    let peerNodeId := RustText.firstPiece rest ' '
    if rest = peerNodeId ++ " is not connected" then some peerNodeId else none

namespace RelayClient

def deliver (client : RelayClient F) (sessionId : String) (event : SessionEvent F) :
    RelayClient F :=
  if (client.sessions.find? sessionId).isSome then
    { client with
      channels := update client.channels sessionId
        ((client.channels sessionId).trySend event) }
  else client

def finish (client : RelayClient F) (ends : String → String → Bool)
    (event : SessionEvent F) : RelayClient F :=
  { client with
    sessions := client.sessions.deleteWhere ends
    channels := fun sessionId =>
      if (client.sessions.find? sessionId).any (ends sessionId) then
        (client.channels sessionId).trySend event
      else client.channels sessionId }

def discover (rules : SupplyRules) (now : ℕ) (registry : Registry)
    (peer : DiscoveredPeer) : Registry :=
  match peer.nodeID, peer.capabilities with
  | some nodeId, some capabilities =>
    if !rules.allows nodeId && !rules.employee nodeId && !rules.strangerSupply then
      registry
    else
      registry.upsertDeviceWithTier nodeId (peer.displayName.getD "unknown")
        capabilities (rules.employee nodeId) (rules.probation nodeId) now
  | _, _ => registry

def dispatchCluster (client : RelayClient F) (fromNodeId sessionId : String)
    (now : ℕ) : ClusterMessage F → RelayClient F
  | .inferenceChunk chunk => client.deliver sessionId (.chunk chunk)
  | .inferenceComplete tokensOut =>
    client.finish (fun other _ => other = sessionId) (.complete tokensOut)
  | .inferenceError errorMessage code =>
    client.finish (fun other _ => other = sessionId)
      (.error errorMessage (code.map RustText.toLowercase))
  | .heartbeat payload =>
    { client with registry := client.registry.applyHeartbeat fromNodeId payload now }
  | .unhandled => client

def handleIncoming (client : RelayClient F) (rules : SupplyRules)
    (config : ReliabilityConfig) (now : ℕ) : IncomingRelayMessage F → RelayClient F
  | .discoverResponse peers =>
    { client with registry := peers.foldl (discover rules now) client.registry }
  | .peerLeft nodeId => { client with registry := client.registry.markDeparted nodeId now }
  | .relayData fromNodeId sessionId (some message) =>
    client.dispatchCluster fromNodeId sessionId now message
  | .relayClose _ sessionId =>
    client.finish (fun other _ => other = sessionId) (.disconnect "peer closed session")
  | .error code message =>
    match if code = "peer_not_found" then extractPeerNodeId message else none with
    | none => client
    | some nodeId =>
      { client.finish (fun _ device => device = nodeId)
          (.disconnect ("peer not connected: " ++ nodeId)) with
        registry := client.registry.quarantine nodeId config.quarantineSeconds
          now }
  | _ => client

end RelayClient

/-- What changes the client: messages of the relay and its end, the sweep, and
the requests that register, read and close their sessions and hold devices. -/
inductive ClientStep (F : Type)
  | incoming (message : IncomingRelayMessage F) (now : ℕ)
  | disconnected
  | sweep (now : ℕ)
  | register (sessionId deviceNodeId : String)
  | receive (sessionId : String)
  | close (sessionId : String)
  | admits (nodeId : String) (heavy : Bool) (owner : Option String) (now : ℕ)
  | releases (nodeId : String) (heavy : Bool) (now : ℕ)
  | quarantines (nodeId : String) (seconds now : ℕ)

def RelayClient.step (rules : SupplyRules) (config : ReliabilityConfig)
    (client : RelayClient F) : ClientStep F → RelayClient F
  | .incoming message now => client.handleIncoming rules config now message
  | .disconnected => client.finish (fun _ _ => true) (.disconnect "relay disconnected")
  | .sweep now => { client with registry := client.registry.sweep config now }
  | .register sessionId deviceNodeId =>
    { client with
      sessions := client.sessions.upsert sessionId deviceNodeId
      channels := update client.channels sessionId {} }
  | .receive sessionId =>
    { client with
      channels := update client.channels sessionId
        (client.channels sessionId).recv }
  | .close sessionId =>
    { client with
      sessions := client.sessions.deleteWhere fun other _ => other = sessionId }
  | .admits nodeId heavy owner now =>
    { client with
      registry := (client.registry.admitRequest config nodeId heavy owner now).1 }
  | .releases nodeId heavy now =>
    { client with registry := client.registry.decInFlight nodeId heavy now }
  | .quarantines nodeId seconds now =>
    { client with registry := client.registry.quarantine nodeId seconds now }

namespace RelayClient

variable {rules : SupplyRules} {config : ReliabilityConfig} {now : ℕ}
  {client : RelayClient F} {sessionId device : String}

/-! ## Who is in the supply -/

/-- The devices are there by the rules, and are marked by them. -/
def Supplied (rules : SupplyRules) (devices : Table String DeviceState) : Prop :=
  ∀ nodeId device, devices.find? nodeId = some device → device.employee = rules.employee nodeId ∧
      device.probation = rules.probation nodeId ∧
      (rules.allows nodeId ∨ rules.employee nodeId ∨ rules.probation nodeId)

variable {devices : Table String DeviceState} {nodeId : String} {registry : Registry}

theorem Supplied.modify {change : DeviceState → DeviceState} (supplied : Supplied rules devices)
    (marked : ∀ device, devices.find? nodeId = some device →
      (change device).employee = device.employee ∧ (change device).probation = device.probation) :
    Supplied rules (devices.modify nodeId change) := by
  intro other device found
  obtain kept | ⟨old, isOld, rfl, rfl⟩ := find?_modify_eq_some found
  · exact supplied other device kept
  · obtain ⟨sameEmployee, sameProbation⟩ := marked old isOld
    rw [sameEmployee, sameProbation]
    exact supplied other old isOld

section

variable (supplied : Supplied rules registry.devices)

include supplied

theorem Supplied.sweep (config : ReliabilityConfig) (now : ℕ) :
    Supplied rules (registry.sweep config now).devices := by
  intro other device found
  rw [Registry.sweep, find?_update] at found
  obtain ⟨old, kept, rfl⟩ := map_eq_some_iff.mp found
  exact supplied other old (find?_deleteWhere_eq_some kept)

theorem Supplied.discover (peer : DiscoveredPeer) :
    Supplied rules (discover rules now registry peer).devices := by
  rw [RelayClient.discover]
  split
  · next nodeId capabilities named readable =>
      split
      · exact supplied
      · next admitted =>
          intro other device found
          rw [Registry.upsertDeviceWithTier, find?_upsert] at found
          split at found
          · next same =>
              subst same
              cases found
              refine ⟨rfl, rfl, ?_⟩
              rw [SupplyRules.probation]
              cases isAllowed : rules.allows other <;> cases isEmployee : rules.employee other <;>
                simp_all
          · exact supplied other device found
  · exact supplied

theorem Supplied.admitRequest (heavy : Bool) (owner : Option String) :
    Supplied rules (registry.admitRequest config nodeId heavy owner now).1.devices := by
  rw [Registry.admitRequest]
  split
  · split
    · exact supplied
    · split
      · exact supplied
      · next devices observed =>
          rw [Registry.observeExcess] at observed
          split at observed
          · exact some.inj observed ▸ supplied
          · next device found =>
              obtain ⟨device', isObserved, rfl⟩ := map_eq_some_iff.mp observed
              apply supplied.modify
              intro old isOld
              cases found.symm.trans isOld
              rw [DeviceState.observeExcess] at isObserved
              repeat' split at isObserved
              all_goals cases isObserved <;> exact ⟨rfl, rfl⟩
  · exact supplied

theorem Supplied.decInFlight (heavy : Bool) :
    Supplied rules (registry.decInFlight nodeId heavy now).devices := by
  rw [Registry.decInFlight]
  split
  · exact supplied
  · split
    · split
      · exact supplied.modify fun _ _ => ⟨rfl, rfl⟩
      · exact supplied
    · exact supplied

end

theorem Supplied.step (supplied : Supplied rules client.registry.devices) (step : ClientStep F) :
    Supplied rules (client.step rules config step).registry.devices := by
  cases step with
  | incoming message now =>
    cases message with
    | discoverResponse peers =>
      refine foldl_preserves
        (fun registry : Registry => Supplied rules registry.devices) ?_ supplied
      exact fun registry peer _ supplied => supplied.discover peer
    | peerLeft nodeId => exact supplied.modify fun _ _ => ⟨rfl, rfl⟩
    | relayData fromNodeId sessionId carried =>
      cases carried with
      | none => exact supplied
      | some message =>
        cases message with
        | heartbeat payload => exact supplied.modify fun _ _ => ⟨rfl, rfl⟩
        | inferenceChunk chunk =>
          rw [RelayClient.step, handleIncoming, dispatchCluster, deliver]
          split <;> exact supplied
        | _ => exact supplied
    | error code message =>
      rw [RelayClient.step, handleIncoming]
      split
      · exact supplied
      · exact supplied.modify fun _ _ => ⟨rfl, rfl⟩
    | _ => exact supplied
  | sweep now => exact supplied.sweep config now
  | admits nodeId heavy owner now => exact supplied.admitRequest heavy owner
  | releases nodeId heavy now => exact supplied.decInFlight heavy
  | quarantines nodeId seconds now => exact supplied.modify fun _ _ => ⟨rfl, rfl⟩
  | disconnected | register sessionId device | receive sessionId
  | close sessionId => exact supplied

/-- Whatever happens, the supply for the default lane is the fleet's; employees
are in the supply only where they are asked for, and nobody on probation is. -/
theorem eligibleSupply_admitted (rules : SupplyRules) (config : ReliabilityConfig)
    (steps : List (ClientStep F)) (modelId : String) (includeEmployee : Bool) (now : ℕ) :
    ∀ row ∈ (run (step rules config) ({} : RelayClient F) steps).registry.eligibleSupply
        config modelId includeEmployee now, (includeEmployee = false → rules.allows row.1) ∧
      (rules.employee row.1 ∨ row.2.employee → includeEmployee = true) ∧
      rules.probation row.1 = false ∧ row.2.probation = false := by
  have supplied : Supplied rules
      (run (step rules config) ({} : RelayClient F) steps).registry.devices := by
    have initially : Supplied rules ({} : RelayClient F).registry.devices := by
      intro nodeId device found
      simp at found
    refine foldl_preserves
      (fun client : RelayClient F => Supplied rules client.registry.devices) ?_ initially
    exact fun client step _ supplied => supplied.step step
  rintro ⟨nodeId, device⟩ member
  obtain ⟨listed, eligible⟩ := mem_filter.mp member
  obtain ⟨isEmployee, isProbation, admitted⟩ :=
    supplied nodeId device (mem_rows_iff_find?.mp listed)
  simp only [Bool.and_eq_true, Bool.not_eq_true'] at eligible
  obtain ⟨⟨⟨lane, unproven⟩, -⟩, -⟩ := eligible
  dsimp only
  rw [← isEmployee, ← isProbation] at admitted ⊢
  cases includeEmployee <;> cases hEmployee : device.employee <;> simp_all

/-- A node of the fleet that is discovered is in the supply. -/
theorem eligibleSupply_admitted_discovered :
    let rules : SupplyRules := ⟨["device"], [], false⟩
    let config : ReliabilityConfig := ⟨60, 60, 60, 60, 60⟩
    let peers : List DiscoveredPeer := [⟨"device", none, some { loadedModels := ["m"] }⟩]
    let supply := (run (step rules config) ({} : RelayClient Unit)
      [.incoming (.discoverResponse peers) 0]).registry.eligibleSupply config "m" false 0
    ∃ row ∈ supply, rules.allows row.1 ∧ row.2.probation = false := by
  intro rules config peers supply
  have nonempty : 0 < supply.length := by decide +kernel
  obtain ⟨row, member⟩ := exists_mem_of_length_pos nonempty
  have admitted := eligibleSupply_admitted rules config _ "m" false 0 row member
  exact ⟨row, member, admitted.1 rfl, admitted.2.2.2⟩

end RelayClient

/-! ## What comes to a session -/

def SessionEvent.isChunk : SessionEvent F → Bool
  | chunk _ => true
  | _ => false

/-- The event that a step brings to a session with a device. -/
def ClientStep.eventFor (sessionId device : String) : ClientStep F → Option (SessionEvent F)
  | .incoming (.relayData _ named (some (.inferenceChunk chunk))) _ =>
    if named = sessionId then some (.chunk chunk) else none
  | .incoming (.relayData _ named (some (.inferenceComplete tokensOut))) _ =>
    if named = sessionId then some (.complete tokensOut) else none
  | .incoming (.relayData _ named (some (.inferenceError errorMessage code))) _ =>
    if named = sessionId then
      some (.error errorMessage (code.map RustText.toLowercase))
    else none
  | .incoming (.relayClose _ named) _ =>
    if named = sessionId then some (.disconnect "peer closed session") else none
  | .incoming (.error code message) _ =>
    if code = "peer_not_found" ∧ extractPeerNodeId message = some device then
      some (.disconnect ("peer not connected: " ++ device))
    else none
  | .disconnected => some (.disconnect "relay disconnected")
  | _ => none

/-- The request neither closes its session nor registers it again. -/
def ClientStep.Keeps (sessionId : String) : ClientStep F → Prop
  | .register named _ | .close named => named ≠ sessionId
  | _ => True

namespace RelayClient

variable {rules : SupplyRules} {config : ReliabilityConfig}
  {client : RelayClient F} {sessionId device : String} {step : ClientStep F}
  {steps : List (ClientStep F)}

def log (client : RelayClient F) (sessionId : String) : List (SessionEvent F) :=
  (client.channels sessionId).received ++ (client.channels sessionId).queue

theorem log_recv (channel : SessionChannel F) :
    channel.recv.received ++ channel.recv.queue = channel.received ++ channel.queue := by
  rw [SessionChannel.recv]
  split
  · rfl
  · next event rest isQueue => simp [isQueue]

structure Follows (client client' : RelayClient F) (sessionId device : String)
    (event : Option (SessionEvent F)) : Prop where
  unregistered : client.sessions.find? sessionId = none →
    client'.sessions.find? sessionId = none ∧ client'.log sessionId = client.log sessionId
  quiet : event = none → client'.sessions.find? sessionId = client.sessions.find? sessionId ∧
      client'.log sessionId = client.log sessionId
  arrives : ∀ e, event = some e → client.sessions.find? sessionId = some device →
    client'.channels sessionId = (client.channels sessionId).trySend e ∧
      client'.sessions.find? sessionId = if e.isChunk then some device else none

theorem Follows.of_eq
    (sameSession : client'.sessions.find? sessionId = client.sessions.find? sessionId)
    (sameLog : client'.log sessionId = client.log sessionId) :
    Follows client client' sessionId device none where
  unregistered missing := ⟨sameSession.trans missing, sameLog⟩
  quiet _ := ⟨sameSession, sameLog⟩
  arrives _ isEvent := nomatch isEvent

theorem follows_deliver (named : String) (chunk : Value F) :
    Follows client (client.deliver named (.chunk chunk)) sessionId device
      (if named = sessionId then some (.chunk chunk) else none) := by
  by_cases same : named = sessionId
  · subst same
    rw [if_pos rfl, deliver]
    constructor
    · intro missing
      simp [missing]
    · rintro ⟨⟩
    · rintro _ ⟨⟩ registered
      simp [registered, SessionEvent.isChunk]
  · rw [if_neg same, deliver]
    split
    · refine .of_eq rfl ?_
      simp [log, update_of_ne (Ne.symm same)]
    · exact .of_eq rfl rfl

theorem follows_finish {ends : String → String → Bool} {event : SessionEvent F}
    {named : Prop} [Decidable named] (last : event.isChunk = false)
    (isNamed : ∀ device', client.sessions.find? sessionId = some device' →
      (ends sessionId device' = true ↔ named)) :
    Follows client (client.finish ends event) sessionId device
      (if named then some event else none) := by
  by_cases isEnded : named
  · rw [if_pos isEnded]
    constructor
    · intro missing
      simp [find?_deleteWhere, log, finish, missing]
    · rintro ⟨⟩
    · rintro _ ⟨⟩ registered
      simp [find?_deleteWhere, finish, registered,
        (isNamed device registered).mpr isEnded, last]
  · rw [if_neg isEnded]
    cases found : client.sessions.find? sessionId with
    | none =>
      refine .of_eq ?_ ?_
      · simp [find?_deleteWhere, finish, found]
      · simp [log, finish, found]
    | some device' =>
      have stays := mt (isNamed device' found).mp isEnded
      refine .of_eq ?_ ?_
      · simp [find?_deleteWhere, finish, found, stays]
      · simp [log, finish, found, stays]

theorem follows_step (keeps : step.Keeps sessionId)
    (isDevice : ∀ device', client.sessions.find? sessionId = some device' → device' = device) :
    Follows client (client.step rules config step) sessionId device
      (step.eventFor sessionId device) := by
  cases step with
  | incoming message now =>
    cases message with
    | relayData fromNodeId named carried =>
      have ended : decide (sessionId = named) = true ↔ named = sessionId :=
        decide_eq_true_iff.trans eq_comm
      cases carried with
      | none => exact .of_eq rfl rfl
      | some message =>
        cases message with
        | inferenceChunk chunk => exact follows_deliver named chunk
        | inferenceComplete | inferenceError => exact follows_finish rfl fun _ _ => ended
        | heartbeat payload => exact .of_eq rfl rfl
        | unhandled => exact .of_eq rfl rfl
    | relayClose fromNodeId named =>
      exact follows_finish rfl fun _ _ => decide_eq_true_iff.trans eq_comm
    | error code message =>
      rw [step, handleIncoming, ClientStep.eventFor]
      by_cases missing : code = "peer_not_found"
      · simp only [missing, if_true, true_and]
        cases names : extractPeerNodeId message with
        | none => exact .of_eq rfl rfl
        | some nodeId =>
          have follows := @follows_finish F client sessionId device
            (fun _ device => device = nodeId)
            (.disconnect ("peer not connected: " ++ nodeId))
            (nodeId = device) _ rfl fun device' registered => by
              rw [isDevice device' registered, decide_eq_true_iff, eq_comm]
          by_cases same : nodeId = device
          · subst same
            rw [if_pos rfl] at follows ⊢
            exact ⟨follows.unregistered, follows.quiet, follows.arrives⟩
          · rw [if_neg same] at follows
            rw [if_neg fun isSame => same (some.inj isSame)]
            exact ⟨follows.unregistered, follows.quiet, follows.arrives⟩
      · simp only [missing, if_false, false_and]
        exact .of_eq rfl rfl
    | _ => exact .of_eq rfl rfl
  | disconnected =>
    have follows := @follows_finish F client sessionId device (fun _ _ => true)
      (.disconnect "relay disconnected") True _ rfl fun _ _ => iff_of_true rfl trivial
    rwa [if_true] at follows
  | receive named =>
    refine .of_eq rfl ?_
    by_cases same : named = sessionId
    · subst same
      simp [step, log, log_recv]
    · simp [step, log, update_of_ne (Ne.symm same)]
  | register named device' =>
    have other : sessionId ≠ named := Ne.symm keeps
    refine .of_eq ?_ ?_
    · exact (find?_upsert ..).trans (if_neg other)
    · simp [step, log, update_of_ne other]
  | close named =>
    have other : sessionId ≠ named := Ne.symm keeps
    refine .of_eq ?_ rfl
    rw [step, find?_deleteWhere, decide_eq_false other]
    cases client.sessions.find? sessionId <;> rfl
  | sweep now | admits nodeId heavy owner now | releases nodeId heavy now
  | quarantines nodeId seconds now => exact .of_eq rfl rfl

theorem log_of_trySend {client' : RelayClient F} {event : SessionEvent F}
    (sent : client'.channels sessionId = (client.channels sessionId).trySend event) :
    client'.log sessionId = client.log sessionId ++
      if (client.channels sessionId).queue.length < 128 then [event] else [] := by
  rw [log, log, sent, SessionChannel.trySend]
  split <;> simp

/-! ## Who may touch a session -/

/-- A session is left as it is, with what it has received. -/
def Untouched (client client' : RelayClient F) (sessionId : String) : Prop :=
  client'.sessions.find? sessionId = client.sessions.find? sessionId ∧
    client'.log sessionId = client.log sessionId

/-- A step ends a session, or brings it a chunk there is room for. -/
def Touches (client : RelayClient F) (sessionId device : String) (step : ClientStep F) : Prop :=
  ∃ event, step.eventFor sessionId device = some event ∧
    (event.isChunk → (client.channels sessionId).queue.length < 128)

theorem untouched_step_iff (keeps : step.Keeps sessionId)
    (registered : client.sessions.find? sessionId = some device) :
    Untouched client (client.step rules config step) sessionId ↔
      ¬ Touches client sessionId device step := by
  have follows : Follows client (client.step rules config step) sessionId device
      (step.eventFor sessionId device) :=
    follows_step keeps (by simp [registered, eq_comm])
  rw [Touches]
  cases arrives : step.eventFor sessionId device with
  | none => exact iff_of_true (follows.quiet arrives) (by simp)
  | some event =>
    obtain ⟨sent, kept⟩ := follows.arrives event arrives registered
    rw [Untouched, kept, registered, log_of_trySend sent]
    cases more : event.isChunk <;> simp [more]

/-- Where a message has to come from to touch a session with a device: from the
device, or from the relay that does not find it. -/
def ComesFrom (device : String) : IncomingRelayMessage F → Prop
  | .relayData fromNodeId _ _ | .relayClose fromNodeId _ => fromNodeId = device
  | .error code message => code = "peer_not_found" ∧ extractPeerNodeId message = some device
  | _ => False

/-- A message changes a session only when it comes from there. -/
def Legitimate (rules : SupplyRules) (config : ReliabilityConfig) (client : RelayClient F) :
    ClientStep F → Prop
  | .incoming message now => ∀ sessionId device, client.sessions.find? sessionId = some device →
      ¬ Untouched client (client.handleIncoming rules config now message) sessionId →
        ComesFrom device message
  | _ => True

/-- No other node ends a session or sends it a chunk that there is room for. -/
def Honest (client : RelayClient F) : ClientStep F → Prop
  | .incoming message now => ∀ sessionId device, client.sessions.find? sessionId = some device →
      Touches client sessionId device (.incoming message now) → ComesFrom device message
  | _ => True

theorem legitimate_iff_honest : Legitimate rules config client step ↔ Honest client step := by
  cases step with
  | incoming message now =>
    refine forall₃_congr fun sessionId device registered => ?_
    have touched := @untouched_step_iff F rules config client sessionId device
      (.incoming message now) trivial registered
    rw [step] at touched
    rw [touched, not_not]
  | _ => rfl

/-- In every run the sessions are changed by legitimate messages only, if and only if
every node keeps to its own sessions. -/
theorem sessions_legitimate_iff (rules : SupplyRules) (config : ReliabilityConfig)
    (steps : List (ClientStep F)) :
    Admissible (Legitimate rules config) (RelayClient.step rules config) {} steps ↔
      Admissible Honest (RelayClient.step rules config) {} steps := by
  have same : Legitimate rules config = Honest (F := F) := by
    funext client step
    exact propext legitimate_iff_honest
  rw [same]

/-- Another node completes the session of a device. -/
theorem otherNode_ends_session :
    let rules : SupplyRules := ⟨[], [], false⟩
    let config : ReliabilityConfig := ⟨60, 60, 60, 60, 60⟩
    ¬ Admissible (Legitimate rules config) (RelayClient.step rules config)
      ({} : RelayClient Unit) [.register "s" "device",
        .incoming (.relayData "other" "s" (some (.inferenceComplete none))) 0] := by
  rintro rules config ⟨-, legitimate, -⟩
  have other : "other" = "device" :=
    legitimate "s" "device" rfl fun untouched => nomatch untouched.1
  exact absurd other (by decide)

/-! ## What a request receives -/

/-- An event comes to the session and finds room in its channel. -/
def HasRoom (sessionId device : String) (client : RelayClient F) (step : ClientStep F) : Prop :=
  (step.eventFor sessionId device).isSome → (client.channels sessionId).queue.length < 128

/-- A run brings a session no more than the events that come to it. To one that is
registered it brings all that its device sends, if and only if there is always
room for what comes. -/
theorem log_run (keeps : ∀ step ∈ steps, step.Keeps sessionId)
    (isDevice : ∀ device', client.sessions.find? sessionId = some device' → device' = device) :
    let sent := steps.filterMap (ClientStep.eventFor sessionId device)
    ∃ taken, (run (RelayClient.step rules config) client steps).log sessionId =
        client.log sessionId ++ taken ∧ taken.length ≤ sent.length ∧
      (client.sessions.find? sessionId = some device →
        (∀ event ∈ sent.dropLast, event.isChunk) →
        (taken = sent ↔
          Admissible (HasRoom sessionId device) (RelayClient.step rules config) client steps)) := by
  induction steps generalizing client with
  | nil => exact ⟨[], (append_nil _).symm, le_rfl, fun _ _ => iff_of_true rfl trivial⟩
  | cons step rest ih =>
    obtain ⟨keepsStep, keepsRest⟩ := forall_mem_cons.mp keeps
    have follows : Follows client (client.step rules config step) sessionId device
        (step.eventFor sessionId device) :=
      follows_step keepsStep isDevice
    have longer := ((sublist_cons_self step rest).filterMap
      (ClientStep.eventFor sessionId device)).length_le
    have later := @ih (client.step rules config step) keepsRest
    simp only [run_cons, Admissible]
    cases found : client.sessions.find? sessionId with
    | none =>
      obtain ⟨gone, same⟩ := follows.unregistered found
      obtain ⟨taken, isTaken, short, -⟩ := later (by simp [gone])
      exact ⟨taken, by rw [isTaken, same], short.trans longer, by simp⟩
    | some device' =>
      obtain rfl := isDevice device' found
      cases arrives : step.eventFor sessionId device' with
      | none =>
        obtain ⟨kept, same⟩ := follows.quiet arrives
        rw [found] at kept
        obtain ⟨taken, isTaken, short, complete⟩ := later (by simp [kept])
        refine ⟨taken, by rw [isTaken, same], short.trans longer, fun _ stream => ?_⟩
        rw [filterMap_cons_none arrives] at stream ⊢
        rw [complete kept stream]
        simp [HasRoom, arrives]
      | some event =>
        obtain ⟨sent, kept⟩ := follows.arrives event arrives found
        obtain ⟨taken, isTaken, short, complete⟩ := later (by
          rw [kept]
          split <;> simp [eq_comm])
        rw [log_of_trySend sent, append_assoc] at isTaken
        refine ⟨_, isTaken, ?_, fun _ stream => ?_⟩
        · rw [filterMap_cons_some arrives, length_append, length_cons]
          split <;> simp <;> omega
        rw [filterMap_cons_some arrives] at stream ⊢
        by_cases room : (client.channels sessionId).queue.length < 128
        · have hasRoom : HasRoom sessionId device' client step := fun _ => room
          rw [if_pos room, and_iff_right hasRoom, singleton_append, cons_inj_right]
          by_cases more : event.isChunk = true
          · rw [if_pos more] at kept
            refine complete kept fun other member => stream other ?_
            rw [dropLast_cons_of_ne_nil (ne_nil_of_mem (mem_of_mem_dropLast member))]
            exact mem_cons_of_mem _ member
          · have last : rest.filterMap (ClientStep.eventFor sessionId device') = [] := by
              by_contra further
              refine more (stream event ?_)
              rw [dropLast_cons_of_ne_nil further]
              exact mem_cons_self
            rw [last, length_nil, Nat.le_zero, length_eq_zero_iff] at short
            refine iff_of_true (short.trans last.symm) (admissible_of_forall ?_)
            intro call member client isSome
            rw [filterMap_eq_nil_iff.mp last call member] at isSome
            cases isSome
        · refine iff_of_false ?_ fun admissible => room (admissible.1 (by simp [arrives]))
          rw [if_neg room, nil_append]
          intro whole
          rw [whole, length_cons] at short
          omega

/-- A request receives the chunks of its device and then the last event, if and
only if the channel has room for each when it comes. -/
theorem receives_stream_iff (rules : SupplyRules) (config : ReliabilityConfig)
    (client : RelayClient F) (sessionId device : String) (steps : List (ClientStep F))
    (keeps : ∀ step ∈ steps, step.Keeps sessionId) (stream : ∀ event ∈ (steps.filterMap
      (ClientStep.eventFor sessionId device)).dropLast, event.isChunk) :
    let start := client.step rules config (.register sessionId device)
    (run (RelayClient.step rules config) start steps).log sessionId =
        steps.filterMap (ClientStep.eventFor sessionId device) ↔
      Admissible (HasRoom sessionId device) (RelayClient.step rules config) start steps := by
  intro start
  have registered : start.sessions.find? sessionId = some device :=
    (find?_upsert ..).trans (if_pos rfl)
  have empty : start.log sessionId = [] := by simp [start, RelayClient.step, log]
  obtain ⟨taken, isTaken, -, complete⟩ := @log_run F rules config start sessionId device steps keeps
    (by simp [registered])
  rw [isTaken, empty, nil_append]
  exact complete registered stream

/-- Chunks that come to a session and are not read, and then its end. -/
def unread (chunks : ℕ) : List (ClientStep Unit) :=
  List.replicate chunks (.incoming (.relayData "device" "s" (some (.inferenceChunk .null))) 0) ++
    [.incoming (.relayData "device" "s" (some (.inferenceComplete none))) 0]

theorem length_unread (chunks : ℕ) :
    ((unread chunks).filterMap (ClientStep.eventFor "s" "device")).length = chunks + 1 := by
  rw [unread, filterMap_append, filterMap_replicate, length_append]
  exact congrArg (· + 1) length_replicate

/-- One chunk and the end are received. -/
theorem receives_stream_one :
    let rules : SupplyRules := ⟨[], [], false⟩
    let config : ReliabilityConfig := ⟨60, 60, 60, 60, 60⟩
    let start := RelayClient.step rules config {} (.register "s" "device")
    (run (RelayClient.step rules config) start (unread 1)).log "s" =
      [.chunk .null, .complete none] := by
  intro rules config start
  refine (receives_stream_iff rules config {} "s" "device" (unread 1) ?_ ?_).mpr ?_
  · simp [unread, ClientStep.Keeps]
  · intro event member
    obtain rfl : event = .chunk .null := mem_singleton.mp member
    rfl
  · exact ⟨fun _ => by decide, fun _ => by decide, trivial⟩

def Bounded (channel : SessionChannel F) : Prop :=
  channel.received = [] ∧ channel.queue.length ≤ 128

theorem Bounded.trySend {channel : SessionChannel F} (bounded : Bounded channel)
    (event : SessionEvent F) : Bounded (channel.trySend event) := by
  rw [SessionChannel.trySend]
  split
  · next room =>
      refine ⟨bounded.1, ?_⟩
      rw [length_append, length_singleton]
      exact room
  · exact bounded

/-- The end of a session whose 128 chunks have not been read is lost. -/
theorem unread_end_lost :
    let rules : SupplyRules := ⟨[], [], false⟩
    let config : ReliabilityConfig := ⟨60, 60, 60, 60, 60⟩
    let start := RelayClient.step rules config {} (.register "s" "device")
    (run (RelayClient.step rules config) start (unread 128)).log "s" ≠
      (unread 128).filterMap (ClientStep.eventFor "s" "device") := by
  intro rules config start complete
  obtain ⟨unreceived, bounded⟩ : Bounded
      ((run (RelayClient.step rules config) start (unread 128)).channels "s") := by
    refine foldl_preserves (fun client : RelayClient Unit => Bounded (client.channels "s")) ?_
      ⟨rfl, Nat.zero_le _⟩
    intro client step member bounded
    obtain chunk | last := mem_append.mp member
    · rw [eq_of_mem_replicate chunk, RelayClient.step, handleIncoming,
        dispatchCluster, deliver]
      split
      · dsimp only
        exact bounded.trySend _
      · exact bounded
    · rw [mem_singleton.mp last, RelayClient.step, handleIncoming, dispatchCluster, finish]
      dsimp only
      split
      · exact bounded.trySend _
      · exact bounded
  have lengths := congrArg length complete
  rw [log, unreceived, nil_append, length_unread] at lengths
  omega

end RelayClient

end Teale.Gateway
