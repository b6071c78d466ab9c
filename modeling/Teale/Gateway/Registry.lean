import Mathlib.Data.List.Count
import Teale.Lib.RustText
import Teale.Lib.Table
import Teale.Lib.Transaction

/-!
# The registry of devices

`gateway/src/registry.rs`. Instants are in milliseconds. Two heavy requests share a node only if
they are of one consumer that is known.
-/

namespace Teale.Gateway

open Relational Transactional List Option Function

/-! ## Devices -/

structure NodeCapabilities where
  loadedModels : List String
  swappableModels : List String := []
  isAvailable : Bool := true
  backendSlotsTotal : Option ℕ := none
  backendSlotsBusy : Option ℕ := none

inductive ThermalLevel
  | nominal
  | fair
  | serious
  | critical
  deriving DecidableEq

structure LiveStats where
  queueDepth : ℕ := 0
  isGenerating : Bool := false
  throttleLevel : ℕ := 100
  thermalLevel : ThermalLevel := .nominal

structure HeartbeatPayload extends LiveStats where
  loadedModels : List String

structure DeviceState where
  displayName : String
  capabilities : NodeCapabilities
  lastHeartbeat : ℕ
  lastSeen : ℕ
  quarantinedUntil : Option ℕ := none
  departedAt : Option ℕ := none
  live : LiveStats := {}
  busyExcessSince : Option ℕ := none
  employee : Bool := false
  probation : Bool := false

inductive Eligibility
  | loaded
  | swappable
  | unsupported
  | queueFull
  | quarantined
  | throttled
  | unavailable
  deriving DecidableEq

def normalizeModelId (id : String) : String :=
  RustText.toLowercase (RustText.trim (RustText.firstPiece
    (String.ofList id.toList.reverse) '/' |>.toList.reverse |> String.ofList))

def modelMatchesAny (requested : String) (loaded : List String) : Bool := loaded.any fun model =>
    normalizeModelId model = normalizeModelId requested ||
      RustText.containsText model requested || RustText.containsText requested model

structure ReliabilityConfig where
  heartbeatStaleSeconds : ℕ
  quarantineSeconds : ℕ
  departedGraceSeconds : ℕ
  heavyHoldTtlSeconds : ℕ
  busyExcessGraceSeconds : ℕ

namespace DeviceState

def isQuarantined (device : DeviceState) (now : ℕ) : Bool := device.quarantinedUntil.any (now < ·)

def heartbeatIsStale (device : DeviceState) (staleAfterSecs now : ℕ) : Bool :=
  staleAfterSecs < (now - device.lastHeartbeat) / 1000

def isEligibleFor (device : DeviceState) (modelId : String) (maxQueue now : ℕ) : Eligibility :=
  if device.isQuarantined now then .quarantined
  else if device.live.thermalLevel = .critical then .throttled
  else if maxQueue ≤ device.live.queueDepth then .queueFull
  else if !device.capabilities.isAvailable then .unavailable
  else if modelMatchesAny modelId device.capabilities.loadedModels then .loaded
  else if modelMatchesAny modelId device.capabilities.swappableModels then .swappable
  else .unsupported

def applyHeartbeat (device : DeviceState) (heartbeat : HeartbeatPayload) (now : ℕ) : DeviceState :=
  { device with
    lastHeartbeat := now
    lastSeen := now
    departedAt := none
    live := heartbeat.toLiveStats
    capabilities := { device.capabilities with
      loadedModels :=
        if heartbeat.loadedModels = [] then device.capabilities.loadedModels
        else heartbeat.loadedModels } }

/-- More slots are busy than the gateway has requests there. -/
def hasExcess (device : DeviceState) (accounted : ℕ) : Bool :=
  device.capabilities.backendSlotsBusy.any (accounted < ·)

/-- `admit` at the sessions of others: a device on which they stay is refused. -/
def observeExcess (device : DeviceState) (accounted graceSeconds now : ℕ) : Option DeviceState :=
  if device.hasExcess accounted then
    match device.busyExcessSince with
    | some since =>
      if graceSeconds * 1000 ≤ now - since then none else some device
    | none => some { device with busyExcessSince := some now }
  else
    some { device with busyExcessSince := none }

def releaseEchoReanchor (device : DeviceState) (accounted now : ℕ) : DeviceState := { device with
    busyExcessSince :=
      if device.hasExcess accounted then device.busyExcessSince.map fun _ => now
      else none }

end DeviceState

/-! ## Requests -/

structure InFlight where
  total : ℕ := 0
  heavy : ℕ := 0
  heavySince : Option ℕ := none
  heavyOwner : Option String := none

/-- What a heavy request finds of the hold it may share: nothing if it is
refused, and no hold where the last one is too old. -/
def InFlight.hold (entry : InFlight) (ttlSeconds cap : ℕ) (owner : Option String)
    (now : ℕ) : Option InFlight :=
  if entry.heavy = 0 then some entry
  else if entry.heavySince.any fun since => ttlSeconds < (now - since) / 1000 then
    some {}
  else if owner.isSome ∧ entry.heavyOwner = owner ∧ entry.heavy < cap then
    some entry
  else none

structure Registry where
  devices : Table String DeviceState := ∅
  inFlight : Table String InFlight := ∅

namespace Registry

def entry (registry : Registry) (nodeId : String) : InFlight :=
  (registry.inFlight.find? nodeId).getD {}

def slots (registry : Registry) (nodeId : String) : ℕ :=
  max (((registry.devices.find? nodeId).bind (·.capabilities.backendSlotsTotal)).getD 2) 1

/-- The devices once a heavy request has looked for sessions of others. -/
def observeExcess (registry : Registry) (config : ReliabilityConfig)
    (nodeId : String) (accounted now : ℕ) : Option (Table String DeviceState) :=
  match registry.devices.find? nodeId with
  | none => some registry.devices
  | some device =>
    (device.observeExcess accounted config.busyExcessGraceSeconds now).map
      fun observed => registry.devices.modify nodeId fun _ => observed

/-- `admit`: the registry it leaves and whether the request is admitted. -/
def admitRequest (registry : Registry) (config : ReliabilityConfig)
    (nodeId : String) (heavy : Bool) (owner : Option String) (now : ℕ) : Registry × Bool :=
  let entry := registry.entry nodeId
  let leave (entry : InFlight) : Registry :=
    { registry with inFlight := registry.inFlight.upsert nodeId entry }
  if heavy then
    match entry.hold config.heavyHoldTtlSeconds (registry.slots nodeId) owner now with
    | none => (leave entry, false)
    | some held =>
      match registry.observeExcess config nodeId held.total now with
      | none => (leave held, false)
      | some devices =>
        ({ leave { total := held.total + 1
                   heavy := held.heavy + 1
                   heavySince := some now
                   heavyOwner :=
                    if held.heavy = 0 then owner else held.heavyOwner } with
            devices }, true)
  else
    (leave { entry with total := entry.total + 1 }, true)

def decInFlight (registry : Registry) (nodeId : String) (heavy : Bool) (now : ℕ) : Registry :=
  match registry.inFlight.find? nodeId with
  | none => registry
  | some entry =>
    let leave (entry : InFlight) : Registry :=
      { registry with inFlight := registry.inFlight.upsert nodeId entry }
    let total := entry.total - 1
    if heavy then
      if entry.heavy ≤ 1 then
        { leave { total } with
          devices := registry.devices.modify nodeId fun device =>
            device.releaseEchoReanchor total now }
      else leave { entry with total, heavy := entry.heavy - 1 }
    else leave { entry with total }

def upsertDeviceWithTier (registry : Registry) (nodeId displayName : String)
    (capabilities : NodeCapabilities) (employee probation : Bool) (now : ℕ) : Registry :=
  let known := (registry.devices.find? nodeId).getD
    { displayName, capabilities, lastHeartbeat := now, lastSeen := now }
  { registry with
    devices := registry.devices.upsert nodeId
      { known with
        displayName, capabilities, employee, probation
        lastSeen := now
        departedAt := none
        lastHeartbeat := now } }

def applyHeartbeat (registry : Registry) (nodeId : String)
    (heartbeat : HeartbeatPayload) (now : ℕ) : Registry :=
  { registry with
    devices := registry.devices.modify nodeId (·.applyHeartbeat heartbeat now) }

def markDeparted (registry : Registry) (nodeId : String) (now : ℕ) : Registry := { registry with
    devices := registry.devices.modify nodeId fun device =>
      { device with departedAt := some (device.departedAt.getD now) } }

def quarantine (registry : Registry) (nodeId : String) (durationSecs now : ℕ) : Registry :=
  { registry with
    devices := registry.devices.modify nodeId fun device =>
      { device with quarantinedUntil := some (now + durationSecs * 1000) } }

def sweep (registry : Registry) (config : ReliabilityConfig) (now : ℕ) : Registry :=
  let present := registry.devices.deleteWhere fun _ device =>
    device.departedAt.any fun since => config.departedGraceSeconds * 1000 ≤ now - since
  { registry with
    devices := present.update fun _ device =>
      { device with
        capabilities := { device.capabilities with
          isAvailable := device.capabilities.isAvailable &&
            !device.heartbeatIsStale config.heartbeatStaleSeconds now }
        quarantinedUntil := device.quarantinedUntil.filter (now < ·) } }

def maxQueue (config : ReliabilityConfig) : ℕ := config.quarantineSeconds % 2 ^ 32 * 100 % 2 ^ 32

def eligibleSupply (registry : Registry) (config : ReliabilityConfig)
    (modelId : String) (includeEmployee : Bool) (now : ℕ) : List (String × DeviceState) :=
  registry.devices.rows.filter fun (_, device) =>
    !(device.employee && !includeEmployee) && !device.probation &&
      !device.heartbeatIsStale config.heartbeatStaleSeconds now &&
      (device.isEligibleFor modelId (maxQueue config) now) ∈ [Eligibility.loaded, .swappable]

end Registry

/-! ## Holds -/

/-- A request that was admitted and has not been released. -/
structure HeldRequest where
  heavy : Bool
  owner : Option String
  deriving DecidableEq

/-- A registry with the requests that it carries. -/
structure Load where
  registry : Registry
  held : String → List HeldRequest

inductive LoadStep
  | admits (nodeId : String) (request : HeldRequest) (now : ℕ)
  | releases (nodeId : String) (request : HeldRequest) (now : ℕ)
  | setDevices (devices : Table String DeviceState)

namespace Load

variable {config : ReliabilityConfig} {load : Load} {nodeId : String}
  {request : HeldRequest} {now : ℕ} {entry : InFlight}

def step (config : ReliabilityConfig) (load : Load) : LoadStep → Load
  | .admits nodeId request now =>
    let result :=
      load.registry.admitRequest config nodeId request.heavy request.owner now
    { registry := result.1
      held := if result.2 then
          Function.update load.held nodeId (request :: load.held nodeId)
        else load.held }
  | .releases nodeId request now =>
    { registry := load.registry.decInFlight nodeId request.heavy now
      held := Function.update load.held nodeId ((load.held nodeId).erase request) }
  | .setDevices devices => { load with registry := { load.registry with devices } }

def Fresh (config : ReliabilityConfig) (load : Load) (nodeId : String) (now : ℕ) : Prop :=
  ∀ since, (load.registry.entry nodeId).heavySince = some since →
    (now - since) / 1000 ≤ config.heavyHoldTtlSeconds

def Allowed (config : ReliabilityConfig) (load : Load) : LoadStep → Prop
  | .admits nodeId _ now => load.Fresh config nodeId now
  | .releases nodeId request _ => request ∈ load.held nodeId
  | .setDevices _ => True

/-- The entry of a node is that of the requests it carries. -/
structure Counts (entry : InFlight) (held : List HeldRequest) : Prop where
  total : entry.total = held.length
  heavy : entry.heavy = held.countP HeldRequest.heavy
  owner : ∀ request ∈ held, request.heavy → request.owner = entry.heavyOwner
  anonymous : entry.heavyOwner = none → entry.heavy ≤ 1

theorem entry_of_upsert {registry registry' : Registry}
    (written : registry'.inFlight = registry.inFlight.upsert nodeId entry) (other : String) :
    registry'.entry other =
      if other = nodeId then entry else registry.entry other := by
  rw [Registry.entry, written, Table.find?_upsert]
  split <;> rfl

/-- The hold of a node is too old. -/
def stale (config : ReliabilityConfig) (entry : InFlight) (now : ℕ) : Bool :=
  entry.heavy ≠ 0 &&
    entry.heavySince.any fun since => config.heavyHoldTtlSeconds < (now - since) / 1000

/-- The entry that a request is counted in: none where it ends the hold. -/
def found (config : ReliabilityConfig) (entry : InFlight) (request : HeldRequest)
    (now : ℕ) : InFlight :=
  if request.heavy && stale config entry now then {} else entry

theorem found_of_fresh (fresh : load.Fresh config nodeId now) (request : HeldRequest) :
    found config (load.registry.entry nodeId) request now = load.registry.entry nodeId := by
  refine if_neg fun both => ?_
  simp only [stale, Bool.and_eq_true, Option.any_eq_true, decide_eq_true_eq] at both
  obtain ⟨-, -, since, isSince, old⟩ := both
  exact absurd old (Nat.not_lt.mpr (fresh since isSince))

/-- A hold that is not too old is shared by its own consumer only. -/
theorem hold_cases (config : ReliabilityConfig) (entry : InFlight) (cap : ℕ)
    (owner : Option String) (now : ℕ) :
    match entry.hold config.heavyHoldTtlSeconds cap owner now with
    | none => entry = found config entry ⟨true, owner⟩ now
    | some held => held = found config entry ⟨true, owner⟩ now ∧
      (held.heavy = 0 ∨ owner ≠ none ∧ held.heavyOwner = owner ∧ held.heavy < cap) := by
  unfold InFlight.hold found stale
  by_cases free : entry.heavy = 0
  · simp [free]
  by_cases old : entry.heavySince.any fun since =>
      config.heavyHoldTtlSeconds < (now - since) / 1000
  · simp [free, old]
  by_cases own : owner.isSome ∧ entry.heavyOwner = owner ∧ entry.heavy < cap
  · simp [free, old, own, Option.isSome_iff_ne_none.mp own.1]
  · simp [free, old, own]

/-- What a request finds a node free for. -/
def Room (registry : Registry) (nodeId : String) (request : HeldRequest) : Prop :=
  (registry.entry nodeId).heavy = 0 ∨
    request.owner ≠ none ∧ (registry.entry nodeId).heavyOwner = request.owner ∧
      (registry.entry nodeId).heavy < registry.slots nodeId

/-- The entry of a node once a request is admitted. -/
def admitted (entry : InFlight) (request : HeldRequest) (now : ℕ) : InFlight :=
  if request.heavy then
    { total := entry.total + 1
      heavy := entry.heavy + 1
      heavySince := some now
      heavyOwner := if entry.heavy = 0 then request.owner else entry.heavyOwner }
  else { entry with total := entry.total + 1 }

@[simp] theorem total_admitted :
    (admitted entry request now).total = entry.total + 1 := by
  unfold admitted
  split <;> rfl

@[simp] theorem heavy_admitted :
    (admitted entry request now).heavy = entry.heavy + if request.heavy then 1 else 0 := by
  unfold admitted
  split <;> rfl

@[simp] theorem heavyOwner_admitted : (admitted entry request now).heavyOwner =
    if request.heavy ∧ entry.heavy = 0 then request.owner else entry.heavyOwner := by
  unfold admitted
  split <;> simp_all

/-- A request is refused and changes no count, or there is room for it and it is counted. -/
theorem admitRequest_found (registry : Registry) (request : HeldRequest) :
    let result := registry.admitRequest config nodeId request.heavy request.owner now
    let entry := found config (registry.entry nodeId) request now
    result.2 = false ∧ result.1.inFlight = registry.inFlight.upsert nodeId entry ∨
      result.2 = true ∧
        (request.heavy → entry.heavy = 0 ∨ request.owner ≠ none ∧
          entry.heavyOwner = request.owner ∧ entry.heavy < registry.slots nodeId) ∧
        result.1.inFlight = registry.inFlight.upsert nodeId (admitted entry request now) := by
  obtain ⟨_ | _, owner⟩ := request
  · exact .inr ⟨rfl, nofun, rfl⟩
  · have held := hold_cases config (registry.entry nodeId) (registry.slots nodeId) owner now
    simp only [Registry.admitRequest, admitted, if_true]
    split at held
    · rw [← held]
      exact .inl ⟨rfl, rfl⟩
    · rw [← held.1]
      split
      · exact .inl ⟨rfl, rfl⟩
      · exact .inr ⟨rfl, fun _ => held.2, rfl⟩

theorem admitRequest_cases (fresh : load.Fresh config nodeId now) (request : HeldRequest) :
    let result :=
      load.registry.admitRequest config nodeId request.heavy request.owner now
    result.2 = false ∧ result.1.inFlight =
        load.registry.inFlight.upsert nodeId (load.registry.entry nodeId) ∨
      result.2 = true ∧ (request.heavy → Room load.registry nodeId request) ∧
        result.1.inFlight = load.registry.inFlight.upsert nodeId
          (admitted (load.registry.entry nodeId) request now) := by
  have outcome := @admitRequest_found config nodeId now load.registry request
  rwa [found_of_fresh fresh] at outcome

theorem Counts.admitted {held : List HeldRequest} (counts : Counts entry held)
    (room : request.heavy → entry.heavy = 0 ∨
      request.owner ≠ none ∧ entry.heavyOwner = request.owner) :
    Counts (admitted entry request now) (request :: held) := by
  obtain ⟨total, heavy, owner, anonymous⟩ := counts
  refine ⟨by simp [total], by simp [heavy, countP_cons], ?_, ?_⟩
  · rw [forall_mem_cons, heavyOwner_admitted]
    refine ⟨fun isHeavy => ?_, fun other member isHeavy => ?_⟩
    · by_cases free : entry.heavy = 0
      · simp [isHeavy, free]
      · simp [free, (room isHeavy).resolve_left free]
    · have taken : 0 < entry.heavy := heavy ▸ countP_pos_iff.mpr ⟨other, member, isHeavy⟩
      rw [if_neg (by omega), owner other member isHeavy]
  · rw [heavyOwner_admitted, heavy_admitted]
    by_cases free : entry.heavy = 0
    · cases request.heavy <;> simp [free]
    · intro unknown
      rw [if_neg (free ·.2)] at unknown
      cases isHeavy : request.heavy with
      | false => simpa using anonymous unknown
      | true =>
        obtain ⟨known, own⟩ := (room isHeavy).resolve_left free
        exact absurd (own.symm.trans unknown) known

/-- The entry of a node once a request is released. -/
def released (entry : InFlight) (heavy : Bool) : InFlight :=
  if heavy then
    if entry.heavy ≤ 1 then { total := entry.total - 1 }
    else { entry with total := entry.total - 1, heavy := entry.heavy - 1 }
  else { entry with total := entry.total - 1 }

@[simp] theorem total_released {heavy : Bool} :
    (released entry heavy).total = entry.total - 1 := by
  unfold released
  split_ifs <;> rfl

@[simp] theorem heavy_released {heavy : Bool} :
    (released entry heavy).heavy = entry.heavy - if heavy then 1 else 0 := by
  unfold released
  split_ifs <;> simp_all

@[simp] theorem heavyOwner_released {heavy : Bool} : (released entry heavy).heavyOwner =
    if heavy ∧ entry.heavy ≤ 1 then none else entry.heavyOwner := by
  unfold released
  split_ifs <;> simp_all

theorem entry_decInFlight {registry : Registry} {heavy : Bool} (other : String) :
    (registry.decInFlight nodeId heavy now).entry other =
      if other = nodeId then released (registry.entry nodeId) heavy
      else registry.entry other := by
  rw [Registry.decInFlight]
  split
  · next missing =>
      split
      · next same =>
          rw [same, Registry.entry, missing]
          cases heavy <;> rfl
      · rfl
  · next entry found =>
      refine entry_of_upsert ?_ other
      rw [Registry.entry, found, getD_some, released]
      split
      · split <;> rfl
      · rfl

theorem length_countP_erase {held : List HeldRequest} (member : request ∈ held) :
    (held.erase request).length = held.length - 1 ∧
      (held.erase request).countP HeldRequest.heavy =
        held.countP HeldRequest.heavy - if request.heavy then 1 else 0 := by
  simp [length_erase_of_mem member, countP_erase, member]

theorem Counts.released {held : List HeldRequest}
    (counts : Counts entry held) (member : request ∈ held) :
    Counts (released entry request.heavy) (held.erase request) := by
  obtain ⟨total, heavy, owner, anonymous⟩ := counts
  obtain ⟨length, count⟩ := length_countP_erase member
  refine ⟨by simp [total, length], by simp [heavy, count], fun other kept isHeavy => ?_, ?_⟩
  · have taken := countP_pos_iff.mpr ⟨other, kept, isHeavy⟩
    rw [heavyOwner_released, if_neg, owner other (mem_of_mem_erase kept) isHeavy]
    rintro ⟨lastHeavy, last⟩
    rw [count, if_pos lastHeavy] at taken
    omega
  · rw [heavyOwner_released, heavy_released]
    intro unknown
    split at unknown
    · omega
    · exact (Nat.sub_le _ _).trans (anonymous unknown)

/-- The counts of every node are those of the requests it carries. -/
def Sound (load : Load) : Prop := ∀ nodeId, Counts (load.registry.entry nodeId) (load.held nodeId)

theorem Sound.step (config : ReliabilityConfig) {step : LoadStep}
    (sound : load.Sound) (allowed : load.Allowed config step) : (load.step config step).Sound := by
  intro other
  cases step with
  | setDevices devices => exact sound other
  | admits nodeId request now =>
    obtain ⟨refused, unchanged⟩ | ⟨admits, room, counted⟩ := admitRequest_cases allowed request
    · simp only [Load.step, refused, entry_of_upsert unchanged]
      split
      · next same => exact same ▸ sound nodeId
      · exact sound other
    · simp only [Load.step, admits, if_true, entry_of_upsert counted]
      split
      · next same =>
          rw [same, update_self]
          refine (sound nodeId).admitted fun isHeavy => ?_
          exact (room isHeavy).imp_right fun own => ⟨own.1, own.2.1⟩
      · next different =>
          rw [update_of_ne different]
          exact sound other
  | releases nodeId request now =>
    simp only [Load.step, entry_decInFlight]
    split
    · next same =>
        rw [same, update_self]
        exact (sound nodeId).released allowed
    · next different =>
        rw [update_of_ne different]
        exact sound other

theorem sound_run {calls : List LoadStep}
    (admissible : Admissible (Allowed config) (step config) ⟨{}, fun _ => []⟩ calls) :
    (run (step config) ⟨{}, fun _ => []⟩ calls).Sound := by
  refine run_invariant Sound ?_ ?_ admissible
  · exact fun load call allowed sound => sound.step config allowed
  · exact fun nodeId => ⟨rfl, rfl, nofun, fun _ => Nat.zero_le 1⟩

/-- Whatever is admitted and released: the heavy requests of a node are of one
known consumer, or there is one of nobody's; the counts are those of the requests;
and the next request is within the slots or changes no count. -/
theorem heavyHold_exclusive {calls : List LoadStep}
    (admissible : Admissible (Allowed config) (step config) ⟨{}, fun _ => []⟩ calls)
    (nodeId : String) :
    let load := run (step config) ⟨{}, fun _ => []⟩ calls
    let heavies := (load.held nodeId).filter HeldRequest.heavy
    ((∃ owner, ∀ request ∈ heavies, request.owner = some owner) ∨
      ∃ request, heavies = [request] ∧ request.owner = none) ∧
    (load.registry.entry nodeId).total = (load.held nodeId).length ∧
    (load.registry.entry nodeId).heavy = heavies.length ∧
    ∀ (request : HeldRequest) (now : ℕ), load.Fresh config nodeId now →
      let result :=
        load.registry.admitRequest config nodeId request.heavy request.owner now
      (result.2 = true → request.heavy = true →
        (result.1.entry nodeId).heavy ≤ load.registry.slots nodeId) ∧
      (result.2 = false → (result.1.entry nodeId).total = (load.registry.entry nodeId).total ∧
        (result.1.entry nodeId).heavy = (load.registry.entry nodeId).heavy) := by
  intro load heavies
  obtain ⟨total, heavy, owner, anonymous⟩ : Counts _ _ := sound_run admissible nodeId
  rw [countP_eq_length_filter] at heavy
  refine ⟨?_, total, heavy, ?_⟩
  · cases isOwner : (load.registry.entry nodeId).heavyOwner with
    | some known =>
      left
      refine ⟨known, fun request member => ?_⟩
      obtain ⟨held, isHeavy⟩ := mem_filter.mp member
      rw [owner request held isHeavy, isOwner]
    | none =>
      have atMost := anonymous isOwner
      rw [heavy] at atMost
      cases isHeavies : heavies with
      | nil => exact .inl ⟨"", nofun⟩
      | cons request others =>
        right
        have single : others = [] := by
          apply eq_nil_of_length_eq_zero
          have length : heavies.length ≤ 1 := atMost
          rw [isHeavies, length_cons] at length
          omega
        have member : request ∈ heavies := by simp [isHeavies]
        obtain ⟨held, isHeavy⟩ := mem_filter.mp member
        exact ⟨request, by rw [single], (owner request held isHeavy).trans isOwner⟩
  · intro request now fresh result
    obtain ⟨refused, unchanged⟩ | ⟨admits, room, counted⟩ := admitRequest_cases fresh request
    · rw [entry_of_upsert unchanged, if_pos rfl]
      exact ⟨fun admits => absurd admits (by simp [result, refused]), fun _ => ⟨rfl, rfl⟩⟩
    · rw [entry_of_upsert counted, if_pos rfl, admitted]
      refine ⟨fun _ isHeavy => ?_, fun refused => absurd refused ?_⟩
      · rw [if_pos isHeavy]
        obtain free | ⟨-, -, within⟩ := room isHeavy
        · rw [free]
          exact le_max_right _ _
        · exact within
      · simp [result, admits]

/-- Two heavy requests of one consumer share a node, another's is refused. -/
theorem heavyHold_exclusive_shared :
    let config : ReliabilityConfig := ⟨60, 60, 60, 60, 60⟩
    let calls : List LoadStep :=
      [.admits "n" ⟨true, some "a"⟩ 0, .admits "n" ⟨true, some "a"⟩ 1,
        .admits "n" ⟨true, some "b"⟩ 2]
    let load := run (step config) ⟨{}, fun _ => []⟩ calls
    load.held "n" = [⟨true, some "a"⟩, ⟨true, some "a"⟩] ∧
      (load.registry.entry "n").total = (load.held "n").length := by
  intro config calls load
  have admissible : Admissible (Allowed config) (step config) ⟨{}, fun _ => []⟩ calls := by
    refine ⟨fun since isSince => ?_, fun since isSince => ?_, fun since isSince => ?_, trivial⟩
    · cases isSince
    · obtain rfl : 0 = since := some.inj isSince
      decide
    · obtain rfl : 1 = since := some.inj isSince
      decide
  exact ⟨by decide, (heavyHold_exclusive admissible "n").2.1⟩

end Load

/-! ## Expired holds -/

/-- A node with the requests that it carries and those whose hold has expired. -/
structure Lapses where
  registry : Registry := {}
  held : List HeldRequest := []
  expired : List HeldRequest := []

inductive LapseStep
  | admits (request : HeldRequest) (now : ℕ)
  | releases (request : HeldRequest) (now : ℕ)
  | releasesExpired (request : HeldRequest) (now : ℕ)
  | setDevices (devices : Table String DeviceState)

namespace Lapses

variable {config : ReliabilityConfig} {nodeId : String} {lapses : Lapses}

/-- The hold that a request expires is that of every heavy request. -/
def lapsed (config : ReliabilityConfig) (nodeId : String) (lapses : Lapses)
    (request : HeldRequest) (now : ℕ) (other : HeldRequest) : Bool :=
  request.heavy && Load.stale config (lapses.registry.entry nodeId) now && other.heavy

/-- What was not admitted, or is released already, is not released. -/
def step (config : ReliabilityConfig) (nodeId : String) (lapses : Lapses) : LapseStep → Lapses
  | .admits request now =>
    let result :=
      lapses.registry.admitRequest config nodeId request.heavy request.owner now
    let kept := lapses.held.filter (!lapses.lapsed config nodeId request now ·)
    { registry := result.1
      held := if result.2 then request :: kept else kept
      expired := lapses.expired ++
        lapses.held.filter (lapses.lapsed config nodeId request now) }
  | .releases request now =>
    if request ∈ lapses.held then
      { lapses with
        registry := lapses.registry.decInFlight nodeId request.heavy now
        held := lapses.held.erase request }
    else lapses
  | .releasesExpired request now =>
    if request ∈ lapses.expired then
      { lapses with
        registry := lapses.registry.decInFlight nodeId request.heavy now
        expired := lapses.expired.erase request }
    else lapses
  | .setDevices devices => { lapses with registry := { lapses.registry with devices } }

/-- The counts are those of the requests that are carried. -/
def Exact (nodeId : String) (lapses : Lapses) : Prop :=
  (lapses.registry.entry nodeId).total = lapses.held.length ∧
    (lapses.registry.entry nodeId).heavy = lapses.held.countP HeldRequest.heavy

/-- A hold expires on a node that carries no light request, and a request is
released late where none is carried. -/
def Harmless (config : ReliabilityConfig) (nodeId : String) (lapses : Lapses) : LapseStep → Prop
  | .admits request now => request.heavy ∧
      Load.stale config (lapses.registry.entry nodeId) now →
        ∀ other ∈ lapses.held, other.heavy
  | .releasesExpired request _ => request ∈ lapses.expired → lapses.held = []
  | _ => True

open Load

theorem exact_found_iff (exact : lapses.Exact nodeId) (request : HeldRequest) (now : ℕ) :
    let kept := lapses.held.filter (!lapses.lapsed config nodeId request now ·)
    let entry := found config (lapses.registry.entry nodeId) request now
    entry.heavy = kept.countP HeldRequest.heavy ∧ (entry.total = kept.length ↔
      lapses.Harmless config nodeId (.admits request now)) := by
  simp only [found, Harmless, lapsed, ← Bool.and_eq_true]
  cases request.heavy && stale config (lapses.registry.entry nodeId) now with
  | false => simpa using ⟨exact.2, exact.1⟩
  | true =>
    refine ⟨?_, ?_⟩
    · simp [countP_filter]
    · rw [if_pos rfl, eq_comm, length_eq_zero_iff, filter_eq_nil_iff]
      simp

theorem exact_step_iff (exact : lapses.Exact nodeId) (call : LapseStep) :
    (lapses.step config nodeId call).Exact nodeId ↔ lapses.Harmless config nodeId call := by
  obtain ⟨total, heavy⟩ := id exact
  cases call with
  | setDevices devices => exact iff_of_true exact trivial
  | admits request now =>
    obtain ⟨heavy', total'⟩ := @exact_found_iff config _ _ exact request now
    obtain ⟨refused, written⟩ | ⟨admits, -, written⟩ :=
      @admitRequest_found config nodeId now lapses.registry request
    · rw [Exact, step, refused, entry_of_upsert written]
      simp [heavy', total']
    · rw [Exact, step, admits, entry_of_upsert written]
      simp [heavy', total', countP_cons]
  | releases request now =>
    rw [step]
    refine iff_of_true ?_ trivial
    split
    · next member =>
        obtain ⟨length, count⟩ := length_countP_erase member
        simp [Exact, entry_decInFlight, total, heavy, length, count]
    · exact exact
  | releasesExpired request now =>
    rw [step, Harmless]
    split
    · next member =>
        refine ⟨fun after _ => ?_, fun none => ?_⟩
        · have fewer := after.1
          simp only [entry_decInFlight, if_true, total_released, total] at fewer
          exact eq_nil_of_length_eq_zero (by omega)
        · simp [Exact, entry_decInFlight, total, heavy, none member]
    · next released => exact iff_of_true exact fun member => absurd member released

/-- The counts of a node are exact after every step just if every step is harmless. -/
theorem lapses_exact_iff (config : ReliabilityConfig) (nodeId : String)
    (calls : List LapseStep) :
    Admissible (fun lapses call => (lapses.step config nodeId call).Exact nodeId)
        (step config nodeId) {} calls ↔
      Admissible (Harmless config nodeId) (step config nodeId) {} calls := by
  refine admissible_congr (Exact nodeId) ?_ ⟨rfl, rfl⟩ calls
  intro lapses call exact
  exact ⟨exact_step_iff exact call, (exact_step_iff exact call).mpr⟩

/-- A light request is no longer counted once a hold beside it expires. -/
theorem light_uncounted :
    let lapses := run (step ⟨60, 60, 60, 60, 60⟩ "n") {}
      [.admits ⟨false, none⟩ 0, .admits ⟨true, none⟩ 0, .admits ⟨true, none⟩ 61000]
    lapses.held.length = 2 ∧ (lapses.registry.entry "n").total = 1 := by
  decide

end Lapses

end Teale.Gateway
