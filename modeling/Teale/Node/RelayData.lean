import Teale.Lib.Bytes
import Teale.Lib.Json
import Teale.Lib.RustText

/-!
# Data from the relay

What a node does with a message that the relay hands on. The node id of the sender is cut at byte
16 for the log, and a text is not cut inside a character.
-/

namespace Teale.Node.Cluster

open Serde RustText Option

variable {F : Type}

/-- A message, with what is read of it; `answer` are those that only answer. -/
inductive ClusterMessage
  | hello
  | heartbeat
  | inferenceRequest (requestId : String)
  | loadModel (requestId modelId : String)
  | unknown (kind : String)
  | answer

structure RelayDataPayload (F : Type) where
  fromNodeId : String
  sessionId : String
  data : Value F

inductive Level
  | warn
  | info
  | debug

/-- What is sent to the sender, or started for it. -/
inductive Action
  | helloAck (loadedModels : List String)
  | heartbeatAck (loadedModels : List String)
  | inferenceError (requestId errorMessage : String)
  | modelLoadError (requestId modelId reason : String)
  | spawnInference (requestId : String)
  | spawnSwap (requestId modelId : String)

structure ClusterNode where
  decodeBase64 : String → Option (List UInt8)
  parse : List UInt8 → Option ClusterMessage
  fromUtf8Lossy : List UInt8 → String
  logs : Level → Bool
  loadedModels : List String
  shuttingDown : Bool
  canSupply : Bool
  queueDepth : ℕ

def decodeRelayData (decodeBase64 : String → Option (List UInt8)) : Value F → Option (List UInt8)
  | .string text => some ((decodeBase64 text).getD (Bytes.ofText text))
  | .array items => items.mapM fun item => item.asU64.map UInt8.ofNat
  | _ => none

/-- There is nothing to return where Rust panics. -/
def short (nodeId : String) : Option String :=
  (splitAtByte? (min 16 (len nodeId)) nodeId.toList).map fun parts => String.ofList parts.1

/-- The lines of the log and the action, unless the node panics. -/
abbrev Handled := Option (List String × Option Action)

/-- A line is put together only if its level is logged. -/
def ClusterNode.log (node : ClusterNode) (level : Level) (line : Option String)
    (action : Option Action) : Handled :=
  if node.logs level then line.map fun line => ([line], action) else some ([], action)

def handleRelayData (node : ClusterNode) (payload : RelayDataPayload F) : Handled :=
  match decodeRelayData node.decodeBase64 payload.data with
  | none => node.log .warn
      ((short payload.fromNodeId).map ("Failed to decode relay data from " ++ ·)) none
  | some bytes =>
    match node.parse bytes with
    | none => node.log .warn
        (some ("Failed to parse ClusterMessage: " ++ node.fromUtf8Lossy (bytes.take 200))) none
    | some .hello => node.log .info
        ((short payload.fromNodeId).map fun id => s!"Received hello from {id}, sending helloAck")
        (some (.helloAck node.loadedModels))
    | some .heartbeat => some ([], some (.heartbeatAck node.loadedModels))
    | some (.inferenceRequest requestId) =>
      if node.shuttingDown then
        some ([], some (.inferenceError requestId "node is shutting down"))
      else if !node.canSupply then
        some ([], some (.inferenceError requestId "node is paused"))
      else
        some ([], some (.spawnInference requestId))
    | some (.loadModel requestId modelId) =>
      let busy := node.queueDepth
      if 0 < busy then
        node.log .warn
          (some s!"Rejecting swap to {modelId} - {busy} inference request(s) in flight")
          (some (.modelLoadError requestId modelId
            s!"node busy: {busy} inference request(s) in flight; retry when idle"))
      else
        some ([], some (.spawnSwap requestId modelId))
    | some (.unknown kind) =>
      node.log .debug (some s!"Ignoring unknown cluster message type: {kind}") none
    | some .answer => some ([], none)

theorem splitAtByte?_all (chars : List Char) :
    splitAtByte? (chars.map Char.utf8Size).sum chars = some (chars, []) := by
  induction chars with
  | nil => rfl
  | cons char rest ih =>
    obtain ⟨size, isSize⟩ := Nat.exists_eq_add_one.mpr char.utf8Size_pos
    rw [List.map_cons, List.sum_cons, isSize, Nat.add_right_comm, splitAtByte?, if_pos (by omega),
      isSize, Nat.add_right_comm, Nat.add_sub_cancel_left, ih]
    rfl

/-- Byte 16 lies inside a character. -/
def CutsChar (nodeId : String) : Prop :=
  16 < len nodeId ∧ splitAtByte? 16 nodeId.toList = none

theorem short_eq_none_iff (nodeId : String) : short nodeId = none ↔ CutsChar nodeId := by
  rw [short, map_eq_none_iff, CutsChar]
  by_cases longer : 16 < len nodeId
  · simp [longer, min_eq_left longer.le]
  · have whole : splitAtByte? (len nodeId) nodeId.toList = _ := splitAtByte?_all _
    simp [longer, min_eq_right (not_lt.mp longer), whole]

theorem log_eq_none_iff {node : ClusterNode} {level : Level} {line : Option String}
    {action : Option Action} :
    node.log level line action = none ↔ node.logs level = true ∧ line = none := by
  unfold ClusterNode.log
  split <;> simp_all

/-- A node panics just if it logs an id that byte 16 would cut inside a character. -/
theorem handleRelayData_eq_none_iff (node : ClusterNode) (payload : RelayDataPayload F) :
    handleRelayData node payload = none ↔ CutsChar payload.fromNodeId ∧
      match decodeRelayData node.decodeBase64 payload.data with
      | none => node.logs .warn = true
      | some bytes => node.parse bytes = some .hello ∧ node.logs .info = true := by
  unfold handleRelayData
  cases decodeRelayData node.decodeBase64 payload.data with
  | none => simp [log_eq_none_iff, short_eq_none_iff, and_comm]
  | some bytes =>
    cases parsed : node.parse bytes with
    | none => simp [log_eq_none_iff, parsed]
    | some message =>
      cases message with
      | hello => simp [log_eq_none_iff, short_eq_none_iff, parsed, and_comm]
      | inferenceRequest | loadModel =>
        simp only [parsed, some.injEq, reduceCtorEq, false_and, and_false, iff_false]
        repeat' split
        all_goals simp [log_eq_none_iff]
      | _ => simp [log_eq_none_iff, parsed]

def chattyNode : ClusterNode where
  decodeBase64 _ := none
  parse _ := none
  fromUtf8Lossy _ := ""
  logs _ := true
  loadedModels := []
  shuttingDown := false
  canSupply := true
  queueDepth := 0

/-- Data that is no text comes from an id with a character at bytes 15 and 16. -/
theorem undecoded_panics : handleRelayData chattyNode
    (⟨"aaaaaaaaaaaaaaaé", "s", .null⟩ : RelayDataPayload ℕ) = none := by
  decide

end Teale.Node.Cluster
