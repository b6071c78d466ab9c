import Teale.Node.Pin.Manager

/-!
# The serving side

`node/src/pin/serve.rs` and `node/src/pin/exit.rs`. Whether a peer is a member is asked when its
connection is accepted, and not again. The streams of all peers are in one table under the ids
that the peers choose.
-/

namespace Teale.Node.Pin

open Relational Transactional

variable {J : Type}

/-! ## Connections -/

structure Consumer where
  pinId : String
  deviceId : String
  deriving DecidableEq

/-- What comes on a connection. An inference request is waiting for a permit and
for its model to be loaded. -/
inductive PeerMessage
  | inferenceRequest (requestId : String) (permit loaded : Bool)
  | heartbeat
  | socksOpen (streamId : String)
  | socksData (streamId : String)
  | socksClose (streamId : String)
  | unhandled

inductive Served
  | executed
  | queueFull
  | modelNotLoaded
  | heartbeatAck
  | exitNotOffered
  | ignored
  deriving DecidableEq

/-- What `serve_peer` makes of a message. -/
def servePeer (exitOffered : Bool) : PeerMessage → Served
  | .inferenceRequest _ permit loaded =>
    if !permit then .queueFull else if loaded then .executed else .modelNotLoaded
  | .heartbeat => .heartbeatAck
  | .socksOpen _ => if exitOffered then .executed else .exitNotOffered
  | .socksData _ | .socksClose _ => if exitOffered then .executed else .ignored
  | .unhandled => .ignored

/-- The connections that are served, with the key of the peer of each. -/
structure Serving (J : Type) where
  exitOffered : Bool
  values : List (PinState J)
  connections : Table ℕ (String × Consumer) := ∅

inductive ServingEvent (J : Type)
  | netmap (values : List (PinState J))
  | accepted (connection : ℕ) (peerHex : String)
  | received (connection : ℕ) (message : PeerMessage)
  | closed (connection : ℕ)

namespace Serving

def step (serving : Serving J) : ServingEvent J → Serving J
  | .netmap values => { serving with values }
  | .accepted connection peerHex =>
    match PinManager.memberForWgKey serving.values peerHex with
    | none => serving
    | some (pinId, member) =>
      { serving with
        connections := serving.connections.upsert connection
          (peerHex, ⟨pinId, member.deviceId⟩) }
  | .received _ _ => serving
  | .closed connection =>
    { serving with
      connections := serving.connections.deleteWhere fun other _ => other = connection }

/-- An event executes something for the peer of a key. -/
def Executes (serving : Serving J) (peerHex : String) : ServingEvent J → Prop
  | .received connection message =>
    (∃ consumer, serving.connections.find? connection = some (peerHex, consumer)) ∧
      servePeer serving.exitOffered message = .executed
  | _ => False

def Revoked (peerHex : String) (serving : Serving J) : Prop :=
  PinManager.memberForWgKey serving.values peerHex = none

def Unconnected (peerHex : String) (serving : Serving J) : Prop :=
  ∀ connection consumer, serving.connections.find? connection ≠ some (peerHex, consumer)

theorem Unconnected.step {serving : Serving J} {peerHex : String}
    (revoked : serving.Revoked peerHex) (unconnected : serving.Unconnected peerHex)
    (event : ServingEvent J) : (serving.step event).Unconnected peerHex := by
  intro connection consumer served
  cases event with
  | netmap | received => exact unconnected connection consumer served
  | closed other => exact unconnected connection consumer (Table.find?_deleteWhere_eq_some served)
  | accepted other otherHex =>
    rw [Serving.step] at served
    split at served
    · exact unconnected connection consumer served
    · next pinId member found =>
        rw [Table.find?_upsert] at served
        split at served
        · injection served with isPeer
          injection isPeer with isHex
          rw [isHex, revoked] at found
          cases found
        · exact unconnected connection consumer served

/-- While a peer is revoked nothing is executed for it, if and only if no
connection of it was being served. -/
theorem revoked_not_executed_iff (serving : Serving J) (peerHex : String) :
    (∀ events event, Admissible (fun serving _ => serving.Revoked peerHex) step serving
        (events ++ [event]) →
      ¬ (run step serving events).Executes peerHex event) ↔
    (serving.Revoked peerHex → serving.Unconnected peerHex) := by
  constructor
  · intro idle revoked connection consumer served
    exact idle [] (.received connection (.inferenceRequest "" true true))
      ⟨revoked, trivial⟩ ⟨⟨consumer, served⟩, rfl⟩
  · intro unconnected events event admissible executes
    obtain ⟨earlier, -⟩ := admissible_append.mp admissible
    have stays : (run step serving events).Unconnected peerHex := by
      cases events with
      | nil => exact unconnected admissible.1
      | cons first rest =>
        refine run_invariant (Unconnected peerHex) ?_ (unconnected earlier.1) earlier
        exact fun serving event revoked unconnected => unconnected.step revoked event
    cases event with
    | received connection message =>
      obtain ⟨⟨consumer, served⟩, -⟩ := executes
      exact stays connection consumer served
    | netmap values => exact executes
    | accepted connection peerHex => exact executes
    | closed connection => exact executes

/-- A peer connects, is taken out of the only network, and has a request run. -/
theorem revoked_still_executed :
    let listed : PinState Unit := ⟨"n", "lab", "active",
      some (PinManager.signedBy 7 7 "n" 1 100), none, []⟩
    let serving := run step ⟨false, [listed], ∅⟩ [.accepted 1 "aa", .netmap []]
    serving.Revoked "aa" ∧ serving.Executes "aa" (.received 1 (.inferenceRequest "r" true true)) :=
  ⟨rfl, ⟨⟨"n", _⟩, rfl⟩, rfl⟩

end Serving

/-! ## Exit streams -/

/-- A connection to the network, with the peer that opened it. -/
structure EgressStream where
  socket : ℕ
  opener : Consumer
  deriving DecidableEq

/-- What happens at the exit: messages of peers, with how the network answers
them, and what the pump of a stream reads. -/
inductive ExitEvent
  | opened (peer : Consumer) (streamId : String) (connected : Option ℕ)
  | data (peer : Consumer) (streamId : String) (bytes written : ℕ) (isOk : Bool)
  | closed (peer : Consumer) (streamId : String)
  | read (stream : EgressStream) (bytes : ℕ)
  | ended (streamId : String) (stream : EgressStream)

inductive ExitEffect
  | writes (stream : EgressStream) (bytes : ℕ)
  | relays (stream : EgressStream) (bytes : ℕ)
  | meters (consumer : Consumer) (bytesIn bytesOut : ℕ)
  | removes (stream : EgressStream)

/-- The table of streams after an event, and what the event does. An entry that
is replaced takes the writing half of its connection with it. -/
def exitStep (streams : Table String EgressStream) :
    ExitEvent → Table String EgressStream × List ExitEffect
  | .opened _ _ none => (streams, [])
  | .opened peer streamId (some socket) =>
    (streams.upsert streamId ⟨socket, peer⟩, (streams.find? streamId).toList.map .removes)
  | .data _ streamId bytes written isOk =>
    match streams.find? streamId with
    | none => (streams, [])
    | some stream =>
      (streams,
        if isOk then [.writes stream bytes, .meters stream.opener bytes 0]
        else [.writes stream (min written bytes)])
  | .closed _ streamId | .ended streamId _ =>
    (streams.deleteWhere fun other _ => other = streamId,
      (streams.find? streamId).toList.map .removes)
  | .read stream bytes => (streams, [.meters stream.opener 0 bytes, .relays stream bytes])

/-- The peer whose bytes an event writes. -/
def ExitEvent.writer : ExitEvent → Option Consumer
  | data peer _ _ _ _ => some peer
  | _ => none

/-- A stream is removed by the peer that opened it, or at its own end. -/
def ExitEvent.MayRemove (stream : EgressStream) : ExitEvent → Prop
  | opened peer _ _ | closed peer _ => stream.opener = peer
  | ended _ own => stream = own
  | _ => False

/-- Bytes are written to streams of their sender and metered to those who opened
the streams, and streams are removed by whom they may be. -/
structure Isolated (event : ExitEvent) (effects : List ExitEffect) : Prop where
  writes : ∀ stream bytes, .writes stream bytes ∈ effects → bytes = 0 ∨
    event.writer = some stream.opener ∧ .meters stream.opener bytes 0 ∈ effects
  relays : ∀ stream bytes, .relays stream bytes ∈ effects → .meters stream.opener 0 bytes ∈ effects
  removes : ∀ stream, .removes stream ∈ effects → event.MayRemove stream

/-- The ids are used as if every stream had its own, and a write that fails has
written nothing. -/
def Proper (streams : Table String EgressStream) : ExitEvent → Prop
  | .opened _ _ none | .read _ _ => True
  | .opened peer streamId (some _) | .closed peer streamId =>
    ∀ stream, streams.find? streamId = some stream → stream.opener = peer
  | .ended streamId own => ∀ stream, streams.find? streamId = some stream → stream = own
  | .data peer streamId bytes written isOk =>
    ∀ stream, streams.find? streamId = some stream →
      if isOk then bytes = 0 ∨ peer = stream.opener else min written bytes = 0

theorem isolated_removes_iff (event : ExitEvent) (removed : Option EgressStream) :
    Isolated event (removed.toList.map .removes) ↔
      ∀ stream, removed = some stream → event.MayRemove stream := by
  constructor
  · intro isolated stream isRemoved
    exact isolated.removes stream (by simp [isRemoved])
  · intro allowed
    refine ⟨by simp, by simp, fun stream removes => ?_⟩
    exact allowed stream (by simpa using removes)

theorem isolated_data_iff (peer : Consumer) (streamId : String) (bytes written : ℕ)
    (isOk : Bool) (stream : EgressStream) : Isolated (.data peer streamId bytes written isOk)
        (if isOk then [.writes stream bytes, .meters stream.opener bytes 0]
          else [.writes stream (min written bytes)]) ↔
      if isOk then bytes = 0 ∨ peer = stream.opener else min written bytes = 0 := by
  constructor
  · rintro ⟨writes, -, -⟩
    cases isOk with
    | true => simpa [ExitEvent.writer] using writes stream bytes (by simp)
    | false => simpa using writes stream (min written bytes) (by simp)
  · intro own
    cases isOk with
    | true =>
      refine ⟨fun other count wrote => ?_, by simp, by simp⟩
      obtain ⟨rfl, rfl⟩ : other = stream ∧ count = bytes := by simpa using wrote
      exact own.imp_right fun isPeer => ⟨congrArg some isPeer, by simp⟩
    | false =>
      refine ⟨fun other count wrote => ?_, by simp, by simp⟩
      obtain ⟨-, rfl⟩ : other = stream ∧ count = min written bytes := by simpa using wrote
      exact .inl own

theorem isolated_iff_proper (streams : Table String EgressStream) (event : ExitEvent) :
    Isolated event (exitStep streams event).2 ↔ Proper streams event := by
  cases event with
  | opened peer streamId connected =>
    cases connected with
    | none => exact iff_of_true ⟨nofun, nofun, nofun⟩ trivial
    | some socket => exact isolated_removes_iff _ _
  | closed peer streamId => exact isolated_removes_iff _ _
  | ended streamId stream => exact isolated_removes_iff _ _
  | data peer streamId bytes written isOk =>
    rw [exitStep, Proper]
    cases streams.find? streamId with
    | none => exact iff_of_true ⟨nofun, nofun, nofun⟩ nofun
    | some stream =>
      simp only [Option.some.injEq, forall_eq']
      exact isolated_data_iff peer streamId bytes written isOk stream
  | read stream bytes =>
    refine iff_of_true ⟨by simp [exitStep], ?_, by simp [exitStep]⟩ trivial
    intro other count relayed
    obtain ⟨rfl, rfl⟩ : other = stream ∧ count = bytes := by simpa [exitStep] using relayed
    exact .head _

end Teale.Node.Pin
