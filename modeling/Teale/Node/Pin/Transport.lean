import Mathlib.Logic.Function.Basic
import Teale.Node.Pin.Session

/-!
# The transport of a private network

`node/src/pin/transport.rs`. As long as no handshake from an address is answered, the connection
of the address stays. An answered handshake replaces it, also when it is a copy of an earlier one.
-/

namespace Teale.Node.Pin

open Transactional Option NoiseSession
open List hiding Vector

variable {σ μ α : Type}

/-! ## Messages and packets -/

def typeHandshakeInit : UInt8 := 0x01

def typeHandshakeResp : UInt8 := 0x02

def typeData : UInt8 := 0x04

def typeFragment : UInt8 := 0x05

def maxPayload : ℕ := 1100

def fragmentTtl : ℕ := 10000

structure FragmentBuffer where
  total : ℕ
  chunks : List (ℕ × List UInt8)
  created : ℕ

namespace FragmentBuffer

def insert (buffer : FragmentBuffer) (index : ℕ) (data : List UInt8) : FragmentBuffer :=
  { buffer with
    chunks := (index, data) :: buffer.chunks.filter fun chunk => chunk.1 ≠ index }

def isComplete (buffer : FragmentBuffer) : Bool := buffer.chunks.length = buffer.total

def reassemble (buffer : FragmentBuffer) : List UInt8 :=
  (List.range buffer.total).flatMap fun index => (buffer.chunks.lookup index).getD []

end FragmentBuffer

abbrev Fragments := UInt32 → Option FragmentBuffer

/-- `deframe_message`, with `ClusterMessage::parse` for the JSON. -/
def deframeMessage (parse : List UInt8 → Option μ) (framed : List UInt8) : Except String μ := do
  failIf (framed.length < 4) "framed message too short"
  let length := Bytes.ofBigEndian (framed.take 4)
  failIf (framed.length < 4 + length) "framed message truncated"
  getOr (parse ((framed.drop 4).take length)) "unrecognized cluster message"

/-- The part of `handle_datagram` that puts a fragment into its buffer, and the
message that it completes. -/
def receiveFragment (parse : List UInt8 → Option μ) (now : ℕ)
    (plaintext : List UInt8) (fragments : Fragments) : Fragments × Option μ :=
  if plaintext.length < 8 then
    (fragments, none)
  else
    let fragmentId := UInt32.ofNat (Bytes.ofBigEndian (plaintext.take 4))
    let index := Bytes.ofBigEndian ((plaintext.drop 4).take 2)
    let total := Bytes.ofBigEndian ((plaintext.drop 6).take 2)
    if total = 0 ∨ total ≤ index then
      (fragments, none)
    else
      let retained : Fragments := fun id =>
        (fragments id).filter fun buffer => now - buffer.created < fragmentTtl
      let buffer := ((retained fragmentId).getD
        { total, chunks := [], created := now }).insert index (plaintext.drop 8)
      if buffer.isComplete then
        (Function.update retained fragmentId none,
          (deframeMessage parse buffer.reassemble).toOption)
      else
        (Function.update retained fragmentId (some buffer), none)

/-- `handle_datagram`: the session and the fragment buffers after a packet, and
the message to deliver. -/
def handleDatagram (P : Primitives UInt8 σ) (parse : List UInt8 → Option μ)
    (now : ℕ) (packet : List UInt8) (session : NoiseSession)
    (fragments : Fragments) : NoiseSession × Fragments × Option μ :=
  match packet with
  | [] => (session, fragments, none)
  | packetType :: body =>
    if packetType = typeData then
      match session.decrypt P body with
      | (session, .error _) => (session, fragments, none)
      | (session, .ok plaintext) => (session, fragments, (deframeMessage parse plaintext).toOption)
    else if packetType = typeFragment then
      match session.decrypt P body with
      | (session, .error _) => (session, fragments, none)
      | (session, .ok plaintext) => (session, receiveFragment parse now plaintext fragments)
    else
      (session, fragments, none)

/-- `PeerConnection::send`, from the framed message on: the session after it and
the packets for the socket. -/
def sendPackets (P : Primitives UInt8 σ) (session : NoiseSession)
    (framed : List UInt8) (fragmentId : UInt32) : NoiseSession × List (List UInt8) :=
  if framed.length ≤ maxPayload then
    let (session, encrypted) := session.encrypt P framed
    (session, [typeData :: encrypted])
  else
    let chunks := framed.toChunks maxPayload
    chunks.zipIdx.foldl (fun (session, packets) (chunk, index) =>
        let (session, encrypted) := session.encrypt P
          (Bytes.bigEndian 4 fragmentId.toNat ++ Bytes.bigEndian 2 index ++
            Bytes.bigEndian 2 chunks.length ++ chunk)
        (session, packets ++ [typeFragment :: encrypted]))
      (session, [])

/-! ## The listener -/

/-- `PeerConnection`: what the application and the listener share of one. The
application may have dropped its end of the queue. -/
structure Connection (α μ : Type) where
  remoteAddr : α
  remoteStatic : Key UInt8
  session : NoiseSession
  incoming : List μ
  held : Bool

structure AcceptedPeer where
  connection : ℕ
  fragments : Fragments

/-- The state of the loop of `PinListener::bind`: the connections made so far,
the table of peers, the queue of `accept` and what went out. -/
structure Listener (α μ : Type) where
  connections : List (Connection α μ)
  peers : α → Option AcceptedPeer
  accepted : List ℕ
  sent : List (α × List UInt8)
  registered : ∀ {addr peer}, peers addr = some peer →
    ∃ connection, connections[peer.connection]? = some connection ∧ connection.remoteAddr = addr

structure Setup (σ μ : Type) where
  primitives : Primitives UInt8 σ
  localStatic : σ
  parse : List UInt8 → Option μ

structure Moment (σ : Type) where
  now : ℕ
  ephemeral : σ
  timestampPayload : List UInt8
  authorizer : Key UInt8 → Bool
  sendFails : Bool

/-- Datagrams, and what the application does with its connections. -/
inductive Event (α σ : Type) where
  | datagram (source : α) (packet : List UInt8) (moment : Moment σ)
  | accept
  | recv (connection : ℕ)
  | send (connection : ℕ) (framed : List UInt8) (fragmentId : UInt32)
  | close (connection : ℕ)

/-- `try_send` on the queue of a connection. -/
def Connection.deliver (connection : Connection α μ) : Option μ → Connection α μ
  | none => connection
  | some message =>
    if connection.held ∧ connection.incoming.length < 256 then
      { connection with incoming := connection.incoming ++ [message] }
    else
      connection

variable (connection : Connection α μ)

open Connection

@[simp] theorem Connection.deliver_remoteAddr (message : Option μ) :
    (connection.deliver message).remoteAddr = connection.remoteAddr := by
  cases message with
  | none => rfl
  | some message =>
    rw [deliver]
    split <;> rfl

@[simp] theorem Connection.deliver_session (message : Option μ) :
    (connection.deliver message).session = connection.session := by
  cases message with
  | none => rfl
  | some message =>
    rw [deliver]
    split <;> rfl

namespace Listener

def empty : Listener α μ where
  connections := []
  peers := fun _ => none
  accepted := []
  sent := []
  registered := by
    intro addr peer found
    cases found

def modify (listener : Listener α μ) (index : ℕ) (change : Connection α μ → Connection α μ)
    (stays : ∀ connection, (change connection).remoteAddr = connection.remoteAddr) : Listener α μ :=
  { listener with
    connections := listener.connections.modify index change
    registered := by
      intro addr peer found
      obtain ⟨connection, located, here⟩ := listener.registered found
      by_cases same : index = peer.connection
      · refine ⟨change connection, ?_, (stays connection).trans here⟩
        simp [same, located]
      · refine ⟨connection, ?_, here⟩
        simp [same, located] }

def addresses (listener : Listener α μ) : List α := listener.connections.map remoteAddr

theorem addresses_modify (listener : Listener α μ) (index : ℕ)
    (change : Connection α μ → Connection α μ)
    (stays : ∀ connection, (change connection).remoteAddr = connection.remoteAddr) :
    (listener.modify index change stays).addresses = listener.addresses := by
  apply ext_getElem?
  intro position
  simp only [addresses, modify, getElem?_map, getElem?_modify]
  cases listener.connections[position]? with
  | none => rfl
  | some connection =>
    by_cases here : index = position
    · simp [here, stays]
    · simp [here]

variable [DecidableEq α]

/-- The end of the handshake branch: a connection for the address, reported to
the application unless 16 are waiting already. -/
def openConnection (listener : Listener α μ) (source : α)
    (remoteStatic : Key UInt8) (session : NoiseSession) (reply : List UInt8) : Listener α μ :=
  let reported := listener.accepted.length < 16
  let number := listener.connections.length
  { connections := listener.connections ++
      [{ remoteAddr := source, remoteStatic, session, incoming := [],
         held := reported }]
    peers := Function.update listener.peers source
      (some { connection := number, fragments := fun _ => none })
    accepted :=
      if reported then listener.accepted ++ [number] else listener.accepted
    sent := listener.sent ++ [(source, typeHandshakeResp :: reply)]
    registered := by
      intro addr peer found
      by_cases same : addr = source
      · subst same
        rw [Function.update_self, Option.some.injEq] at found
        subst found
        exact ⟨_, List.getElem?_concat_length, rfl⟩
      · rw [Function.update_of_ne same] at found
        obtain ⟨connection, located, here⟩ := listener.registered found
        obtain ⟨fits, -⟩ := List.getElem?_eq_some_iff.mp located
        exact ⟨connection, (List.getElem?_append_left fits).trans located, here⟩ }

/-- The answer to a handshake: nothing is sent to a peer that fails it or is not
authorized. -/
def answer (setup : Setup σ μ) (message1 : List UInt8) (moment : Moment σ) :
    Option (List UInt8 × TransportKeys UInt8 × Key UInt8) :=
  match setup.primitives.responderComplete setup.localStatic message1
      moment.ephemeral moment.timestampPayload with
  | .error _ => none
  | .ok (message2, keys, remoteStatic) =>
    if ¬ moment.authorizer remoteStatic then none
    else if moment.sendFails then none
    else some (message2, keys, remoteStatic)

def storeFragments (listener : Listener α μ) (source : α) (fragments : Fragments) : Listener α μ :=
  { listener with
    peers := fun addr =>
      if addr = source then
        (listener.peers addr).map fun peer => { peer with fragments }
      else
        listener.peers addr
    registered := by
      intro addr peer found
      by_cases same : addr = source
      · rw [if_pos same] at found
        obtain ⟨before, known, rfl⟩ := Option.map_eq_some_iff.mp found
        obtain ⟨connection, located, here⟩ := listener.registered known
        exact ⟨connection, located, here⟩
      · rw [if_neg same] at found
        exact listener.registered found }

def dispatch (setup : Setup σ μ) (listener : Listener α μ) (source : α)
    (packet : List UInt8) (now : ℕ) : Listener α μ :=
  match listener.peers source with
  | none => listener
  | some peer =>
    match listener.connections[peer.connection]? with
    | none => listener
    | some connection =>
      let (session, fragments, message) := handleDatagram setup.primitives
        setup.parse now packet connection.session peer.fragments
      (listener.modify peer.connection (fun connection =>
          deliver { connection with session } message)
        (fun _ => deliver_remoteAddr _ _)).storeFragments source fragments

/-- One round of the loop of `PinListener::bind`. -/
def receive (setup : Setup σ μ) (listener : Listener α μ) (source : α)
    (packet : List UInt8) (moment : Moment σ) : Listener α μ :=
  match packet with
  | [] => listener
  | packetType :: body =>
    if packetType = typeHandshakeInit then
      match answer setup body moment with
      | none => listener
      | some (message2, keys, remoteStatic) =>
        listener.openConnection source remoteStatic (NoiseSession.new keys) message2
    else
      listener.dispatch setup source packet moment.now

/-- A datagram arrives or the application does something: `accept` and `recv`
take the head of a queue, `send` uses the session, and a connection that is
closed gets no more messages. -/
def step (setup : Setup σ μ) (listener : Listener α μ) : Event α σ → Listener α μ
  | .datagram source packet moment => listener.receive setup source packet moment
  | .accept => { listener with accepted := listener.accepted.tail }
  | .recv index =>
    listener.modify index
      (fun connection => { connection with incoming := connection.incoming.tail })
      fun _ => rfl
  | .send index framed fragmentId =>
    match listener.connections[index]? with
    | none => listener
    | some connection =>
      let (session, packets) := sendPackets setup.primitives
        connection.session framed fragmentId
      let listener := listener.modify index
        (fun connection => { connection with session }) fun _ => rfl
      { listener with
        sent := listener.sent ++
          packets.map fun packet => (connection.remoteAddr, packet) }
  | .close index =>
    listener.modify index (fun connection => { connection with held := false }) fun _ => rfl

/-! ## Connections come from answered handshakes -/

def answered (setup : Setup σ μ) : Event α σ → List α
  | .datagram source (packetType :: body) moment =>
    if packetType = typeHandshakeInit ∧ (answer setup body moment).isSome then
      [source]
    else
      []
  | _ => []

theorem addresses_storeFragments (listener : Listener α μ) (source : α) (fragments : Fragments) :
    (listener.storeFragments source fragments).addresses = listener.addresses :=
  rfl

theorem addresses_dispatch (setup : Setup σ μ) (listener : Listener α μ)
    (source : α) (packet : List UInt8) (now : ℕ) :
    (listener.dispatch setup source packet now).addresses = listener.addresses := by
  unfold dispatch
  cases listener.peers source with
  | none => rfl
  | some peer =>
    dsimp only
    cases listener.connections[peer.connection]? with
    | none => rfl
    | some connection =>
      rw [addresses_storeFragments, addresses_modify]

theorem addresses_step (setup : Setup σ μ) (listener : Listener α μ) (event : Event α σ) :
    (listener.step setup event).addresses = listener.addresses ++ answered setup event := by
  cases event with
  | datagram source packet moment =>
    cases packet with
    | nil => exact (append_nil _).symm
    | cons packetType body =>
      rw [step, receive]
      by_cases handshake : packetType = typeHandshakeInit
      · rw [if_pos handshake]
        cases replied : answer setup body moment with
        | none => simp [answered, replied]
        | some reply => simp [answered, replied, handshake, addresses, openConnection]
      · rw [if_neg handshake, addresses_dispatch]
        simp [answered, handshake]
  | accept => exact (append_nil _).symm
  | recv | close =>
    rw [step, addresses_modify]
    exact (append_nil _).symm
  | send index framed fragmentId =>
    rw [step]
    cases listener.connections[index]? with
    | none => exact (append_nil _).symm
    | some connection =>
      have kept := addresses_modify listener index (fun other => { other with
          session := (sendPackets setup.primitives connection.session framed
            fragmentId).1 }) fun _ => rfl
      exact kept.trans (append_nil _).symm

theorem addresses_run (setup : Setup σ μ) (listener : Listener α μ) (events : List (Event α σ)) :
    (run (step setup) listener events).addresses =
      listener.addresses ++ events.flatMap (answered setup) := by
  induction events generalizing listener with
  | nil => exact (append_nil _).symm
  | cons event rest ih =>
    rw [run_cons, ih, addresses_step, append_assoc, flatMap_cons]

/-! ## A connection that stays -/

/-- The packets that a datagram from an address has for the session. -/
def packetsFrom (addr : α) : Event α σ → List (List UInt8)
  | .datagram source (packetType :: body) _ =>
    if source = addr ∧ (packetType = typeData ∨ packetType = typeFragment) then
      [body]
    else
      []
  | _ => []

/-- An address has a connection, whose session has keys and has accepted
counters. -/
structure Established (listener : Listener α μ) (addr : α) (number : ℕ)
    (keys : TransportKeys UInt8) (accepted : List UInt64) : Prop where
  registered : ∃ fragments, listener.peers addr = some { connection := number, fragments }
  received : ∃ connection, listener.connections[number]? = some connection ∧
    Received keys connection.session accepted

end Listener

theorem handleDatagram_session (P : Primitives UInt8 σ)
    (parse : List UInt8 → Option μ) (now : ℕ) (packetType : UInt8)
    (body : List UInt8) (session : NoiseSession) (fragments : Fragments) :
    (handleDatagram P parse now (packetType :: body) session fragments).1 =
      if packetType = typeData ∨ packetType = typeFragment then
        (session.decrypt P body).1
      else
        session := by
  rw [handleDatagram]
  by_cases data : packetType = typeData
  · rw [if_pos data, if_pos (Or.inl data)]
    split <;> simp_all
  · rw [if_neg data]
    by_cases fragment : packetType = typeFragment
    · rw [if_pos fragment, if_pos (Or.inr fragment)]
      split <;> simp_all
    · simp [data, fragment]

theorem Received.withSendCounter {keys : TransportKeys UInt8} {session : NoiseSession}
    (received : Received keys session accepted) (counter : UInt64) :
    Received keys { session with sendCounter := counter } accepted :=
  ⟨received.receiveKey, ⟨received.tracks.highWater, received.tracks.bits⟩, received.nodup⟩

theorem Received.sendPackets {keys : TransportKeys UInt8} {session : NoiseSession}
    (received : Received keys session accepted) (P : Primitives UInt8 σ)
    (framed : List UInt8) (fragmentId : UInt32) :
    Received keys (sendPackets P session framed fragmentId).1 accepted := by
  rw [Pin.sendPackets]
  by_cases small : framed.length ≤ maxPayload
  · rw [if_pos small]
    exact received.withSendCounter _
  · rw [if_neg small]
    apply foldl_preserves (fun state : NoiseSession × List (List UInt8) =>
        Received keys state.1 accepted)
    · rintro ⟨session', packets⟩ ⟨chunk, index⟩ - kept
      exact kept.withSendCounter _
    · exact received

namespace Listener

section Established

variable {setup : Setup σ μ} {listener : Listener α μ} {addr : α}
  {number : ℕ} {keys : TransportKeys UInt8} {accepted : List UInt64}

theorem Established.modify (established : Established listener addr number keys accepted)
    {accepted' : List UInt64} (index : ℕ) (change : Connection α μ → Connection α μ)
    (stays : ∀ connection, (change connection).remoteAddr = connection.remoteAddr)
    (here : index = number → ∀ connection, listener.connections[number]? = some connection →
      Received keys connection.session accepted → Received keys (change connection).session accepted')
    (elsewhere : index ≠ number → accepted' = accepted) :
    Established (listener.modify index change stays) addr number keys accepted' := by
  obtain ⟨connection, located, received⟩ := established.received
  refine ⟨established.registered, ?_⟩
  by_cases same : index = number
  · refine ⟨change connection, ?_, here same connection located received⟩
    simp [Listener.modify, same, located]
  · refine ⟨connection, ?_, elsewhere same ▸ received⟩
    simp [Listener.modify, same, located]

theorem Established.other_connection (established : Established listener addr number keys accepted)
    (elsewhere : source ≠ addr) (known : listener.peers source = some peer) :
    peer.connection ≠ number := by
  intro same
  obtain ⟨fragments, registered⟩ := established.registered
  obtain ⟨connection, located, here⟩ := listener.registered registered
  obtain ⟨other, otherLocated, there⟩ := listener.registered known
  rw [same, located, some.injEq] at otherLocated
  rw [← otherLocated, here] at there
  exact elsewhere there.symm

variable [DecidableEq α]

section

variable (established : Established listener addr number keys accepted)

include established

theorem Established.storeFragments (source : α) (fragments : Fragments) :
    Established (listener.storeFragments source fragments) addr number keys accepted := by
  refine ⟨?_, established.received⟩
  obtain ⟨before, known⟩ := established.registered
  by_cases same : addr = source
  · exact ⟨fragments, by simp [Listener.storeFragments, same ▸ known, same]⟩
  · exact ⟨before, by simp [Listener.storeFragments, same, known]⟩

theorem Established.dispatch
    (setup : Setup σ μ) (source : α) (packetType : UInt8) (body : List UInt8)
    (now : ℕ) (moment : Moment σ) :
    Established (listener.dispatch setup source (packetType :: body) now) addr
      number keys ((packetsFrom addr (.datagram source (packetType :: body) moment)).foldl
          (acceptedAfter setup.primitives keys.receiveKey) accepted) := by
  obtain ⟨fragments, registered⟩ := established.registered
  obtain ⟨connection, located, received⟩ := established.received
  unfold Listener.dispatch
  by_cases same : source = addr
  · subst same
    simp only [registered, located]
    apply Established.storeFragments
    apply established.modify
    · rintro - - - -
      rw [deliver_session, handleDatagram_session]
      by_cases forSession : packetType = typeData ∨ packetType = typeFragment
      · simpa [packetsFrom, forSession] using received.decrypt body
      · simpa [packetsFrom, forSession] using received
    · exact fun apart => absurd rfl apart
  · have unread : packetsFrom addr (.datagram source (packetType :: body) moment) =
        [] := by simp [packetsFrom, same]
    rw [unread, foldl_nil]
    cases known : listener.peers source with
    | none => exact established
    | some peer =>
      have other := established.other_connection same known
      dsimp only
      cases listener.connections[peer.connection]? with
      | none => exact established
      | some _ =>
        apply Established.storeFragments
        apply established.modify
        · exact fun same => absurd same other
        · exact fun _ => rfl

/-- The connection of an address survives every event but an answered handshake
from the address. -/
theorem Established.step (event : Event α σ) (unanswered : addr ∉ answered setup event) :
    Established (listener.step setup event) addr number keys
      ((packetsFrom addr event).foldl (acceptedAfter setup.primitives keys.receiveKey)
        accepted) := by
  cases event with
  | accept => exact ⟨established.registered, established.received⟩
  | recv | close =>
    refine established.modify _ _ ?_ ?_ fun _ => rfl
    · exact fun _ => rfl
    · exact fun _ _ _ received => received
  | send index framed fragmentId =>
    rw [Listener.step]
    cases found : listener.connections[index]? with
    | none => exact established
    | some connection =>
      have sends : Established (listener.modify index (fun other => { other with
            session := (sendPackets setup.primitives connection.session framed fragmentId).1 })
          fun _ => rfl) addr number keys accepted := by
        refine established.modify _ _ _ ?_ fun _ => rfl
        rintro rfl own located received
        cases found.symm.trans located
        exact received.sendPackets _ _ _
      exact ⟨sends.registered, sends.received⟩
  | datagram source packet moment =>
    cases packet with
    | nil => exact established
    | cons packetType body =>
      rw [Listener.step, receive]
      by_cases handshake : packetType = typeHandshakeInit
      · have unread : packetsFrom addr (.datagram source (packetType :: body) moment) = [] := by
          simp [packetsFrom, handshake, typeHandshakeInit, typeData, typeFragment]
        rw [if_pos handshake, unread, foldl_nil]
        cases replied : answer setup body moment with
        | none => exact established
        | some reply =>
          have apart : addr ≠ source := by simpa [answered, handshake, replied] using unanswered
          obtain ⟨fragments, registered⟩ := established.registered
          obtain ⟨connection, located, received⟩ := established.received
          obtain ⟨fits, -⟩ := List.getElem?_eq_some_iff.mp located
          exact ⟨⟨fragments, (Function.update_of_ne apart _ _).trans registered⟩,
            connection, (getElem?_append_left fits).trans located,
            received⟩
      · rw [if_neg handshake]
        exact established.dispatch setup source packetType body moment.now moment

theorem Established.run
    (events : List (Event α σ)) (unanswered : addr ∉ events.flatMap (answered setup)) :
    Established (run (Listener.step setup) listener events) addr number keys
      ((events.flatMap (packetsFrom addr)).foldl
        (acceptedAfter setup.primitives keys.receiveKey) accepted) := by
  induction events generalizing listener accepted with
  | nil => exact established
  | cons event rest ih =>
    rw [flatMap_cons, mem_append, not_or] at unanswered
    rw [run_cons, flatMap_cons, foldl_append]
    exact ih (established.step event unanswered.1) unanswered.2

end

theorem Established.delivers (established : Established listener addr number keys accepted)
    (setup : Setup σ μ) (moment : Moment σ) {packet plaintext : List UInt8}
    {message : μ} (opens : Opens setup.primitives keys.receiveKey packet plaintext)
    (admitted : Admits accepted (packetCounter packet))
    (framed : deframeMessage setup.parse plaintext = .ok message) {connection : Connection α μ}
    (located : listener.connections[number]? = some connection)
    (held : connection.held = true) (room : connection.incoming.length < 256) :
    ((listener.step setup (.datagram addr (typeData :: packet)
        moment)).connections[number]?).map incoming =
      some (connection.incoming ++ [message]) := by
  obtain ⟨fragments, registered⟩ := established.registered
  obtain ⟨own, ownLocated, received⟩ := established.received
  rw [located, some.injEq] at ownLocated
  subst ownLocated
  have decrypted : connection.session.decrypt setup.primitives packet =
      (connection.session.markReceived (packetCounter packet), .ok plaintext) := by
    apply decrypt_of_opens
    · rwa [received.receiveKey]
    · exact (received.tracks.isReplay_eq_false_iff _).mpr admitted
  have notHandshake : typeData ≠ typeHandshakeInit := by decide
  simp only [Listener.step, receive, if_neg notHandshake, Listener.dispatch,
    registered, located, handleDatagram, decrypted, framed]
  simp [Listener.storeFragments, Listener.modify, located, deliver,
    held, room, Except.toOption]

end Established

theorem old_connections_iff {listener final : Listener α μ} {added : List α}
    (grown : final.addresses = listener.addresses ++ added) (addr : α) :
    (∀ number connection, final.connections[number]? = some connection →
        connection.remoteAddr = addr → number < listener.connections.length) ↔ addr ∉ added := by
  have size : listener.addresses.length = listener.connections.length := length_map _
  have address : ∀ number : ℕ, (final.connections[number]?).map remoteAddr =
      (listener.addresses ++ added)[number]? := by
    intro number
    rw [← grown, addresses, getElem?_map]
  constructor
  · intro old member
    obtain ⟨position, here⟩ := getElem?_of_mem member
    have located := address (listener.connections.length + position)
    rw [← size, getElem?_append_right (Nat.le_add_right _ _),
      Nat.add_sub_cancel_left, here] at located
    obtain ⟨connection, found, same⟩ := map_eq_some_iff.mp located
    have early := old _ connection found same
    omega
  · intro absent number connection found same
    by_contra late
    have located := address number
    rw [found, map_some, same, getElem?_append_right (by omega)] at located
    exact absent (mem_of_getElem? located.symm)

/-- A connection of an address outlasts any datagrams and calls: none is added
for the address if and only if no handshake from it is answered, and then the
connection is still the one of the address, still decrypts every packet whose
counter is new and recent, and still delivers what it holds. -/
theorem connection_survives [DecidableEq α]
    (setup : Setup σ μ) (listener : Listener α μ) (addr : α) (number : ℕ)
    (keys : TransportKeys UInt8) (accepted : List UInt64)
    (established : Established listener addr number keys accepted) (events : List (Event α σ)) :
    let final := run (step setup) listener events
    let accepted' := (events.flatMap (packetsFrom addr)).foldl
      (acceptedAfter setup.primitives keys.receiveKey) accepted
    ((∀ number' connection, final.connections[number']? = some connection →
        connection.remoteAddr = addr → number' < listener.connections.length) ↔
      ∀ event ∈ events, addr ∉ answered setup event) ∧
    ((∀ event ∈ events, addr ∉ answered setup event) →
      (∃ fragments, final.peers addr = some { connection := number, fragments }) ∧
      ∃ connection, final.connections[number]? = some connection ∧ ∀ packet plaintext,
          Opens setup.primitives keys.receiveKey packet plaintext →
          Admits accepted' (packetCounter packet) →
          (connection.session.decrypt setup.primitives packet).2 = .ok plaintext ∧ ∀ message moment,
              deframeMessage setup.parse plaintext = .ok message →
              connection.held = true → connection.incoming.length < 256 →
              ((final.step setup (.datagram addr (typeData :: packet)
                  moment)).connections[number]?).map incoming =
                some (connection.incoming ++ [message])) := by
  intro final accepted'
  have flat : (∀ event ∈ events, addr ∉ answered setup event) ↔
      addr ∉ events.flatMap (answered setup) := by simp
  constructor
  · rw [flat]
    exact old_connections_iff (addresses_run setup listener events) addr
  · intro unanswered
    have kept := established.run events (flat.mp unanswered)
    obtain ⟨connection, located, received⟩ := kept.received
    refine ⟨kept.registered, connection, located, ?_⟩
    intro packet plaintext opens admitted
    refine ⟨(received.decrypt_eq_ok_iff packet plaintext).mpr ⟨opens, admitted⟩, ?_⟩
    intro message moment framed held room
    exact kept.delivers setup moment opens admitted framed located held room

/-- The node with the private key 5, whose messages are their own text. -/
def exampleSetup : Setup UInt8 (List UInt8) where
  primitives := checksumSuite
  localStatic := 5
  parse := some

def exampleMoment (ephemeral : UInt8) : Moment UInt8 where
  now := 0
  ephemeral := ephemeral
  timestampPayload := [0]
  authorizer := fun _ => true
  sendFails := false

def exampleHandshake : List UInt8 × InitiatorState UInt8 UInt8 :=
  checksumSuite.initiatorBegin 3 (checksumSuite.publicKey 5) 7 [1, 2]

/-- A second message does not open a connection, so that the one there is
stays. -/
theorem connection_survives_second_message :
    let keys : TransportKeys UInt8 :=
      { sendKey := Vector.replicate 32 1, receiveKey := Vector.replicate 32 2,
        handshakeHash := Vector.replicate 32 3 }
    let listener : Listener ℕ (List UInt8) := empty.openConnection 1
      (checksumSuite.publicKey 3) (NoiseSession.new keys) []
    let events : List (Event ℕ UInt8) :=
      [.datagram 1 [typeHandshakeResp, 8, 8] (exampleMoment 12)]
    Established listener 1 0 keys [] ∧
      ∃ fragments, (run (step exampleSetup) listener events).peers 1 =
        some { connection := 0, fragments } := by
  intro keys listener events
  have established : Established listener 1 0 keys [] :=
    ⟨⟨_, rfl⟩, _, getElem?_concat_length, rfl, tracks_new keys, nodup_nil⟩
  refine ⟨established, ?_⟩
  have survives := connection_survives exampleSetup listener 1 0 keys [] established events
  exact (survives.2 (by decide)).1

/-- The queues of the connections after a handshake from address 1, perhaps a
copy of it, and the first packet of the peer that sent it. -/
def queuesAfter (copies : List (Event ℕ UInt8)) : List (List (List UInt8)) :=
  let answeredOnce : Listener ℕ (List UInt8) := empty.step exampleSetup
    (.datagram 1 (typeHandshakeInit :: exampleHandshake.1) (exampleMoment 11))
  let reply := (answeredOnce.sent.headD (1, [])).2.tail
  let packet := match checksumSuite.initiatorFinish exampleHandshake.2 reply with
    | .error _ => []
    | .ok keys => ((NoiseSession.new keys).encrypt checksumSuite [0, 0, 0, 2, 104, 105]).2
  let final := run (step exampleSetup) answeredOnce
    (copies ++ [.datagram 1 (typeData :: packet) (exampleMoment 13)])
  final.connections.map incoming

/-- A copy of the handshake from the same address is reported as a second
connection, and what the peer sends afterwards is lost. -/
theorem copied_handshake_replaces_connection :
    let copy : Event ℕ UInt8 := .datagram 1
      (typeHandshakeInit :: exampleHandshake.1) (exampleMoment 12)
    let listener : Listener ℕ (List UInt8) := run (step exampleSetup) empty
      [.datagram 1 (typeHandshakeInit :: exampleHandshake.1) (exampleMoment 11), copy]
    listener.accepted = [0, 1] ∧ listener.addresses = [1, 1] ∧ queuesAfter [] = [[[104, 105]]] ∧
      queuesAfter [copy] = [[], []] := by
  decide +kernel

end Listener

end Teale.Node.Pin
