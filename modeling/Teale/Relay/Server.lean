import Teale.Lib.Table
import Teale.Lib.Transaction

/-!
# The relay

`relay/server.ts`: sockets register node ids and send messages that are handed on, whoever they
say they are from. Closing a socket removes the entry of the node id that the socket registered
last, and no other.
-/

namespace Teale.Relay

open Relational Transactional List Relational.Table

variable {J : Type}

abbrev Socket := ℕ

/-! ## Messages -/

/-- `RegisterPayload`; an absent or empty `nodeID` is `none`. -/
structure RegisterPayload (J : Type) where
  nodeID : Option String
  publicKey : J
  wgPublicKey : Option J
  displayName : J
  capabilities : J
  signature : J

/-- `TargetedPayload`, with everything that came with it. A node id that is no
text is `none`. -/
structure TargetedPayload (J : Type) where
  fromNodeID : Option String
  toNodeID : Option String
  whole : J
  deriving DecidableEq

inductive TargetedKind
  | offer
  | answer
  | iceCandidate
  | relayOpen
  | relayReady
  | relayData
  | relayClose
  deriving DecidableEq

/-- What `handleMessage` makes of a text. A payload of another shape makes the
handler throw before it has changed anything. -/
inductive Incoming (J : Type)
  | invalidJson
  | empty
  | throws
  | register (payload : RegisterPayload J)
  | discover (requestingNodeID : Option String)
  | targeted (kind : TargetedKind) (payload : TargetedPayload J)
  | unsupported (kind : String)

structure RelayPeer (J : Type) where
  ws : Socket
  publicKey : J
  wgPublicKey : Option J
  displayName : J
  capabilities : J
  lastSeen : ℕ

inductive RelayMessage (J : Type)
  | registerAck (nodeID : String) (registeredAt ttlSeconds : ℕ)
  | discoverResponse (peers : List (String × RelayPeer J))
  | peerJoined (nodeID : String) (displayName : J)
  | peerLeft (nodeID : String) (displayName : J)
  | error (code message : String)
  | forwarded (kind : TargetedKind) (payload : TargetedPayload J)

/-- What the relay does to a socket: `send`, or `close` with code 1012. -/
inductive Output (J : Type)
  | send (ws : Socket) (message : RelayMessage J)
  | close (ws : Socket)

structure Server (J : Type) where
  peers : Table String (RelayPeer J) := ∅
  sockets : Socket → Option String := fun _ => none

namespace Server

def broadcast (server : Server J) (message : RelayMessage J)
    (excludeNodeID : Option String) : List (Output J) :=
  (server.peers.rows.filter fun row => excludeNodeID ≠ some row.1).map fun row =>
    .send row.2.ws message

def forwardToTarget (server : Server J) (kind : TargetedKind)
    (payload : TargetedPayload J) (sender : Socket) : List (Output J) :=
  match payload.toNodeID.bind server.peers.find? with
  | none =>
    [.send sender (.error "peer_not_found"
      ("Peer " ++ payload.toNodeID.getD "undefined" ++ " is not connected"))]
  | some target => [.send target.ws (.forwarded kind payload)]

def handleRegister (server : Server J) (ws : Socket) (payload : RegisterPayload J)
    (now : ℕ) : Server J × List (Output J) :=
  match payload.nodeID with
  | none => (server, [.send ws (.error "invalid_register" "Missing nodeID in register payload")])
  | some nodeID =>
    let existing := server.peers.find? nodeID
    let registered : Server J :=
      { peers := server.peers.upsert nodeID
          { ws
            publicKey := payload.publicKey
            wgPublicKey := payload.wgPublicKey
            displayName := payload.displayName
            capabilities := payload.capabilities
            lastSeen := now }
        sockets := Function.update server.sockets ws (some nodeID) }
    let replaced := match existing with
      | some peer => if peer.ws = ws then [] else [.close peer.ws]
      | none => []
    let isSessionRefresh := existing.any fun peer => peer.ws = ws
    (registered, replaced ++ [.send ws (.registerAck nodeID now 300)] ++
        if isSessionRefresh then []
        else registered.broadcast (.peerJoined nodeID payload.displayName) (some nodeID))

def handleDiscover (server : Server J) (ws : Socket)
    (requestingNodeID : Option String) : List (Output J) :=
  [.send ws (.discoverResponse (server.peers.rows.filter fun row => requestingNodeID ≠ some row.1))]

def refresh (server : Server J) (ws : Socket) (now : ℕ) : Server J :=
  match server.sockets ws with
  | none => server
  | some nodeID =>
    { server with
      peers := server.peers.modify nodeID fun peer =>
        if peer.ws = ws then { peer with lastSeen := now } else peer }

def handleMessage (server : Server J) (ws : Socket) (incoming : Incoming J)
    (now : ℕ) : Server J × List (Output J) :=
  let refreshed := server.refresh ws now
  match incoming with
  | .invalidJson => (server, [.send ws (.error "invalid_json" "Could not decode relay message")])
  | .empty => (server, [.send ws (.error "invalid_message" "Empty relay message")])
  | .throws => (refreshed, [])
  | .register payload => refreshed.handleRegister ws payload now
  | .discover requestingNodeID => (refreshed, refreshed.handleDiscover ws requestingNodeID)
  | .targeted kind payload => (refreshed, refreshed.forwardToTarget kind payload ws)
  | .unsupported kind =>
    (refreshed, [.send ws (.error "unsupported_message" ("Unsupported relay message: " ++ kind))])

def handleClose (server : Server J) (ws : Socket) : Server J × List (Output J) :=
  match server.sockets ws with
  | none => (server, [])
  | some nodeID =>
    let forgotten := { server with
      sockets := Function.update server.sockets ws none }
    match server.peers.find? nodeID with
    | none => (forgotten, [])
    | some peer =>
      if peer.ws = ws then
        let removed := { forgotten with
          peers := server.peers.deleteWhere fun other _ => other = nodeID }
        (removed, removed.broadcast (.peerLeft nodeID peer.displayName) none)
      else
        (forgotten, [])

end Server

/-- What happens at the sockets. A socket that is opened is not known to the
relay before its first message. -/
inductive Event (J : Type)
  | message (ws : Socket) (incoming : Incoming J) (now : ℕ)
  | close (ws : Socket)

def Server.step (server : Server J) : Event J → Server J × List (Output J)
  | .message ws incoming now => server.handleMessage ws incoming now
  | .close ws => server.handleClose ws

def serverAfter (events : List (Event J)) : Server J :=
  run (fun server event => (server.step event).1) {} events

/-! ## Closing a socket -/

namespace Server

variable {server : Server J} {ws : Socket} {nodeID : String}

def RefersTo (server : Server J) (ws : Socket) (nodeID : String) : Prop :=
  ∃ peer, server.peers.find? nodeID = some peer ∧ peer.ws = ws

theorem mem_broadcast (found : server.peers.find? nodeID = some peer) :
    .send peer.ws message ∈ server.broadcast message none := by
  apply mem_map.mpr
  refine ⟨(nodeID, peer), mem_filter.mpr ⟨?_, by simp⟩, rfl⟩
  exact mem_rows_iff_find?.mpr found

/-- Closing a socket removes the entry of the node id it registered last, if
that entry is still its own, and announces it to those who stay. -/
theorem handleClose_of_refersTo (last : server.sockets ws = some nodeID)
    (refers : server.RefersTo ws nodeID) : (server.handleClose ws).1.peers =
        server.peers.deleteWhere (fun other _ => other = nodeID) ∧
      ∃ displayName, (server.handleClose ws).2 =
        (server.handleClose ws).1.broadcast (.peerLeft nodeID displayName) none := by
  obtain ⟨peer, found, isSocket⟩ := refers
  rw [handleClose, last]
  simp only [found, if_pos isSocket]
  exact ⟨trivial, peer.displayName, rfl⟩

theorem peers_handleClose_cases (server : Server J) (ws : Socket) :
    (∃ last, server.sockets ws = some last ∧ server.RefersTo ws last) ∨
      (server.handleClose ws).1.peers = server.peers ∧
        ∀ last, server.sockets ws = some last → ¬ server.RefersTo ws last := by
  by_cases own : ∃ last, server.sockets ws = some last ∧ server.RefersTo ws last
  · exact .inl own
  · simp only [not_exists, not_and] at own
    refine .inr ⟨?_, own⟩
    rw [handleClose]
    split
    · rfl
    · next nodeID last =>
        dsimp only
        split
        · rfl
        · next peer found => rw [if_neg fun isSocket => own nodeID last ⟨peer, found, isSocket⟩]

theorem find?_handleClose_of_ne (other : server.sockets ws ≠ some nodeID) :
    (server.handleClose ws).1.peers.find? nodeID = server.peers.find? nodeID := by
  rcases server.peers_handleClose_cases ws with ⟨last, isLast, refers⟩ | ⟨same, -⟩
  · have different : nodeID ≠ last := by
      rintro rfl
      exact other isLast
    rw [(handleClose_of_refersTo isLast refers).1, find?_deleteWhere,
      decide_eq_false different]
    cases server.peers.find? nodeID <;> rfl
  · rw [same]

/-- After any run, once the close of a socket has been handled no entry is that of the
socket and its nodes have been announced, if and only if they are all the one it
registered last. -/
theorem handleClose_forgets_iff (events : List (Event J)) (ws : Socket) :
    let server := serverAfter events
    ((∀ nodeID, ¬ (server.handleClose ws).1.RefersTo ws nodeID) ∧
      ∀ nodeID, server.RefersTo ws nodeID →
        ∀ other peer, (server.handleClose ws).1.peers.find? other = some peer →
          ∃ displayName, .send peer.ws (.peerLeft nodeID displayName) ∈ (server.handleClose ws).2) ↔
    ∀ nodeID, server.RefersTo ws nodeID → server.sockets ws = some nodeID := by
  intro server
  constructor
  · rintro ⟨forgotten, -⟩ nodeID refers
    by_contra other
    apply forgotten nodeID
    rwa [RefersTo, find?_handleClose_of_ne other]
  · intro onlyLast
    constructor
    · rintro nodeID refers
      by_cases last : server.sockets ws = some nodeID
      · rcases server.peers_handleClose_cases ws with ⟨_, isLast, own⟩ | ⟨same, none⟩
        · cases last.symm.trans isLast
          rw [RefersTo, (handleClose_of_refersTo last own).1] at refers
          simp [find?_deleteWhere] at refers
        · rw [RefersTo, same] at refers
          exact none nodeID last refers
      · rw [RefersTo, find?_handleClose_of_ne last] at refers
        exact last (onlyLast nodeID refers)
    · intro nodeID refers other peer remains
      obtain ⟨-, displayName, announced⟩ := handleClose_of_refersTo (onlyLast nodeID refers) refers
      rw [announced]
      exact ⟨displayName, mem_broadcast remains⟩

end Server

def registration (ws : Socket) (nodeID : String) : Event Unit :=
  .message ws (.register ⟨some nodeID, (), none, (), (), ()⟩) 0

/-- A socket that registers two node ids and closes leaves the first behind. -/
theorem twoRegistrations_not_forgotten :
    ((serverAfter [registration 1 "a", registration 1 "b"]).handleClose 1).1.RefersTo 1 "a" := by
  refine ⟨⟨1, (), none, (), (), 0⟩, ?_, rfl⟩
  rfl

/-! ## Who a message is from -/

variable {events : List (Event J)}

/-- The socket on which a node id was registered last. -/
def registrant (events : List (Event J)) (nodeID : String) : Option Socket :=
  events.reverse.findSome? fun
    | .message ws (.register payload) _ =>
      if payload.nodeID = some nodeID then some ws else none
    | _ => none

/-- What is delivered as a node's message came in on the socket that registered
the node last, and whoever registered a node had a valid signature. -/
structure Authentic (valid : RegisterPayload J → Prop) (events : List (Event J)) :
    Prop where
  sender : ∀ before event after, events = before ++ event :: after → ∀ receiver kind payload nodeID,
      .send receiver (.forwarded kind payload) ∈ ((serverAfter before).step event).2 →
      payload.fromNodeID = some nodeID →
      ∃ ws incoming now, event = .message ws incoming now ∧ registrant before nodeID = some ws
  registered : ∀ before event after, events = before ++ event :: after →
    ∀ ws nodeID, ((serverAfter before).step event).1.RefersTo ws nodeID →
      (serverAfter before).RefersTo ws nodeID ∨
      ∃ payload now, event = .message ws (.register payload) now ∧
        payload.nodeID = some nodeID ∧ valid payload

/-- What the clients have to do for that. -/
structure Honest (valid : RegisterPayload J → Prop) (events : List (Event J)) :
    Prop where
  sender : ∀ before ws kind payload now after,
    events = before ++ .message ws (.targeted kind payload) now :: after →
    ∀ nodeID target, payload.fromNodeID = some nodeID → payload.toNodeID = some target →
      ((serverAfter before).peers.find? target).isSome →
      registrant before nodeID = some ws
  registered : ∀ before ws payload now after,
    events = before ++ .message ws (.register payload) now :: after →
    ∀ nodeID, payload.nodeID = some nodeID → (serverAfter before).RefersTo ws nodeID ∨ valid payload

namespace Server

variable {server : Server J} {ws : Socket} {nodeID : String}

theorem find?_refresh (server : Server J) (ws : Socket) (now : ℕ) (nodeID : String) :
    ((server.refresh ws now).peers.find? nodeID).map RelayPeer.ws =
      (server.peers.find? nodeID).map RelayPeer.ws := by
  rw [refresh]
  split
  · rfl
  · rw [find?_modify]
    split
    · rw [Option.map_map]
      congr 1
      funext peer
      rw [Function.comp_apply]
      split <;> rfl
    · rfl

theorem refersTo_iff : server.RefersTo ws nodeID ↔
    (server.peers.find? nodeID).map RelayPeer.ws = some ws := by
  rw [Option.map_eq_some_iff]
  rfl

theorem refersTo_refresh :
    (server.refresh other now).RefersTo ws nodeID ↔ server.RefersTo ws nodeID := by
  rw [refersTo_iff, refersTo_iff, find?_refresh]

theorem refersTo_handleRegister : (server.handleRegister other payload now).1.RefersTo ws nodeID ↔
      if payload.nodeID = some nodeID then other = ws
      else server.RefersTo ws nodeID := by
  rw [handleRegister]
  split
  · next missing => simp [missing]
  · next registered named =>
      rw [RefersTo, find?_upsert]
      by_cases same : nodeID = registered
      · simp [named, same]
      · have different : payload.nodeID ≠ some nodeID := by
          rw [named]
          exact fun isSame => same (Option.some.inj isSame).symm
        rw [if_neg same, if_neg different]
        rfl

theorem refersTo_of_step (refers : (server.step event).1.RefersTo ws nodeID) :
    server.RefersTo ws nodeID ∨ ∃ payload now, event = .message ws (.register payload) now ∧
        payload.nodeID = some nodeID := by
  cases event with
  | close other =>
    left
    obtain ⟨peer, found, isSocket⟩ := refers
    refine ⟨peer, ?_, isSocket⟩
    rcases server.peers_handleClose_cases other with ⟨last, isLast, own⟩ | ⟨same, -⟩
    · rw [step, (handleClose_of_refersTo isLast own).1] at found
      exact find?_deleteWhere_eq_some found
    · rwa [step, same] at found
  | message other incoming now =>
    cases incoming with
    | register payload =>
      rw [step, handleMessage, refersTo_handleRegister] at refers
      split at refers
      · next named =>
          right
          exact ⟨payload, now, by rw [refers], named⟩
      · left
        exact refersTo_refresh.mp refers
    | invalidJson => exact .inl refers
    | empty => exact .inl refers
    | throws | discover | targeted | unsupported => exact .inl (refersTo_refresh.mp refers)

theorem forwarded_mem_step : .send receiver (.forwarded kind payload) ∈ (server.step event).2 ↔
      ∃ ws now target, event = .message ws (.targeted kind payload) now ∧
        payload.toNodeID = some target ∧ server.RefersTo receiver target := by
  cases event with
  | close ws =>
    rw [step, handleClose]
    split
    · simp
    · dsimp only
      split
      · simp
      · split <;> simp [broadcast]
  | message ws incoming now =>
    cases incoming with
    | targeted sentKind sent =>
      simp only [refersTo_iff, ← server.find?_refresh ws now]
      rw [step, handleMessage, forwardToTarget]
      cases toTarget : sent.toNodeID with
      | none => grind
      | some target =>
        cases found : (server.refresh ws now).peers.find? target with
        | none => grind
        | some peer =>
          simp only [Option.bind_some, found, mem_singleton, Output.send.injEq,
            RelayMessage.forwarded.injEq]
          constructor
          · rintro ⟨rfl, rfl, rfl⟩
            exact ⟨ws, now, target, rfl, toTarget, by rw [found]; rfl⟩
          · grind
    | register registered =>
      rw [step, handleMessage, handleRegister]
      split
      · simp
      · dsimp only
        split <;> split <;> simp [broadcast]
    | invalidJson | empty | throws | unsupported => simp [step, handleMessage]
    | discover requestingNodeID => simp [step, handleMessage, handleDiscover]

end Server

/-- Messages are delivered under the name of whoever sent them, and nodes are
registered with a valid signature, if and only if the clients see to it. -/
theorem authentic_iff_honest (valid : RegisterPayload J → Prop) (events : List (Event J)) :
    Authentic valid events ↔ Honest valid events := by
  constructor
  · intro authentic
    constructor
    · intro before ws kind payload now after split nodeID target named toTarget found
      obtain ⟨peer, found⟩ := Option.isSome_iff_exists.mp found
      obtain ⟨socket, incoming, time, isMessage, registered⟩ :=
        authentic.sender before _ after split peer.ws kind payload nodeID
          (Server.forwarded_mem_step.mpr ⟨ws, now, target, rfl, toTarget, peer, found, rfl⟩) named
      injection isMessage with isSocket
      rwa [isSocket]
    · intro before ws payload now after split nodeID named
      have refers : ((serverAfter before).step
          (.message ws (.register payload) now)).1.RefersTo ws nodeID := by
        rw [Server.step, Server.handleMessage, Server.refersTo_handleRegister, if_pos named]
      obtain old | ⟨sent, time, isSent, -, isValid⟩ :=
        authentic.registered before _ after split ws nodeID refers
      · exact .inl old
      · injection isSent with _ isRegister
        injection isRegister with isPayload
        rw [isPayload]
        exact .inr isValid
  · intro honest
    constructor
    · intro before event after split receiver kind payload nodeID sent named
      obtain ⟨ws, now, target, rfl, toTarget, peer, found, -⟩ := Server.forwarded_mem_step.mp sent
      have registered := honest.sender before ws kind payload now after split
        nodeID target named toTarget (by rw [found]; rfl)
      exact ⟨ws, _, now, rfl, registered⟩
    · intro before event after split ws nodeID refers
      obtain old | ⟨payload, now, rfl, named⟩ := Server.refersTo_of_step refers
      · exact .inl old
      · obtain old | isValid := honest.registered before ws payload now after split nodeID named
        · exact .inl old
        · exact .inr ⟨payload, now, rfl, named, isValid⟩

/-- A registered node sends a message in the name of another. -/
def forgery : List (Event Unit) :=
  [registration 1 "victim", registration 2 "attacker", registration 3 "target",
    .message 2 (.targeted .relayData ⟨some "victim", some "target", ()⟩) 0]

/-- The message is delivered as the victim's, though every signature is valid;
and a registration without a valid signature is accepted. -/
theorem forgery_not_authentic : ¬ Authentic (fun _ => True) forgery ∧
      ¬ Authentic (fun _ => False) [registration 1 "victim"] := by
  constructor
  · intro authentic
    have delivered : .send 3 (.forwarded .relayData ⟨some "victim", some "target", ()⟩) ∈
          ((serverAfter (forgery.take 3)).step
            (.message 2 (.targeted .relayData ⟨some "victim", some "target", ()⟩) 0)).2 :=
      mem_singleton.mpr rfl
    obtain ⟨ws, incoming, now, isMessage, registered⟩ :=
      authentic.sender (forgery.take 3) _ [] rfl _ _ _ "victim" delivered rfl
    injection isMessage with isSocket
    rw [← isSocket] at registered
    exact absurd registered (by decide)
  · intro authentic
    obtain ⟨peer, found, -⟩ | ⟨payload, now, -, -, isValid⟩ :=
      authentic.registered [] (registration 1 "victim") [] rfl 1 "victim"
        ⟨⟨1, (), none, (), (), 0⟩, rfl, rfl⟩
    · cases found
    · exact isValid

end Teale.Relay
