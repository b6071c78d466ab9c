import Teale.Lib.Table
import Teale.Lib.Transaction
import Teale.Protocol.Netmap

/-!
# The membership manager

`node/src/pin/manager.rs`: a device caches the signed netmap of each of its networks and lets
those peers connect that a cached netmap lists. The key of the gateway is configured, or it is the
first one the device sees.
-/

namespace Teale.Node.Pin

open Relational Transactional Protocol List Bytes RustText

/-! ## State -/

structure PinMembership where
  pinId : String
  name : String
  status : String
  deriving DecidableEq, Repr

/-- `PinState`; `J` are the JSON values that are only passed on. -/
structure PinState (J : Type) where
  pinId : String
  name : String
  membership : String := ""
  netmap : Option SignedPinNetmap := none
  settings : Option J := none
  modelPolicy : List J := []
  deriving DecidableEq, Repr

/-- The data directory: `gateway.pub`, and the `netmap.json` of every directory
that has one. -/
structure DataDir where
  gatewayPub : Option String := none
  netmaps : Table String SignedPinNetmap := ∅

/-- `PinManager`: the fields that change, and its data directory. -/
structure PinManager (J : Type) where
  pinnedGatewayKey : Option String
  state : Table String (PinState J) := ∅
  dataDir : DataDir := {}

/-- What a manager is started with: the check of signatures and the configured
key of the gateway. -/
structure Trust where
  check : SignatureCheck
  configuredGatewayPubkey : Option String

variable {J : Type}

/-! ## Netmaps -/

inductive AcceptError
  | persistKey
  | signature (pinId : String)
  | stale (pinId : String)
  | persistNetmap
  deriving DecidableEq, Repr

def AcceptError.text : AcceptError → String
  | persistKey => "persist pinned gateway key"
  | signature pinId => "netmap signature verification failed for network " ++ pinId
  | stale pinId => "netmap for network " ++ pinId ++ " is stale"
  | persistNetmap => "persist netmap"

structure Writes where
  key : Bool := true
  netmap : Bool := true
  deriving DecidableEq, Repr

namespace PinManager

/-- The first half of `accept_netmap`: the key netmaps are checked with, which
is pinned when there is none. -/
def pinGatewayKey (manager : PinManager J) (writes : Writes)
    (signed : SignedPinNetmap) : Except AcceptError (String × PinManager J) :=
  match manager.pinnedGatewayKey with
  | some key => .ok (key, manager)
  | none =>
    if writes.key then
      .ok (signed.gatewayPubkey, { manager with
          pinnedGatewayKey := some signed.gatewayPubkey
          dataDir :=
            { manager.dataDir with
              gatewayPub := some signed.gatewayPubkey } })
    else
      .error .persistKey

/-- The netmap is written to its file and to the entry of the network. -/
def store (manager : PinManager J) (pinId : String) (signed : SignedPinNetmap) : PinManager J :=
  { manager with
    state := manager.state.modify pinId fun entry =>
      { entry with netmap := some signed }
    dataDir :=
      { manager.dataDir with
        netmaps := manager.dataDir.netmaps.upsert pinId signed } }

/-- `accept_netmap`: the manager it leaves, and what it returns. -/
def acceptNetmap (check : SignatureCheck) (manager : PinManager J)
    (writes : Writes) (now : ℤ) (pinId : String) (signed : SignedPinNetmap) :
    PinManager J × Except AcceptError Unit :=
  match manager.pinGatewayKey writes signed with
  | .error failure => (manager, .error failure)
  | .ok (pinned, manager) =>
    if signed.verify check pinned = false then
      (manager, .error (.signature pinId))
    else if signed.isStale now then
      (manager, .error (.stale pinId))
    else if writes.netmap = false then
      (manager, .error .persistNetmap)
    else
      (manager.store pinId signed, .ok ⟨⟩)

end PinManager

/-! ## Synchronisation -/

structure SyncResponse (J : Type) where
  membership : String
  netmap : Option SignedPinNetmap := none
  modelPolicy : List J := []
  settings : Option J := none
  deriving DecidableEq, Repr

/-- The sync request of one network: the answer, if there is one, the time it
is read and the files that can be written. -/
structure Reply (J : Type) where
  response : Option (SyncResponse J)
  now : ℤ
  writes : Writes := {}
  deriving DecidableEq, Repr

/-- `sync_once` ends with an error when a request or a netmap fails. -/
inductive SyncError
  | request
  | accept (failure : AcceptError)
  deriving DecidableEq, Repr

namespace PinManager

def prune (manager : PinManager J) (memberships : List PinMembership) : PinManager J :=
  { manager with
    state := manager.state.deleteWhere fun pinId _ =>
      !(memberships.map PinMembership.pinId).contains pinId }

/-- The entry of a network after the gateway's answer, with the netmap it had. -/
def record (manager : PinManager J) (membership : PinMembership)
    (response : SyncResponse J) : PinManager J :=
  let entry := (manager.state.find? membership.pinId).getD
    { pinId := membership.pinId, name := membership.name }
  { manager with
    state := manager.state.upsert membership.pinId
      { entry with
        name := membership.name
        membership := response.membership
        modelPolicy := response.modelPolicy
        settings := response.settings } }

/-- One turn of the loop of `sync_once`. -/
def syncNetwork (check : SignatureCheck) (manager : PinManager J)
    (membership : PinMembership) (reply : Reply J) : PinManager J × Except SyncError Unit :=
  match reply.response with
  | none => (manager, .error .request)
  | some response =>
    let recorded := manager.record membership response
    match response.netmap with
    | none => (recorded, .ok ⟨⟩)
    | some signed =>
      let (accepted, result) := recorded.acceptNetmap check reply.writes
        reply.now membership.pinId signed
      (accepted, result.mapError .accept)

/-- The loop of `sync_once`, which the first error ends. -/
def syncAll (check : SignatureCheck) (manager : PinManager J) :
    List (PinMembership × Reply J) → PinManager J × Except SyncError ℕ
  | [] => (manager, .ok 0)
  | (membership, reply) :: rest =>
    match manager.syncNetwork check membership reply with
    | (manager, .error failure) => (manager, .error failure)
    | (manager, .ok _) =>
      let (manager, count) := manager.syncAll check rest
      (manager, count.map (· + 1))

/-- `sync_once`: the listing of `fetch_memberships`, with the reply each listed
network gets, and whether the token for the requests could be had. -/
def syncOnce (check : SignatureCheck) (manager : PinManager J)
    (listing : Option (List (PinMembership × Reply J))) (bearer : Bool) :
    PinManager J × Except SyncError ℕ :=
  match listing with
  | none => (manager, .error .request)
  | some replies =>
    if bearer then
      (manager.prune (replies.map Prod.fst)).syncAll check replies
    else
      (manager, .error .request)

theorem syncOnce_single (check : SignatureCheck) (manager : PinManager J)
    (membership : PinMembership) (reply : Reply J) :
    (manager.syncOnce check (some [(membership, reply)]) true).1 =
      ((manager.prune [membership]).syncNetwork check membership reply).1 := by
  simp only [syncOnce, syncAll, map_cons, map_nil, if_true]
  rcases (manager.prune [membership]).syncNetwork check membership reply with
    ⟨next, _ | _⟩ <;> rfl

/-! ## Restart -/

/-- What `load_cached_netmaps` keeps of one directory. -/
def loadEntry (check : SignatureCheck) (pinned : String) (now : ℤ)
    (dataDir : DataDir) (state : Table String (PinState J))
    (directory : String) : Table String (PinState J) :=
  match dataDir.netmaps.find? directory with
  | none => state
  | some signed =>
    if signed.verify check pinned && !signed.isStale now then
      state.upsert signed.netmap.pinId
        { pinId := signed.netmap.pinId
          name := signed.netmap.name
          membership := "active"
          netmap := some signed }
    else
      state

def startingKey (trust : Trust) (dataDir : DataDir) : Option String :=
  trust.configuredGatewayPubkey.or
    ((dataDir.gatewayPub.map trim).filter fun key => key ≠ "")

/-- `PinManager::new`; `entries` are the directories that `read_dir` finds and
that can be read, in its order. -/
def new (trust : Trust) (now : ℤ) (entries : List String) (dataDir : DataDir) : PinManager J where
  pinnedGatewayKey := startingKey trust dataDir
  state :=
    match startingKey trust dataDir with
    | none => ∅
    | some pinned => entries.foldl (loadEntry trust.check pinned now dataDir) ∅
  dataDir

/-! ## Peers -/

def memberIn (netmap : PinNetmap) (wgPubkeyHex : String) : Option PinNetmapMember :=
  netmap.members.find? fun member =>
    !member.disabled && eqIgnoreAsciiCase member.wgPubkey wgPubkeyHex

def memberOf (entry : PinState J) (wgPubkeyHex : String) : Option PinNetmapMember :=
  if entry.membership = "active" then
    entry.netmap.bind fun signed => memberIn signed.netmap wgPubkeyHex
  else
    none

/-- `authorizer`, for the key in hexadecimal digits. -/
def authorizer (manager : PinManager J) (peerHex : String) : Bool :=
  manager.state.rows.any fun row => (memberOf row.2 peerHex).isSome

/-- `member_for_wg_key`; `values` are the entries in the order of the map. -/
def memberForWgKey (values : List (PinState J)) (wgPubkeyHex : String) :
    Option (String × PinNetmapMember) :=
  values.findSome? fun entry => (memberOf entry wgPubkeyHex).map fun member => (entry.pinId, member)

def servingPeersForModel (values : List (PinState J)) (ownWg modelId : String) :
    List (String × PinNetmapMember) :=
  values.flatMap fun entry =>
    if entry.membership = "active" then
      match entry.netmap with
      | none => []
      | some signed =>
        (signed.netmap.members.filter fun member => !(member.disabled || !member.servesModels ||
            eqIgnoreAsciiCase member.wgPubkey ownWg ||
            !member.loadedModels.contains modelId)).map fun member => (entry.pinId, member)
    else
      []

/-! ## Netmaps that are refused -/

section Accept

variable {check : SignatureCheck} {manager : PinManager J} {writes : Writes}
  {now : ℤ} {pinId : String} {signed : SignedPinNetmap}

theorem pinGatewayKey_error {failure : AcceptError}
    (failed : manager.pinGatewayKey writes signed = .error failure) : failure = .persistKey := by
  rw [pinGatewayKey] at failed
  split at failed
  · cases failed
  · split at failed
    · cases failed
    · cases failed
      rfl

theorem pinGatewayKey_ok (pinned : manager.pinGatewayKey writes signed = .ok (key, pinnedManager)) :
    pinnedManager.pinnedGatewayKey = some key ∧ pinnedManager.state = manager.state ∧
      pinnedManager.dataDir.netmaps = manager.dataDir.netmaps := by
  rw [pinGatewayKey] at pinned
  split at pinned
  · next key known =>
      cases pinned
      exact ⟨known, rfl, rfl⟩
  · split at pinned
    · cases pinned
      exact ⟨rfl, rfl, rfl⟩
    · cases pinned

/-- A netmap is refused, with at most a key pinned, or it is verified, recent
and stored. -/
theorem acceptNetmap_cases
    (check : SignatureCheck) (manager : PinManager J) (writes : Writes) (now : ℤ)
    (pinId : String) (signed : SignedPinNetmap) :
    manager.acceptNetmap check writes now pinId signed = (manager, .error .persistKey) ∨
    ∃ key pinnedManager, manager.pinGatewayKey writes signed = .ok (key, pinnedManager) ∧
      ((∃ failure, manager.acceptNetmap check writes now pinId signed =
          (pinnedManager, .error failure)) ∨
        signed.verify check key = true ∧ signed.isStale now = false ∧
          manager.acceptNetmap check writes now pinId signed =
            (pinnedManager.store pinId signed, .ok ())) := by
  rw [acceptNetmap]
  cases pinned : manager.pinGatewayKey writes signed with
  | error failure =>
    rw [pinGatewayKey_error pinned]
    exact Or.inl rfl
  | ok result =>
    obtain ⟨key, pinnedManager⟩ := result
    refine Or.inr ⟨key, pinnedManager, rfl, ?_⟩
    simp only
    split
    · exact Or.inl ⟨_, rfl⟩
    · next verified =>
        split
        · exact Or.inl ⟨_, rfl⟩
        · next recent =>
            split
            · exact Or.inl ⟨_, rfl⟩
            · exact Or.inr ⟨Bool.eq_true_of_not_eq_false verified,
                Bool.eq_false_of_not_eq_true recent, rfl⟩

/-- A netmap that is refused for its signature or its age leaves the manager as
it was exactly when a key was pinned before. -/
theorem refused_netmap_leaves_no_trace_iff
    (check : SignatureCheck) (manager : PinManager J) (writes : Writes) (now : ℤ)
    (pinId : String) (signed : SignedPinNetmap)
    (refused : (manager.acceptNetmap check writes now pinId signed).2 = .error (.signature pinId) ∨
        (manager.acceptNetmap check writes now pinId signed).2 = .error (.stale pinId)) :
    (manager.acceptNetmap check writes now pinId signed).1 = manager ↔
      manager.pinnedGatewayKey.isSome = true := by
  rcases acceptNetmap_cases check manager writes now pinId signed with
    result | ⟨key, pinnedManager, pins, ⟨failure, result⟩ | ⟨_, _, result⟩⟩
  · rw [result] at refused
    simp at refused
  · rw [result]
    constructor
    · intro unchanged
      have nowPinned := (pinGatewayKey_ok pins).1
      have sameManager : pinnedManager = manager := unchanged
      rw [← sameManager, nowPinned]
      rfl
    · intro known
      obtain ⟨before, pinned⟩ := Option.isSome_iff_exists.mp known
      rw [pinGatewayKey, pinned] at pins
      cases pins
      rfl
  · rw [result] at refused
    simp at refused

/-! A check of signatures for the runs below: a key repeats one byte, and so
does a signature made with it. -/

def repeatedKey (byte : UInt8) : String := Bytes.hexEncode (List.replicate 32 byte)

def repeatCheck : SignatureCheck := fun key _ signature => key ++ key == signature

/-- A netmap with the member `d`, whose key is `aa`. -/
def signedBy (key signature : UInt8) (pinId : String)
    (generation issuedAt : ℤ) : SignedPinNetmap where
  netmap :=
    { pinId, name := "lab", generation, issuedAt
      members := [⟨"d", "d", "aa", none, true, false, false, [], [], none⟩] }
  gatewayPubkey := repeatedKey key
  signature := Bytes.hexEncode (List.replicate 64 signature)

theorem verify_signedBy (key signature : UInt8) (pinId : String) (generation issuedAt : ℤ) :
    (signedBy key signature pinId generation issuedAt).verify repeatCheck
      (repeatedKey key) = (key == signature) := by
  simp [SignedPinNetmap.verify, signedBy, repeatedKey, repeatCheck, eqIgnoreAsciiCase]

theorem verify_signedBy_other (signature : UInt8) (pinId : String) (generation issuedAt : ℤ) :
    (signedBy 7 signature pinId generation issuedAt).verify repeatCheck
      (repeatedKey 66) = false := by
  have otherKey : eqIgnoreAsciiCase (repeatedKey 7) (repeatedKey 66) = false := by
    simp only [eqIgnoreAsciiCase, toAsciiLowercase,
      repeatedKey, hexEncode, String.toList_ofList, beq_eq_false_iff_ne,
      ne_eq, String.ofList_inj]
    decide
  simp [SignedPinNetmap.verify, signedBy, otherKey]

theorem acceptNetmap_signedBy_other (pinned : manager.pinnedGatewayKey = some (repeatedKey 66)) :
    (manager.acceptNetmap repeatCheck writes now network
      (signedBy 7 signature pinId generation issuedAt)).2 = .error (.signature network) := by
  simp [acceptNetmap, pinGatewayKey, pinned, verify_signedBy_other]

theorem startingKey_repeatedKey :
    startingKey ⟨repeatCheck, none⟩ { gatewayPub := some (repeatedKey 66) } =
      some (repeatedKey 66) := by
  have chars : (repeatedKey 66).toList = hexDigits (replicate 32 66) := by
    rw [repeatedKey, hexEncode, String.toList_ofList]
  have untrimmed : trimChars (repeatedKey 66).toList = (repeatedKey 66).toList := by
    decide
  have nonempty : repeatedKey 66 ≠ "" := by
    intro empty
    rw [empty] at chars
    exact absurd chars (by decide)
  simp [startingKey, trim, untrimmed, nonempty]

theorem syncNetwork_signedBy (membership : PinMembership)
    (pinned : manager.pinnedGatewayKey = some (repeatedKey 7))
    (carried : response.netmap = some (signedBy 7 7 pinId generation issuedAt))
    (recent : (signedBy 7 7 pinId generation issuedAt).isStale now = false) :
    manager.syncNetwork repeatCheck membership ⟨some response, now, {}⟩ =
      ((manager.record membership response).store membership.pinId
        (signedBy 7 7 pinId generation issuedAt), .ok ()) := by
  have stillPinned : (manager.record membership response).pinnedGatewayKey =
      some (repeatedKey 7) := pinned
  simp [syncNetwork, carried, acceptNetmap, pinGatewayKey, stillPinned,
    verify_signedBy, recent, Except.mapError]

theorem refused_netmap_leaves_no_trace_pinned : (PinManager.acceptNetmap repeatCheck
      ({ pinnedGatewayKey := some (repeatedKey 7) } : PinManager Unit)
      {} 100 "n" (signedBy 7 66 "n" 1 100)).2 = .error (.signature "n") ∧
    (acceptNetmap repeatCheck
      ({ pinnedGatewayKey := some (repeatedKey 7) } : PinManager Unit)
      {} 100 "n" (signedBy 7 66 "n" 1 100)).1 = { pinnedGatewayKey := some (repeatedKey 7) } := by
  have refused : (acceptNetmap repeatCheck
      ({ pinnedGatewayKey := some (repeatedKey 7) } : PinManager Unit)
      {} 100 "n" (signedBy 7 66 "n" 1 100)).2 = .error (.signature "n") := by
    simp [acceptNetmap, pinGatewayKey, verify_signedBy]
  exact ⟨refused, (refused_netmap_leaves_no_trace_iff repeatCheck
    { pinnedGatewayKey := some (repeatedKey 7) } {} 100 "n"
    (signedBy 7 66 "n" 1 100) (Or.inl refused)).mpr rfl⟩

/-- The first netmap has a signature that does not verify. Its key is pinned in
memory and in `gateway.pub`, and the netmap of the gateway is then refused, also
after a restart. -/
theorem refused_netmap_pins_its_key :
    let manager : PinManager Unit := { pinnedGatewayKey := none }
    let forged := signedBy 66 0 "n" 1 100
    let genuine := signedBy 7 7 "n" 1 100
    let after := manager.acceptNetmap repeatCheck {} 100 "n" forged
    let restarted : PinManager Unit :=
      new ⟨repeatCheck, none⟩ 100 [] after.1.dataDir
    after.2 = .error (.signature "n") ∧ after.1.pinnedGatewayKey = some forged.gatewayPubkey ∧
      after.1.dataDir.gatewayPub = some forged.gatewayPubkey ∧
      (after.1.acceptNetmap repeatCheck {} 100 "n" genuine).2 = .error (.signature "n") ∧
      (restarted.acceptNetmap repeatCheck {} 100 "n" genuine).2 = .error (.signature "n") ∧
      (manager.acceptNetmap repeatCheck {} 100 "n" genuine).2 = .ok () := by
  intro manager forged genuine after restarted
  have isAfter : after =
      ({ pinnedGatewayKey := some (repeatedKey 66)
         dataDir := { gatewayPub := some (repeatedKey 66) } },
        .error (.signature "n")) := by
    have unverified := verify_signedBy 66 0 "n" 1 100
    have itsKey : forged.gatewayPubkey = repeatedKey 66 := rfl
    simp [after, manager, acceptNetmap, pinGatewayKey, itsKey, forged, unverified]
  have keyKept : restarted.pinnedGatewayKey = some (repeatedKey 66) := by
    rw [← startingKey_repeatedKey]
    simp only [restarted, isAfter, new]
  have verified := verify_signedBy 7 7 "n" 1 100
  have recent : (signedBy 7 7 "n" 1 100).isStale 100 = false := by decide
  have itsKey : (signedBy 7 7 "n" 1 100).gatewayPubkey = repeatedKey 7 := rfl
  refine ⟨by rw [isAfter], by rw [isAfter]; rfl, by rw [isAfter]; rfl, ?_,
    acceptNetmap_signedBy_other keyKept, ?_⟩
  · apply acceptNetmap_signedBy_other
    rw [isAfter]
  · simp [acceptNetmap, pinGatewayKey, manager, genuine, itsKey, verified, recent]

end Accept

/-! ## Netmaps that have grown old -/

section Age

def Fresh (signed : SignedPinNetmap) (time : ℤ) : Prop :=
  time - netmapMaxAgeSeconds ≤ signed.netmap.issuedAt ∧ signed.netmap.issuedAt ≤ time

instance (signed : SignedPinNetmap) (time : ℤ) : Decidable (Fresh signed time) :=
  inferInstanceAs (Decidable (_ ∧ _))

def Accepts (manager : PinManager J) (key : String) : Prop :=
  manager.authorizer key = true ∨ ∃ values, values.Perm (manager.state.rows.map Prod.snd) ∧
      (memberForWgKey values key).isSome = true

/-- A netmap issued within the 24 hours lists the key of a member that is not
disabled. -/
def ListedFresh (manager : PinManager J) (time : ℤ) (key : String) : Prop :=
  ∃ pinId entry signed, manager.state.find? pinId = some entry ∧
    entry.netmap = some signed ∧ (memberIn signed.netmap key).isSome = true ∧
    Fresh signed time

theorem memberOf_isSome_iff (entry : PinState J) (key : String) :
    (memberOf entry key).isSome = true ↔
      entry.membership = "active" ∧ ∃ signed, entry.netmap = some signed ∧
        (memberIn signed.netmap key).isSome = true := by
  rw [memberOf]
  split
  · next isActive =>
      cases entry.netmap with
      | none => simp [isActive]
      | some signed => simp [isActive]
  · next inactive => simp [inactive]

/-- Both lookups accept a key for the same reason, and neither reads the time. -/
theorem accepts_iff (manager : PinManager J) (key : String) : Accepts manager key ↔
      ∃ pinId entry signed, manager.state.find? pinId = some entry ∧
        entry.membership = "active" ∧ entry.netmap = some signed ∧
        (memberIn signed.netmap key).isSome = true := by
  have stored : (∃ entry ∈ manager.state.rows.map Prod.snd, (memberOf entry key).isSome = true) ↔
        ∃ pinId entry signed, manager.state.find? pinId = some entry ∧
          entry.membership = "active" ∧ entry.netmap = some signed ∧
          (memberIn signed.netmap key).isSome = true := by
    constructor
    · rintro ⟨entry, member, allowed⟩
      obtain ⟨⟨pinId, _⟩, row, rfl⟩ := mem_map.mp member
      obtain ⟨isActive, signed, cached, listed⟩ := (memberOf_isSome_iff _ key).mp allowed
      exact ⟨pinId, _, signed, Table.mem_rows_iff_find?.mp row,
        isActive, cached, listed⟩
    · rintro ⟨pinId, entry, signed, found, isActive, cached, listed⟩
      refine ⟨entry, mem_map.mpr ⟨(pinId, entry), ?_, rfl⟩, ?_⟩
      · exact Table.mem_rows_iff_find?.mpr found
      · exact (memberOf_isSome_iff entry key).mpr ⟨isActive, signed, cached, listed⟩
  rw [← stored, Accepts]
  constructor
  · rintro (allowed | ⟨values, order, found⟩)
    · obtain ⟨row, member, allowed⟩ := any_eq_true.mp allowed
      exact ⟨row.2, mem_map.mpr ⟨row, member, rfl⟩, allowed⟩
    · rw [memberForWgKey, findSome?_isSome_iff] at found
      obtain ⟨entry, member, allowed⟩ := found
      rw [Option.isSome_map] at allowed
      exact ⟨entry, order.mem_iff.mp member, allowed⟩
  · rintro ⟨entry, member, allowed⟩
    obtain ⟨row, stored, rfl⟩ := mem_map.mp member
    exact Or.inl (any_eq_true.mpr ⟨row, stored, allowed⟩)

theorem memberIn_isSome_iff (netmap : PinNetmap) (key : String) :
    (memberIn netmap key).isSome = true ↔ ∃ member ∈ netmap.members, member.disabled = false ∧
        eqIgnoreAsciiCase member.wgPubkey key = true := by
  rw [memberIn, find?_isSome]
  simp

theorem ListedFresh.congr (same : eqIgnoreAsciiCase first second = true)
    (listed : ListedFresh manager time first) : ListedFresh manager time second := by
  obtain ⟨pinId, entry, signed, found, cached, lists, fresh⟩ := listed
  refine ⟨pinId, entry, signed, found, cached, ?_, fresh⟩
  simp only [eqIgnoreAsciiCase, beq_iff_eq] at same
  simpa only [memberIn, eqIgnoreAsciiCase, same] using lists

end Age

end PinManager

end Teale.Node.Pin
