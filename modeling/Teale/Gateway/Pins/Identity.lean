import Teale.Gateway.Pins.Requests
import Teale.Node.Pin.Manager

/-!
# Who a member is

A member has a node key, by which the registry finds it, and a WireGuard key, by which its peers
authenticate it. The gateway stores what the device sends.
-/

namespace Teale.Gateway.Pins

open Relational Transactional Service Protocol List Option Relational.Table
open Teale.Node.Pin (PinState)
open Teale.Node.Pin.PinManager (memberIn memberOf memberForWgKey)

/-- The device a WireGuard key belongs to, by the key in small letters. -/
abbrev KeyOwner := String → Option DeviceId

def KeyOwner.Allows (owner : KeyOwner) (deviceId : DeviceId) (key : String) : Prop :=
  key = "" ∨ owner (RustText.toAsciiLowercase key) = some deviceId

/-- The caller sends its own keys: the node key it authenticates with, which is
its device id, and a WireGuard key it owns. -/
def Visit.SendsOwnKeys (owner : KeyOwner) (visit : Visit) : Prop :=
  ∀ deviceId, visit.principal = .device deviceId →
    (∀ req, visit.request = .join req → req.nodePubkey = deviceId) ∧
    ∀ pinId req, visit.request = .network pinId (.sync req) → owner.Allows deviceId req.wgPubkey

/-! ## The rows -/

structure MemberRow.HasKeysOf (row : MemberRow) (owner : KeyOwner)
    (deviceId : DeviceId) : Prop where
  nodePubkey : row.nodePubkey = deviceId
  wgPubkey : owner.Allows deviceId row.wgPubkey

def Networks.Identified (owner : KeyOwner) (networks : Networks) : Prop :=
  ∀ pinId deviceId row, networks.members.find? (pinId, deviceId) = some row →
    row.HasKeysOf owner deviceId

theorem execute_identified {codec : Codec} {visit : Visit}
    (honest : visit.SendsOwnKeys owner) (networks : Networks) (call : PinCall)
    (after : Networks) (permitted : Permits visit.principal visit.request call)
    (identified : networks.Identified owner) (ran : call.execute codec networks = .ok after) :
    after.Identified owner := by
  intro pinId deviceId row found
  have step := execute_row ran pinId deviceId
  rw [found] at step
  generalize stored : networks.members.find? (pinId, deviceId) = old at step
  cases step with
  | join =>
    obtain ⟨isDevice, req, isJoin, rfl⟩ := permitted
    exact ⟨(honest deviceId isDevice).1 req isJoin, .inl rfl⟩
  | knock =>
    obtain ⟨isDevice, req, isJoin, rfl⟩ := permitted
    exact ⟨(honest deviceId isDevice).1 req isJoin, (identified _ _ _ stored).wgPubkey⟩
  | advertise =>
    obtain ⟨isDevice, req, isSync, rfl⟩ := permitted
    exact ⟨(identified _ _ _ stored).nodePubkey, (honest deviceId isDevice).2 pinId req isSync⟩
  | keep _ sameNode sameWg =>
    obtain ⟨node, wg⟩ := identified _ _ _ stored
    exact ⟨sameNode.trans node, sameWg ▸ wg⟩
  | same | approve | remove | switch =>
    obtain ⟨node, wg⟩ := identified _ _ _ stored
    exact ⟨node, wg⟩

/-! ## The netmaps -/

structure Unambiguous (owner : KeyOwner) (netmap : PinNetmap) : Prop where
  distinct : netmap.members.Pairwise fun member other =>
    member.nodePubkey ≠ other.nodePubkey ∧ (member.wgPubkey ≠ "" → member.wgPubkey ≠ other.wgPubkey)
  nodePubkey : ∀ member ∈ netmap.members, member.nodePubkey = member.deviceId
  wgPubkey : ∀ member ∈ netmap.members, owner.Allows member.deviceId member.wgPubkey

theorem Networks.pairwise_membersOf (networks : Networks) (pinId : PinId) :
    (networks.membersOf pinId).Pairwise fun member other => member.1 ≠ other.1 := by
  apply (perm_insertionSort _ _).symm.pairwise _ fun different => different.symm
  rw [pairwise_filterMap]
  have keysDiffer := pairwise_map.mp networks.members.keysNodup
  apply keysDiffer.imp
  intro row other different member picked member' picked' same
  split at picked
  · next inNetwork =>
      split at picked'
      · next inNetwork' =>
          cases picked
          cases picked'
          exact different (Prod.ext (inNetwork.1.trans inNetwork'.1.symm) same)
      · cases picked'
  · cases picked

theorem Networks.Identified.unambiguous
    (identified : networks.Identified owner) (codec : Codec) (pinId : PinId)
    (pin : PinRow) (live : Live) (now : Timestamp) :
    Unambiguous owner (assembleNetmap codec networks pinId pin live now) := by
  have keysOf : ∀ member ∈ (networks.membersOf pinId).filter (fun member =>
      member.2.status = .active || member.2.status = .disabled),
      member.2.HasKeysOf owner member.1 := by
    intro member listed
    have stored := (networks.mem_membersOf pinId member).mp (mem_filter.mp listed).1
    exact identified pinId member.1 member.2 stored.1
  have ofRow : ∀ member ∈ (assembleNetmap codec networks pinId pin live
      now).members, member.nodePubkey = member.deviceId ∧
        owner.Allows member.deviceId member.wgPubkey := by
    intro shown listed
    obtain ⟨member, isMember, rfl⟩ := mem_map.mp listed
    exact ⟨(keysOf member isMember).nodePubkey, (keysOf member isMember).wgPubkey⟩
  refine ⟨?_, fun member listed => (ofRow member listed).1,
    fun member listed => (ofRow member listed).2⟩
  rw [assembleNetmap, pairwise_map]
  have devicesDiffer := (networks.pairwise_membersOf pinId).filter fun member =>
    member.2.status = .active || member.2.status = .disabled
  refine devicesDiffer.imp_of_mem ?_
  intro member other listed listed' different
  have keys := keysOf member listed
  have keys' := keysOf other listed'
  refine ⟨?_, fun isSet same => ?_⟩
  · intro same
    exact different (keys.nodePubkey.symm.trans (same.trans keys'.nodePubkey))
  · have sameKey : member.2.wgPubkey = other.2.wgPubkey := same
    have owned := keys.wgPubkey.resolve_left isSet
    have owned' := keys'.wgPubkey.resolve_left (sameKey ▸ isSet)
    rw [sameKey, owned'] at owned
    exact different (some.inj owned).symm

def Signed (codec : Codec) (visits : List Visit) (signed : SignedPinNetmap) : Prop :=
  ∃ visit response, (visit, .ok (.sync response)) ∈ history codec {} visits ∧
    response.netmap = some signed

theorem memberForWgKey_owner {J : Type} {values : List (PinState J)}
    (unambiguous : ∀ entry ∈ values, ∀ signed, entry.netmap = some signed →
      Unambiguous owner signed.netmap) {key pinId : String}
    {member : PinNetmapMember} (isSet : key ≠ "")
    (found : memberForWgKey values key = some (pinId, member)) :
    owner (RustText.toAsciiLowercase key) = some member.deviceId := by
  obtain ⟨entry, listed, inEntry⟩ := exists_of_findSome?_eq_some found
  obtain ⟨member, ofEntry, isMember⟩ := map_eq_some_iff.mp inEntry
  cases isMember
  rw [memberOf] at ofEntry
  split at ofEntry
  · obtain ⟨signed, cached, inNetmap⟩ := bind_eq_some_iff.mp ofEntry
    have isListed := mem_of_find?_eq_some inNetmap
    have matched := find?_some inNetmap
    simp only [Bool.and_eq_true, RustText.eqIgnoreAsciiCase, beq_iff_eq] at matched
    rw [← matched.2]
    apply ((unambiguous entry listed signed cached).wgPubkey member isListed).resolve_left
    intro unset
    apply isSet
    have noLetters := congrArg String.toList matched.2
    simp only [unset, RustText.toAsciiLowercase, String.toList_ofList,
      String.toList_empty, map_nil, nil_eq, map_eq_nil_iff,
      String.toList_eq_nil_iff] at noLetters
    exact noLetters
  · cases ofEntry

/-- While every device sends its own keys, a netmap has no key twice, every
member has the node key its device authenticates with, and what is found by a
key, in the registry or in the netmaps of a node, is the device that owns it. -/
theorem members_have_own_keys (J : Type) (codec : Codec) (owner : KeyOwner) (visits : List Visit)
    (honest : ∀ visit ∈ visits, visit.SendsOwnKeys owner) :
    (∀ signed, Signed codec visits signed → Unambiguous owner signed.netmap) ∧
    (∀ visit response, (visit, .ok (.schedule response)) ∈ history codec {} visits →
      ∃ device ∈ visit.setting.devices, response.nodePubkey = device.nodeId ∧
          response.deviceId = device.nodeId) ∧ ∀ values : List (PinState J),
      (∀ entry ∈ values, ∀ signed, entry.netmap = some signed → Signed codec visits signed) →
      ∀ key pinId member, key ≠ "" → memberForWgKey values key = some (pinId, member) →
        owner (RustText.toAsciiLowercase key) = some member.deviceId := by
  have preserved : ∀ visit ∈ visits, ∀ networks call after,
      Permits visit.principal visit.request call →
      Networks.Identified owner networks →
      call.execute codec networks = .ok after → after.Identified owner :=
    fun visit listed => execute_identified (honest visit listed)
  have initially : Networks.Identified owner {} := by
    intro _ _ _ found
    cases found
  have unambiguous : ∀ signed, Signed codec visits signed → Unambiguous owner signed.netmap := by
    rintro signed ⟨visit, response, answered, isSigned⟩
    obtain ⟨-, after, identified, shows⟩ := exists_of_mem_history preserved initially answered
    obtain ⟨pinId, pin, isNetmap⟩ := shows _ rfl signed isSigned
    rw [isNetmap]
    exact identified.unambiguous codec pinId pin _ _
  refine ⟨unambiguous, ?_, ?_⟩
  · intro visit response answered
    obtain ⟨-, after, identified, shows⟩ := exists_of_mem_history preserved initially answered
    obtain ⟨pinId, device, live, member, serving, hasKey, isMember, named⟩ := shows _ rfl
    have stored := (after.mem_membersOf pinId member).mp (mem_filter.mp serving).1
    have keys := identified pinId member.1 member.2 stored.1
    refine ⟨device, live, named, ?_⟩
    rw [isMember, ← keys.nodePubkey, hasKey]
  · intro values cached key pinId member isSet found
    apply memberForWgKey_owner _ isSet found
    intro entry listed signed isCached
    exact unambiguous signed (cached entry listed signed isCached)

def twoMembers (nodePubkey wgPubkey : String) : List Visit :=
  [byOwner 0 (.createPin "lab"), byDevice "e" 1 (.join ⟨"AAAA", none, nodePubkey⟩),
    byOwner 2 (.network "n" (.approveMember "e")),
    byDevice "e" 3 (.network "n" (.sync { wgPubkey })),
    byDevice "e" 4 (.network "n" (.schedule { model := "m" })),
    byDevice "d" 5 (.join ⟨"AAAA", none, "d"⟩),
    byOwner 6 (.network "n" (.approveMember "d")),
    byDevice "d" 7 (.network "n" (.sync { wgPubkey := "aa" }))]

def labOwner : KeyOwner := fun key =>
  if key = "aa" then some "d" else if key = "bb" then some "e" else none

def labMember (deviceId nodePubkey wgPubkey : String) (lastSeen : Timestamp) : PinNetmapMember where
  deviceId
  nodePubkey
  wgPubkey
  displayName := none
  servesModels := true
  offersExit := false
  disabled := false
  endpoints := []
  loadedModels := []
  lastSeen := some lastSeen

def labNetmap (nodePubkey wgPubkey : String) : SignedPinNetmap where
  netmap :=
    { pinId := "n"
      name := "lab"
      generation := 3
      issuedAt := 7
      members := [labMember "e" nodePubkey wgPubkey 3, labMember "d" "d" "aa" 7] }
  gatewayPubkey := "gateway"
  signature := "signature"

def labAnswer (nodePubkey wgPubkey : String) : SyncResponse where
  membership := "active"
  netmap := some (labNetmap nodePubkey wgPubkey)
  settings := some {}

theorem exists_mem_history (place : ℕ)
    (answered : ((history codec networks visits).map Prod.snd)[place]? = some answer) :
    ∃ visit, (visit, answer) ∈ history codec networks visits := by
  rw [getElem?_map] at answered
  obtain ⟨⟨visit, _⟩, found, rfl⟩ := map_eq_some_iff.mp answered
  exact ⟨visit, mem_of_getElem? found⟩

theorem signed_labNetmap {nodePubkey wgPubkey : String}
    (answered : ((history blankCodec {} (twoMembers nodePubkey wgPubkey)).map
        Prod.snd)[7]? = some (.ok (.sync (labAnswer nodePubkey wgPubkey)))) :
    Signed blankCodec (twoMembers nodePubkey wgPubkey) (labNetmap nodePubkey wgPubkey) := by
  obtain ⟨visit, listed⟩ := exists_mem_history 7 answered
  exact ⟨visit, _, listed, rfl⟩

theorem members_have_own_keys_twoMembers :
    Signed blankCodec (twoMembers "e" "bb") (labNetmap "e" "bb") ∧
      Unambiguous labOwner (labNetmap "e" "bb").netmap := by
  have signed : Signed blankCodec (twoMembers "e" "bb") (labNetmap "e" "bb") :=
    signed_labNetmap (by decide +kernel)
  refine ⟨signed, (members_have_own_keys Unit blankCodec labOwner
    (twoMembers "e" "bb") ?_).1 _ signed⟩
  intro visit listed deviceId isDevice
  simp only [twoMembers, mem_cons, not_mem_nil, or_false] at listed
  rcases listed with rfl | rfl | rfl | rfl | rfl | rfl | rfl | rfl <;> cases isDevice <;>
    exact ⟨by rintro req ⟨⟩ <;> rfl, by rintro pinId req ⟨⟩ <;> exact Or.inr (by decide +kernel)⟩
/-- A device may send the keys of another one. Before `d` is a member `e` is
scheduled in its place, and afterwards the key of `d` leads to `e`. -/
theorem borrowed_keys_ambiguous : (∃ visit, (visit, .ok (.schedule ⟨"e", "d", none, []⟩)) ∈
        history blankCodec {} (twoMembers "d" "aa")) ∧
    Signed blankCodec (twoMembers "d" "aa") (labNetmap "d" "aa") ∧
    (∀ owner, ¬ Unambiguous owner (labNetmap "d" "aa").netmap) ∧ memberForWgKey
        [({ pinId := "n", name := "lab", membership := "active",
            netmap := some (labNetmap "d" "aa") } : PinState Unit)] "aa" =
      some ("n", labMember "e" "d" "aa" 3) := by
  refine ⟨exists_mem_history 4 (by decide +kernel), signed_labNetmap (by decide +kernel),
    ?_, by decide +kernel⟩
  intro owner unambiguous
  have distinct := unambiguous.distinct
  simp [labNetmap, labMember] at distinct

end Teale.Gateway.Pins
