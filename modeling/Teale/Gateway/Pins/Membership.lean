import Mathlib.Data.Finset.Dedup
import Teale.Gateway.Pins.Store

/-!
# Membership and the generation of a netmap

A device asks, an admin approves, and from then on it is disabled, enabled or removed. A call that
changes what the netmap says of a member raises its generation.
-/

namespace Teale.Gateway.Pins

open Relational Transactional Protocol Option Relational.Table MemberRow

variable {codec : Codec} {displayName : Option String} {call : PinCall}

/-! ## What a netmap says of its members -/

structure Standing where
  nodePubkey : String
  servesModels : Bool
  offersExit : Bool
  disabled : Bool
  deriving DecidableEq, Repr

def identity (member : PinNetmapMember) : DeviceId × Standing :=
  (member.deviceId, ⟨member.nodePubkey, member.servesModels, member.offersExit, member.disabled⟩)

def roster (netmap : PinNetmap) : Finset (DeviceId × Standing) :=
  (netmap.members.map identity).toFinset

def MemberRow.listing (row : MemberRow) : Option Standing :=
  if row.status = .active ∨ row.status = .disabled then
    some ⟨row.nodePubkey, row.servesModels, row.offersExit, row.status = .disabled⟩
  else
    none

namespace Networks

def listing (networks : Networks) (pinId : PinId) (deviceId : DeviceId) : Option Standing :=
  (networks.members.find? (pinId, deviceId)).bind MemberRow.listing

theorem mem_membersOf (networks : Networks) (pinId : PinId) (member : DeviceId × MemberRow) :
    member ∈ networks.membersOf pinId ↔ networks.members.find? (pinId, member.1) = some member.2 ∧
        member.2.status ≠ .removed := by
  rw [membersOf, List.mem_insertionSort, List.mem_filterMap, ← mem_rows_iff_find?]
  constructor
  · rintro ⟨⟨⟨network, deviceId⟩, row⟩, stored, picked⟩
    split at picked
    · next holds =>
        obtain ⟨rfl, kept⟩ := holds
        cases picked
        exact ⟨stored, kept⟩
    · cases picked
  · rintro ⟨stored, kept⟩
    exact ⟨((pinId, member.1), member.2), stored, by simp [kept]⟩

end Networks

/-- A netmap shows every device with its standing, and no other. -/
theorem mem_roster_assembleNetmap
    (codec : Codec) (networks : Networks) (pinId : PinId) (pin : PinRow)
    (live : Live) (now : Timestamp) (deviceId : DeviceId) (standing : Standing) :
    (deviceId, standing) ∈ roster (assembleNetmap codec networks pinId pin live now) ↔
      networks.listing pinId deviceId = some standing := by
  have listed : ∀ member : DeviceId × MemberRow,
        member ∈ (networks.membersOf pinId).filter (fun member =>
            member.2.status = .active || member.2.status = .disabled) ↔
          networks.members.find? (pinId, member.1) = some member.2 ∧
            (member.2.status = .active ∨ member.2.status = .disabled) := by
    intro member
    rw [List.mem_filter, Networks.mem_membersOf]
    cases member.2.status <;> simp
  simp only [roster, assembleNetmap, List.mem_toFinset, List.map_map,
    List.mem_map, listed, Networks.listing, bind_eq_some_iff]
  constructor
  · rintro ⟨member, ⟨found, status⟩, shown⟩
    refine ⟨member.2, ?_, ?_⟩
    · have sameDevice : member.1 = deviceId := congrArg Prod.fst shown
      rw [← sameDevice]
      exact found
    · rw [listing, if_pos status]
      exact congrArg some (congrArg Prod.snd shown)
  · rintro ⟨row, found, shown⟩
    rw [listing] at shown
    split at shown
    · next status =>
        exact ⟨(deviceId, row), ⟨found, status⟩, Prod.ext rfl (some.inj shown)⟩
    · cases shown

theorem roster_assembleNetmap_congr
    (same : ∀ deviceId, networks'.listing pinId deviceId = networks.listing pinId deviceId) :
    roster (assembleNetmap codec' networks' pinId pin' live' now') =
      roster (assembleNetmap codec networks pinId pin live now) := by
  ext ⟨deviceId, standing⟩
  rw [mem_roster_assembleNetmap, mem_roster_assembleNetmap, same]

/-! ## The state machine -/

inductive Transition (networks : Networks) (pinId : PinId)
    (deviceId : DeviceId) :
    PinCall → Option MemberStatus → Option MemberStatus → Prop
  | knock {nodePubkey displayName now status}
      (outside : status ≠ some .active ∧ status ≠ some .disabled) :
      Transition networks pinId deviceId
        (.submitJoin pinId deviceId nodePubkey displayName now) status
        (some .pending)
  | approve {account now} (admin : networks.roleOf pinId account = some .admin) :
      Transition networks pinId deviceId (.approveMember pinId deviceId account now) (some .pending)
        (some .active)
  | deny : Transition networks pinId deviceId (.denyMember pinId deviceId) (some .pending) none
  | remove {remover now status} (inside : status = some .active ∨ status = some .disabled) :
      Transition networks pinId deviceId
        (.removeMember pinId deviceId remover now) status (some .removed)
  | disable :
      Transition networks pinId deviceId (.setMemberDisabled pinId deviceId true) (some .active)
        (some .disabled)
  | enable :
      Transition networks pinId deviceId (.setMemberDisabled pinId deviceId false) (some .disabled)
        (some .active)

namespace Networks

variable (networks : Networks)

section

variable (pinId : PinId)

include pinId

@[simp] theorem pins_updatePinRow (change : PinRow → PinRow) :
    (networks.updatePinRow pinId change).pins = networks.pins.modify pinId change := rfl

@[simp] theorem pins_updateMemberRow (deviceId : DeviceId) (change : MemberRow → MemberRow) :
    (networks.updateMemberRow pinId deviceId change).pins = networks.pins := rfl

@[simp] theorem members_updateMemberRow (deviceId : DeviceId) (change : MemberRow → MemberRow) :
    (networks.updateMemberRow pinId deviceId change).members =
      networks.members.modify (pinId, deviceId) change := rfl

end

end Networks

/-! ## What a call does when it succeeds -/

def Bumped (networks after : Networks) (pinId : PinId) : Prop :=
  after.pins = (networks.bumpGeneration pinId).pins

/-- What a call does to the row of a device. -/
inductive RowStep (networks after : Networks) (pinId : PinId) (deviceId : DeviceId) :
    PinCall → Option MemberRow → Option MemberRow → Prop
  | same {call row} : RowStep networks after pinId deviceId call row row
  | join {nodePubkey displayName now} : RowStep networks after pinId deviceId
      (.submitJoin pinId deviceId nodePubkey displayName now) none
      (some { nodePubkey, displayName, requestedAt := now })
  | knock {nodePubkey displayName now row}
      (outside : row.status = .pending ∨ row.status = .removed) :
      RowStep networks after pinId deviceId
        (.submitJoin pinId deviceId nodePubkey displayName now) (some row)
        (some (row.knock nodePubkey displayName now))
  | approve {account now row} (admin : networks.roleOf pinId account = some .admin)
      (waiting : row.status = .pending) (bumped : Bumped networks after pinId) :
      RowStep networks after pinId deviceId (.approveMember pinId deviceId account now) (some row)
        (some (row.approve account now))
  | deny {row} (waiting : row.status = .pending) :
      RowStep networks after pinId deviceId (.denyMember pinId deviceId) (some row) none
  | remove {remover now row} (inside : row.status = .active ∨ row.status = .disabled)
      (bumped : Bumped networks after pinId) :
      RowStep networks after pinId deviceId (.removeMember pinId deviceId remover now) (some row)
        (some (row.expel remover now))
  | switch {disabled row} (was : row.status = if disabled then .active else .disabled)
      (bumped : Bumped networks after pinId) :
      RowStep networks after pinId deviceId (.setMemberDisabled pinId deviceId disabled) (some row)
        (some (row.setStatus (if disabled then .disabled else .active)))
  | advertise {endpoints models wgPubkey now row} : RowStep networks after pinId deviceId
      (.updateMemberEndpoints pinId deviceId endpoints models wgPubkey now) (some row)
      (some (row.advertise endpoints models wgPubkey now))
  | keep {call row row'} (status : row'.status = row.status)
      (nodePubkey : row'.nodePubkey = row.nodePubkey) (wgPubkey : row'.wgPubkey = row.wgPubkey)
      (listing : row'.listing = row.listing ∨ Bumped networks after pinId) :
      RowStep networks after pinId deviceId call (some row) (some row')

/-- How a call may change the networks: one is new, or one changes, whose
generation does not fall and which stays deleted. -/
inductive PinsStep (pins : Table PinId PinRow) : Table PinId PinRow → Prop
  | same : PinsStep pins pins
  | insert (pinId : PinId) (row : PinRow) : PinsStep pins (pins.insertOrIgnore pinId row)
  | modify (pinId : PinId) (change : PinRow → PinRow)
      (rises : ∀ row, row.netmapGeneration ≤ (change row).netmapGeneration)
      (staysDeleted : ∀ row, row.deletedAt.isSome → (change row).deletedAt.isSome) :
      PinsStep pins (pins.modify pinId change)

def PinCall.onMembers : PinCall → Bool
  | .submitJoin .. | .approveMember .. | .denyMember .. | .removeMember ..
  | .setMemberDisabled .. | .updateMember .. | .touchMemberLastSeen ..
  | .setMemberOffersExit .. | .updateMemberEndpoints ..
  | .setAllowRemoteModels .. => true
  | _ => false

section Steps

variable {networks after : Networks} {network : PinId} {device : DeviceId}

theorem PinsStep.update (networks : Networks) (pinId : PinId) (change : PinRow → PinRow)
    (rises : ∀ row, row.netmapGeneration ≤ (change row).netmapGeneration)
    (staysDeleted : ∀ row, row.deletedAt.isSome → (change row).deletedAt.isSome) :
    PinsStep networks.pins (networks.updatePinRow pinId change).pins :=
  .modify pinId change rises staysDeleted

theorem PinsStep.bump (networks : Networks) (pinId : PinId) :
    PinsStep networks.pins (networks.bumpGeneration pinId).pins :=
  .update networks pinId _ (by simp) fun _ => id

theorem PinsStep.find? {pins pins' : Table PinId PinRow} (step : PinsStep pins pins')
    {row : PinRow} (found : pins.find? pinId = some row) :
    ∃ row', pins'.find? pinId = some row' ∧ row.netmapGeneration ≤ row'.netmapGeneration ∧
      (row.deletedAt.isSome → row'.deletedAt.isSome) := by
  cases step with
  | same => exact ⟨row, found, le_refl _, id⟩
  | insert network new =>
    refine ⟨row, ?_, le_refl _, id⟩
    rw [find?_insertOrIgnore]
    split
    · next sameKey =>
        subst sameKey
        rw [found]
        rfl
    · exact found
  | modify network change rises staysDeleted =>
    rw [find?_modify, found]
    split
    · exact ⟨change row, rfl, rises row, staysDeleted row⟩
    · exact ⟨row, rfl, le_refl _, id⟩

theorem status_of_found {status : MemberStatus} {row : MemberRow}
    (known : networks.memberStatus network device = some status)
    (found : networks.members.find? (network, device) = some row) : row.status = status := by
  simpa [Networks.memberStatus, found] using known

theorem RowStep.of_modify {change : MemberRow → MemberRow}
    (members : after.members = networks.members.modify (network, device) change)
    (step : ∀ row, networks.members.find? (network, device) = some row →
      RowStep networks after network device call (some row) (some (change row)))
    (pinId : PinId) (deviceId : DeviceId) : RowStep networks after pinId deviceId call
      (networks.members.find? (pinId, deviceId)) (after.members.find? (pinId, deviceId)) := by
  rw [members, find?_modify]
  split
  · next sameKey =>
      cases sameKey
      cases found : networks.members.find? (network, device) with
      | none => exact .same
      | some row => exact step row found
  · exact .same

/-- The calls on members, one row each; those a netmap shows raise its
generation. -/
theorem execute_rows (onMembers : call.onMembers = true)
    (ran : call.execute codec networks = .ok after) :
    (∀ pinId deviceId, RowStep networks after pinId deviceId call
      (networks.members.find? (pinId, deviceId)) (after.members.find? (pinId, deviceId))) ∧
    PinsStep networks.pins after.pins := by
  cases call with
  | submitJoin network device nodePubkey displayName now =>
    rw [PinCall.execute, submitJoin] at ran
    split at ran
    · next unknown =>
        simp only [ok_iff] at ran
        obtain ⟨_, rfl⟩ := ran
        refine ⟨fun pinId deviceId => ?_, .same⟩
        rw [find?_insertOrIgnore]
        split
        · next sameKey =>
            cases sameKey
            rw [map_eq_none_iff.mp unknown]
            exact .join
        · exact .same
    · next known =>
        cases ran
        exact ⟨.of_modify rfl fun _ found => .knock (.inl (status_of_found known found)), .same⟩
    · next known =>
        cases ran
        exact ⟨.of_modify rfl fun _ found => .knock (.inr (status_of_found known found)), .same⟩
    · cases ran
      exact ⟨fun _ _ => .same, .same⟩
    · cases ran
      exact ⟨fun _ _ => .same, .same⟩
  | approveMember =>
    simp only [PinCall.execute, approveMember, requireAdmin, admitPending, ok_iff, not_not] at ran
    obtain ⟨admin, waiting, rfl⟩ := ran
    exact ⟨.of_modify rfl fun _ found => .approve admin (status_of_found waiting found) rfl,
      .bump _ _⟩
  | denyMember network device =>
    simp only [PinCall.execute, denyMember, ok_iff, not_not] at ran
    obtain ⟨waiting, rfl⟩ := ran
    refine ⟨fun pinId deviceId => ?_, .same⟩
    rw [find?_deleteWhere]
    by_cases sameKey : (pinId, deviceId) = (network, device)
    · cases sameKey
      obtain ⟨row, found, isPending⟩ := map_eq_some_iff.mp waiting
      simp only [found, Option.filter_some, decide_true, Bool.not_true, Bool.false_eq_true,
        if_false]
      exact .deny isPending
    · cases networks.members.find? (pinId, deviceId) <;>
      · simp only [Option.filter, sameKey, decide_false, Bool.not_false, if_true]
        exact .same
  | removeMember =>
    simp only [PinCall.execute, removeMember, ok_iff, not_and_or, not_not] at ran
    obtain ⟨inside, rfl⟩ := ran
    refine ⟨.of_modify rfl fun _ found => .remove ?_ rfl, .bump _ _⟩
    exact inside.imp (status_of_found · found) (status_of_found · found)
  | setMemberDisabled network device disabled =>
    cases disabled <;>
    · simp only [PinCall.execute, setMemberDisabled, ok_iff, not_not] at ran
      obtain ⟨was, rfl⟩ := ran
      exact ⟨.of_modify rfl fun _ found => .switch (status_of_found was found) rfl, .bump _ _⟩
  | updateMember network device displayName servesModels =>
    simp only [PinCall.execute, updateMember, ok_iff] at ran
    obtain ⟨_, ran⟩ := ran
    split at ran
    · cases ran
      exact ⟨.of_modify rfl fun _ _ => .keep rfl rfl rfl (.inl rfl), .same⟩
    · split at ran
      · cases ran
        exact ⟨.of_modify (modify_modify ..) fun _ _ => .keep rfl rfl rfl (.inr rfl),
          .bump _ _⟩
      · cases ran
        exact ⟨.of_modify rfl fun _ _ => .keep rfl rfl rfl (.inl rfl), .same⟩
  | setMemberOffersExit network device offersExit =>
    cases ran
    rw [setMemberOffersExit]
    split
    · exact ⟨.of_modify rfl fun _ _ => .keep rfl rfl rfl (.inr rfl), .bump _ _⟩
    · exact ⟨fun _ _ => .same, .same⟩
  | updateMemberEndpoints =>
    simp only [PinCall.execute, updateMemberEndpoints, ok_iff] at ran
    obtain ⟨_, _, _, _, rfl⟩ := ran
    exact ⟨.of_modify rfl fun _ _ => .advertise, .same⟩
  | touchMemberLastSeen | setAllowRemoteModels =>
    cases ran
    exact ⟨.of_modify rfl fun _ _ => .keep rfl rfl rfl (.inl rfl), .same⟩
  | _ => cases onMembers

theorem execute_elsewhere (elsewhere : call.onMembers = false)
    (ran : call.execute codec networks = .ok after) :
    after.members = networks.members ∧ PinsStep networks.pins after.pins := by
  cases call with
  | createPin =>
    simp only [PinCall.execute, createPin, ok_iff] at ran
    obtain ⟨-, -, -, -, rfl⟩ := ran
    exact ⟨rfl, .insert _ _⟩
  | rotateJoinCode | setSettings =>
    simp only [PinCall.execute, rotateJoinCode, setSettings, ok_iff] at ran
    obtain ⟨-, rfl⟩ := ran
    exact ⟨rfl, .update _ _ _ (fun _ => le_rfl) fun _ => id⟩
  | deletePin =>
    simp only [PinCall.execute, deletePin, ok_iff] at ran
    obtain ⟨-, rfl⟩ := ran
    exact ⟨rfl, .update _ _ _ (fun _ => le_rfl) fun _ _ => rfl⟩
  | grantRole =>
    simp only [PinCall.execute, grantRole, ok_iff] at ran
    obtain ⟨_, _, _, rfl⟩ := ran
    exact ⟨rfl, .same⟩
  | revokeRole | setModelPolicy =>
    simp only [PinCall.execute, revokeRole, setModelPolicy, ok_iff] at ran
    obtain ⟨_, _, _, _, rfl⟩ := ran
    exact ⟨rfl, .same⟩
  | reportModelPolicyStatus =>
    cases ran
    exact ⟨rfl, .same⟩
  | recordUsageBatch =>
    obtain ⟨_, called, rfl⟩ := map_eq_ok.mp ran
    rw [recordUsageBatch] at called
    split at called
    · cases called
      exact ⟨rfl, .same⟩
    · simp only [ok_iff] at called
      obtain ⟨-, _, -, rfl⟩ := called
      exact ⟨rfl, .same⟩
  | bumpNetmapGeneration =>
    obtain ⟨_, called, rfl⟩ := map_eq_ok.mp ran
    simp only [bumpNetmapGeneration, ok_iff] at called
    obtain ⟨_, -, rfl⟩ := called
    exact ⟨rfl, .bump _ _⟩
  | _ => cases elsewhere

theorem execute_row (ran : call.execute codec networks = .ok after)
    (pinId : PinId) (deviceId : DeviceId) : RowStep networks after pinId deviceId call
      (networks.members.find? (pinId, deviceId)) (after.members.find? (pinId, deviceId)) := by
  cases onMembers : call.onMembers with
  | true => exact (execute_rows onMembers ran).1 pinId deviceId
  | false =>
    rw [(execute_elsewhere onMembers ran).1]
    exact .same

theorem execute_pins (ran : call.execute codec networks = .ok after) :
    PinsStep networks.pins after.pins := by
  cases onMembers : call.onMembers with
  | true => exact (execute_rows onMembers ran).2
  | false => exact (execute_elsewhere onMembers ran).2

theorem execute_status
    (ran : call.execute codec networks = .ok after) (pinId : PinId) (deviceId : DeviceId) :
    after.memberStatus pinId deviceId = networks.memberStatus pinId deviceId ∨
      Transition networks pinId deviceId call (networks.memberStatus pinId deviceId)
        (after.memberStatus pinId deviceId) := by
  have step := execute_row ran pinId deviceId
  unfold Networks.memberStatus
  generalize networks.members.find? (pinId, deviceId) = old at step ⊢
  generalize after.members.find? (pinId, deviceId) = new at step ⊢
  cases step with
  | same => exact .inl rfl
  | join => exact .inr (.knock (by simp))
  | knock outside => exact .inr (.knock (by rcases outside with was | was <;> simp [was]))
  | approve admin waiting =>
    simp only [map_some, waiting]
    exact .inr (.approve admin)
  | deny waiting =>
    simp only [map_some, waiting]
    exact .inr .deny
  | remove inside => exact .inr (.remove (inside.imp (congrArg some) (congrArg some)))
  | @switch disabled _ was =>
    simp only [map_some, was]
    cases disabled
    · exact .inr .enable
    · exact .inr .disable
  | advertise => exact .inl rfl
  | keep status => exact .inl (congrArg some status)

end Steps

/-! ## Generations -/

/-- The generation of no network falls, and where it stands still so do the
members of the network. -/
def Steady (before after : Networks) : Prop :=
  ∀ pinId row, before.pins.find? pinId = some row → ∃ row', after.pins.find? pinId = some row' ∧
      row.netmapGeneration ≤ row'.netmapGeneration ∧
      (row'.netmapGeneration = row.netmapGeneration → ∀ deviceId,
        after.listing pinId deviceId = before.listing pinId deviceId)

theorem Steady.refl (networks : Networks) : Steady networks networks :=
  fun _ row found => ⟨row, found, le_refl _, fun _ _ => rfl⟩

theorem MemberRow.listing_eq_none {row : MemberRow}
    (outside : row.status = .pending ∨ row.status = .removed) : row.listing = none := by
  rw [listing, if_neg]
  rcases outside with was | was <;> simp [was]

theorem RowStep.listing {networks after : Networks} {old new : Option MemberRow}
    (step : RowStep networks after pinId deviceId call old new) :
    new.bind listing = old.bind listing ∨ Bumped networks after pinId := by
  cases step with
  | same | join | advertise => exact .inl rfl
  | knock outside =>
    exact .inl ((listing_eq_none (.inl rfl)).trans (listing_eq_none outside).symm)
  | deny waiting => exact .inl (listing_eq_none (.inl waiting)).symm
  | approve _ _ bumped | remove _ bumped | switch _ bumped => exact .inr bumped
  | keep _ _ _ listing => exact listing

theorem Steady.of_steps {networks after : Networks} (pins : PinsStep networks.pins after.pins)
    (rows : ∀ pinId deviceId, after.listing pinId deviceId = networks.listing pinId deviceId ∨
      Bumped networks after pinId) : Steady networks after := by
  intro pinId row found
  obtain ⟨row', found', rises, -⟩ := pins.find? found
  refine ⟨row', found', rises, fun still deviceId => ?_⟩
  refine (rows pinId deviceId).resolve_right fun bumped => ?_
  rw [bumped, Networks.bumpGeneration, Networks.pins_updatePinRow, find?_modify_self,
    found] at found'
  cases found'
  simp at still

theorem execute_steady (ran : call.execute codec networks = .ok after) : Steady networks after :=
  .of_steps (execute_pins ran) fun pinId deviceId => (execute_row ran pinId deviceId).listing

/-! ## Runs -/

def state (codec : Codec) (calls : List PinCall) : Networks :=
  run (commit (PinCall.execute codec)) {} calls

theorem state_concat (codec : Codec) (calls : List PinCall) (call : PinCall) :
    state codec (calls ++ [call]) = commit (PinCall.execute codec) (state codec calls) call := by
  rw [state, run_append]
  rfl

def Removes (codec : Codec) (calls : List PinCall) (pinId : PinId)
    (deviceId : DeviceId) (call : PinCall) : Prop :=
  ∃ remover now after, call = .removeMember pinId deviceId remover now ∧
    call.execute codec (state codec calls) = .ok after

def AskedSinceRemoval (codec : Codec) (calls : List PinCall) (pinId : PinId)
    (deviceId : DeviceId) : Prop :=
  ∃ earlier nodePubkey displayName now later, calls = earlier ++
      .submitJoin pinId deviceId nodePubkey displayName now :: later ∧
    (state codec (earlier ++ [.submitJoin pinId deviceId nodePubkey displayName now])).memberStatus
        pinId deviceId = some .pending ∧
    ∀ between call rest, later = between ++ call :: rest →
      ¬ Removes codec (earlier ++ .submitJoin pinId deviceId nodePubkey displayName now :: between)
          pinId deviceId call

theorem removeMember_status (ran : removeMember networks pinId deviceId remover now = .ok after) :
    after.memberStatus pinId deviceId = some .removed := by
  simp only [removeMember, ok_iff, not_and_or, not_not] at ran
  obtain ⟨inside, rfl⟩ := ran
  rcases inside with was | was <;>
  · obtain ⟨row, found, _⟩ := map_eq_some_iff.mp was
    simp [Networks.memberStatus, Networks.bumpGeneration, Networks.updateMemberRow,
      Networks.updatePinRow, found, expel]

theorem AskedSinceRemoval.concat (asked : AskedSinceRemoval codec calls pinId deviceId)
    (stays : ¬ Removes codec calls pinId deviceId call) :
    AskedSinceRemoval codec (calls ++ [call]) pinId deviceId := by
  obtain ⟨earlier, nodePubkey, displayName, now, later, rfl, pending, kept⟩ := asked
  refine ⟨earlier, nodePubkey, displayName, now, later ++ [call], by simp, pending, ?_⟩
  intro between other rest split
  cases rest using List.reverseRecOn with
  | nil =>
    obtain ⟨rfl, sameCall⟩ := List.append_inj' split rfl
    cases sameCall
    exact stays
  | append_singleton rest last =>
    have sameInit : later ++ [call] = (between ++ other :: rest) ++ [last] := by simpa using split
    obtain ⟨sameLater, _⟩ := List.append_inj' sameInit rfl
    exact kept between other rest sameLater

theorem askedSinceRemoval_of_pending (codec : Codec) (calls : List PinCall) (pinId : PinId)
    (deviceId : DeviceId)
    (pending : (state codec calls).memberStatus pinId deviceId = some .pending) :
    AskedSinceRemoval codec calls pinId deviceId := by
  induction calls using List.reverseRecOn with
  | nil => cases pending
  | append_singleton calls call ih =>
    have extend : (state codec calls).memberStatus pinId deviceId = some .pending →
          AskedSinceRemoval codec (calls ++ [call]) pinId deviceId := by
      intro pendingBefore
      apply (ih pendingBefore).concat
      rintro ⟨remover, now, after, rfl, removed⟩
      rw [state_concat, commit_of_ok removed, removeMember_status removed] at pending
      cases pending
    cases ran : call.execute codec (state codec calls) with
    | error failure =>
      rw [state_concat, commit_of_error ran] at pending
      exact extend pending
    | ok after =>
      have pendingAfter := pending
      rw [state_concat, commit_of_ok ran] at pendingAfter
      rcases execute_status ran pinId deviceId with same | moves
      · rw [same] at pendingAfter
        exact extend pendingAfter
      · generalize (state codec calls).memberStatus pinId deviceId = status at moves
        rw [pendingAfter] at moves
        cases moves with
        | @knock nodePubkey displayName now _ outside =>
          exact ⟨calls, nodePubkey, displayName, now, [], rfl, pending,
            fun between other rest split => by simp at split⟩

/-- A device becomes active when an admin approves a request it made after its
last removal, or when it is enabled again. The generation of a network never
falls, and it rises whenever the members of its netmap change. -/
theorem membership_and_generation
    (codec : Codec) (calls : List PinCall) (call : PinCall) (pinId : PinId) :
    (∀ deviceId, (state codec calls).memberStatus pinId deviceId ≠ some .active →
      (state codec (calls ++ [call])).memberStatus pinId deviceId = some .active →
      (∃ account now, call = .approveMember pinId deviceId account now ∧
        (state codec calls).roleOf pinId account = some .admin ∧
        AskedSinceRemoval codec calls pinId deviceId) ∨
      (call = .setMemberDisabled pinId deviceId false ∧
        (state codec calls).memberStatus pinId deviceId = some .disabled)) ∧
    ∀ row, (state codec calls).pins.find? pinId = some row →
      ∃ row', (state codec (calls ++ [call])).pins.find? pinId = some row' ∧
        row.netmapGeneration ≤ row'.netmapGeneration ∧ ∀ live live' now now',
          roster (assembleNetmap codec (state codec calls) pinId row live now) ≠
            roster (assembleNetmap codec (state codec (calls ++ [call])) pinId row' live' now') →
          row.netmapGeneration < row'.netmapGeneration := by
  rw [state_concat]
  cases returned : call.execute codec (state codec calls) with
  | error failure =>
    rw [commit_of_error returned]
    refine ⟨fun deviceId inactive active => absurd active inactive, ?_⟩
    intro row found
    refine ⟨row, found, le_refl _, ?_⟩
    intro live live' now now' changed
    exact absurd (roster_assembleNetmap_congr fun _ => rfl) changed
  | ok after =>
    rw [commit_of_ok returned]
    constructor
    · intro deviceId inactive active
      rcases execute_status returned pinId deviceId with same | moves
      · rw [same] at active
        exact absurd active inactive
      · generalize was : (state codec calls).memberStatus pinId deviceId = status at moves
        rw [active] at moves
        cases moves with
        | approve admin =>
          exact Or.inl ⟨_, _, rfl, admin,
            askedSinceRemoval_of_pending codec calls pinId deviceId was⟩
        | enable => exact Or.inr ⟨rfl, rfl⟩
    · intro row found
      obtain ⟨row', found', rises, still⟩ := execute_steady returned pinId row found
      refine ⟨row', found', rises, ?_⟩
      intro live live' now now' changed
      apply lt_of_le_of_ne rises
      intro same
      exact changed (roster_assembleNetmap_congr (still same.symm)).symm

def ownerLedger : Db := { Db.empty with
    accountWallets := (∅ : Table AccountUserId AccountWalletRow).insertOrIgnore "owner"
      { displayName := none, phone := none, email := none,
        githubUsername := none, createdAt := 0, updatedAt := 0 } }

/-- A network `n` of that account and a device that asks to join it. -/
def knockRun : List PinCall :=
  [.createPin ownerLedger "n" "lab" "AAAA-BBBB-CC" "owner" 0, .submitJoin "n" "d" "d" none 1]

def blankCodec : Codec where
  validate _ := .ok ⟨⟩
  readEndpoints _ := some []
  readModels _ := some []
  printEndpoints _ := "[]"
  printModels _ := "[]"

theorem membership_and_generation_knockRun :
    (∃ account now, PinCall.approveMember "n" "d" "owner" 2 = .approveMember "n" "d" account now ∧
      (state blankCodec knockRun).roleOf "n" account = some .admin ∧
      AskedSinceRemoval blankCodec knockRun "n" "d") ∧
    ((state blankCodec knockRun).pins.find? "n").map PinRow.netmapGeneration = some 1 ∧
    ((state blankCodec (knockRun ++ [.approveMember "n" "d" "owner" 2])).pins.find? "n").map
        PinRow.netmapGeneration = some 2 := by
  have approved := (membership_and_generation blankCodec knockRun
    (.approveMember "n" "d" "owner" 2) "n").1 "d" (by decide +kernel) (by decide +kernel)
  refine ⟨?_, by decide +kernel, by decide +kernel⟩
  rcases approved with isApproval | ⟨isSwitch, _⟩
  · exact isApproval
  · cases isSwitch

end Teale.Gateway.Pins
