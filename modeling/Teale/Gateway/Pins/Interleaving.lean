import Teale.Gateway.Pins.Membership

/-!
# Netmaps built while the members change

`build_netmap` reads the network and its members under two locks. Between the two reads the
members can change.
-/

namespace Teale.Gateway.Pins

open Relational Transactional Protocol List

/-! ## Critical sections -/

inductive CriticalSection
  /-- A function that holds the lock for all of its statements. -/
  | call (call : PinCall)
  /-- The transaction of an approval, after the approver was checked. -/
  | approve (pinId : PinId) (deviceId : DeviceId)
      (approverAccount : AccountUserId) (now : Timestamp)
  /-- The first read of a `build_netmap`. -/
  | readPin (builder : ℕ) (pinId : PinId)
  /-- The second read, after which the netmap is complete. -/
  | readMembers (builder : ℕ) (live : Live) (now : Timestamp)

/-- The tables, the row each `build_netmap` that is not complete has read, and
the netmaps that are complete. -/
structure Building where
  networks : Networks := {}
  reads : ℕ → Option (PinId × PinRow) := fun _ => none
  built : List PinNetmap := []

namespace Building

def step (codec : Codec) (building : Building) : CriticalSection → Building
  | .call call =>
    { building with
      networks := commit (PinCall.execute codec) building.networks call }
  | .approve pinId deviceId approverAccount now =>
    { building with
      networks := commit (fun networks device =>
        admitPending networks pinId device approverAccount now) building.networks deviceId }
  | .readPin builder pinId =>
    { building with
      reads := Function.update building.reads builder
        ((building.networks.getPin pinId).map fun row => (pinId, row)) }
  | .readMembers builder live now =>
    match building.reads builder with
    | none => building
    | some (pinId, row) =>
      { building with
        reads := Function.update building.reads builder none
        built := building.built ++
          [assembleNetmap codec building.networks pinId row live now] }

/-- The second read of a netmap finds the network at the generation of the
first. -/
def Undisturbed (building : Building) : CriticalSection → Prop
  | .readMembers builder _ _ => ∀ pinId row, building.reads builder = some (pinId, row) →
        (building.networks.pins.find? pinId).map PinRow.netmapGeneration = some row.netmapGeneration
  | _ => True

/-! ## Netmaps of one generation -/

/-- A netmap is not ahead of its network, and one of the network's generation
has its members. -/
def Current (networks : Networks) (netmap : PinNetmap) : Prop :=
  ∃ row, networks.pins.find? netmap.pinId = some row ∧ netmap.generation ≤ row.netmapGeneration ∧
    (netmap.generation = row.netmapGeneration → ∀ deviceId standing,
      (deviceId, standing) ∈ roster netmap ↔ networks.listing netmap.pinId deviceId = some standing)

theorem Current.steady {before after : Networks} {netmap : PinNetmap}
    (current : Current before netmap) (steady : Steady before after) : Current after netmap := by
  obtain ⟨row, found, notAhead, members⟩ := current
  obtain ⟨row', found', rises, still⟩ := steady netmap.pinId row found
  refine ⟨row', found', notAhead.trans rises, ?_⟩
  intro sameGeneration deviceId standing
  have atRow : netmap.generation = row.netmapGeneration := by omega
  rw [still (by omega) deviceId]
  exact members atRow deviceId standing

variable {row : PinRow}

theorem Current.assembleNetmap {codec : Codec} {networks : Networks} {pinId : PinId}
    (live : Live) (now : Timestamp)
    (same : (networks.pins.find? pinId).map PinRow.netmapGeneration = some row.netmapGeneration) :
    Current networks (assembleNetmap codec networks pinId row live now) := by
  obtain ⟨stored, found, sameGeneration⟩ := Option.map_eq_some_iff.mp same
  refine ⟨stored, found, sameGeneration.ge, ?_⟩
  intro _ deviceId standing
  exact mem_roster_assembleNetmap codec networks pinId row live now deviceId standing

/-- Netmaps of one network and one generation have the same members. -/
def Agree (first second : PinNetmap) : Prop :=
  first.pinId = second.pinId → first.generation = second.generation → roster first = roster second

theorem Agree.symm {first second : PinNetmap} (agree : Agree first second) : Agree second first :=
  fun samePin sameGeneration => (agree samePin.symm sameGeneration.symm).symm

theorem Current.agree {networks : Networks} {older newer : PinNetmap}
    (current : Current networks older) (now : Current networks newer)
    (found : networks.pins.find? newer.pinId = some row)
    (newest : newer.generation = row.netmapGeneration) : Agree older newer := by
  intro samePin sameGeneration
  obtain ⟨row', found', _, members'⟩ := current
  obtain ⟨row'', found'', _, members''⟩ := now
  rw [samePin, found] at found'
  rw [found] at found''
  cases found'
  cases found''
  ext ⟨deviceId, standing⟩
  rw [members' (sameGeneration.trans newest), members'' newest, samePin]

structure Consistent (building : Building) : Prop where
  current : ∀ netmap ∈ building.built, Current building.networks netmap
  agree : ∀ first ∈ building.built, ∀ second ∈ building.built, Agree first second

variable {building : Building}

theorem Consistent.of_steady {after : Networks}
    (consistent : Consistent building) (steady : Steady building.networks after) :
    Consistent { building with networks := after } where
  current := fun netmap member => (consistent.current netmap member).steady steady
  agree := consistent.agree

theorem Consistent.append {netmap : PinNetmap}
    (consistent : Consistent building) (current : Current building.networks netmap)
    (found : building.networks.pins.find? netmap.pinId = some row)
    (newest : netmap.generation = row.netmapGeneration) (reads : ℕ → Option (PinId × PinRow)) :
    Consistent { building with reads, built := building.built ++ [netmap] } where
  current := by
    intro other member
    rcases mem_append.mp member with old | new
    · exact consistent.current other old
    · obtain rfl := mem_singleton.mp new
      exact current
  agree := by
    have withNew : ∀ other ∈ building.built, Agree other netmap := fun other old =>
        (consistent.current other old).agree current found newest
    intro first firstMember second secondMember
    rcases mem_append.mp firstMember with old | new <;>
      rcases mem_append.mp secondMember with old' | new'
    · exact consistent.agree first old second old'
    · obtain rfl := mem_singleton.mp new'
      exact withNew first old
    · obtain rfl := mem_singleton.mp new
      exact (withNew second old').symm
    · obtain rfl := mem_singleton.mp new
      obtain rfl := mem_singleton.mp new'
      exact fun _ _ => rfl

theorem step_consistent {codec : Codec} {critical : CriticalSection}
    (undisturbed : building.Undisturbed critical) (consistent : Consistent building) :
    Consistent (building.step codec critical) := by
  cases critical with
  | call call =>
    apply consistent.of_steady
    refine commit_cases (Steady.refl _) fun after ran => ?_
    exact execute_steady ran
  | approve pinId deviceId account now =>
    apply consistent.of_steady
    refine commit_cases (Steady.refl _) fun after ran => ?_
    simp only [admitPending, ok_iff] at ran
    obtain ⟨_, rfl⟩ := ran
    refine .of_steps (.bump _ _) fun network device => ?_
    by_cases same : network = pinId
    · exact .inr (same ▸ rfl)
    · have others : (network, device) ≠ (pinId, deviceId) := fun equal => same (congrArg (·.1) equal)
      exact .inl (congrArg (Option.bind · MemberRow.listing) (Table.find?_modify_of_ne _ _ others))
  | readPin builder pinId => exact ⟨consistent.current, consistent.agree⟩
  | readMembers builder live now =>
    rw [step]
    split
    · exact consistent
    · next pinId row read =>
        have same := undisturbed pinId row read
        obtain ⟨stored, found, sameGeneration⟩ := Option.map_eq_some_iff.mp same
        exact consistent.append (Current.assembleNetmap live now same) found sameGeneration.symm _

/-- When no generation moves between the two reads of a netmap, netmaps of one
generation show the same members. -/
theorem built_same_generation (codec : Codec) (sections : List CriticalSection)
    (undisturbed : Admissible Undisturbed (step codec) {} sections) :
    ∀ first ∈ (run (step codec) {} sections).built, ∀ second ∈ (run (step codec) {} sections).built,
        first.pinId = second.pinId → first.generation = second.generation →
          roster first = roster second := by
  have initially : Consistent {} :=
    ⟨fun _ member => by simp at member, fun _ member => by simp at member⟩
  have consistent := run_invariant Consistent (fun _ _ => step_consistent) initially undisturbed
  exact consistent.agree

/-- A netmap of the network before and after an approval. -/
theorem built_same_generation_of_approval :
    let sections : List CriticalSection :=
      knockRun.map .call ++ [.readPin 0 "n", .readMembers 0 (fun _ => none) 2,
        .call (.approveMember "n" "d" "owner" 3),
        .readPin 1 "n", .readMembers 1 (fun _ => none) 4,
        .readPin 2 "n", .readMembers 2 (fun _ => none) 5]
    Admissible Undisturbed (step blankCodec) {} sections ∧
      ((run (step blankCodec) {} sections).built.map PinNetmap.generation) = [1, 2, 2] ∧
      ∀ first ∈ (run (step blankCodec) {} sections).built,
        ∀ second ∈ (run (step blankCodec) {} sections).built,
          first.pinId = second.pinId → first.generation = second.generation →
            roster first = roster second := by
  intro sections
  have undisturbed : Admissible Undisturbed (step blankCodec) {} sections := by
    simp only [sections, knockRun, map_cons, map_nil,
      cons_append, nil_append, Admissible, Undisturbed, true_and,
      and_true]
    refine ⟨?_, ?_, ?_⟩ <;>
    · intro pinId row read
      cases read
      decide +kernel
  exact ⟨undisturbed, by decide +kernel, built_same_generation blankCodec sections undisturbed⟩

/-- An approval between the two reads of the second netmap: both netmaps have
generation 1, and only the second has the member. -/
theorem approval_between_reads :
    let sections : List CriticalSection :=
      knockRun.map .call ++ [.readPin 0 "n", .readMembers 0 (fun _ => none) 2,
        .readPin 1 "n", .call (.approveMember "n" "d" "owner" 3),
        .readMembers 1 (fun _ => none) 3]
    ∃ first ∈ (run (step blankCodec) {} sections).built,
      ∃ second ∈ (run (step blankCodec) {} sections).built,
        first.pinId = second.pinId ∧ first.generation = second.generation ∧ roster first = ∅ ∧
          roster second = {("d", ⟨"d", true, false, false⟩)} := by
  decide +kernel

end Building

end Teale.Gateway.Pins
