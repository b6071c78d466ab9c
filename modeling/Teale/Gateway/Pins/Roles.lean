import Teale.Gateway.Pins.Membership

/-!
# Roles

Who administers a network is stored twice: in the owner column of `pins`, which `role_of` reads
first, and in `pin_roles`, the only table that `pins_for_account` reads.
-/

namespace Teale.Gateway.Pins

open Relational Transactional List Relational.Table Option Networks

namespace Networks

structure RolesConsistent (networks : Networks) : Prop where
  shown : ∀ account, ∀ summary ∈ networks.pinsForAccount account,
    networks.roleOf summary.pinId account = some summary.role
  administered : ∀ pinId pin, networks.getPin pinId = some pin →
    ∃ account row, networks.roles.find? (pinId, account) = some row ∧ row.role = .admin
  listed : ∀ pinId pin account, networks.getPin pinId = some pin →
    networks.roleOf pinId account = some .admin →
    ∃ summary ∈ networks.pinsForAccount account, summary.pinId = pinId

def storedRole (networks : Networks) (pinId : PinId) (account : AccountUserId) : Option PinRole :=
  (networks.roles.find? (pinId, account)).map RoleRow.role

def OwnersAdminister (networks : Networks) : Prop :=
  ∀ pinId pin, networks.getPin pinId = some pin →
    networks.storedRole pinId pin.ownerAccountUserId = some .admin

variable {networks : Networks}

theorem pinsForAccount_shows :
    (∃ summary ∈ networks.pinsForAccount account, summary.pinId = pinId ∧ summary.role = role) ↔
      (∃ pin, networks.getPin pinId = some pin) ∧
        networks.storedRole pinId account = some role := by
  simp only [pinsForAccount, mem_filterMap, mem_insertionSort, mem_filter, map_eq_some_iff,
    storedRole, getPin, filter_eq_some_iff, Prod.exists, mem_rows_iff_find?]
  constructor
  · rintro ⟨_, ⟨id, pin, stored, granted, found, rfl⟩, rfl, rfl⟩
    exact ⟨⟨pin, stored⟩, granted, found, rfl⟩
  · rintro ⟨⟨pin, stored⟩, granted, found, rfl⟩
    exact ⟨_, ⟨pinId, pin, stored, granted, found, rfl⟩, rfl, rfl⟩

theorem rolesConsistent_iff : networks.RolesConsistent ↔ networks.OwnersAdminister := by
  constructor
  · intro consistent pinId pin stored
    have isAdmin : networks.roleOf pinId pin.ownerAccountUserId = some .admin := by
      simp [roleOf, stored]
    obtain ⟨summary, member, rfl⟩ := consistent.listed pinId pin _ stored isAdmin
    have same := consistent.shown _ summary member
    rw [isAdmin] at same
    exact (pinsForAccount_shows.mp ⟨summary, member, rfl, (some.inj same).symm⟩).2
  · intro owners
    have agree : ∀ pinId pin account, networks.getPin pinId = some pin →
        networks.roleOf pinId account = networks.storedRole pinId account := by
      intro pinId pin account stored
      unfold roleOf
      split
      · rename_i isOwner
        rw [stored, map_some, some.injEq] at isOwner
        rw [← isOwner, owners pinId pin stored]
      · rfl
    refine ⟨?_, ?_, ?_⟩
    · intro account summary member
      obtain ⟨⟨pin, stored⟩, role⟩ := pinsForAccount_shows.mp ⟨summary, member, rfl, rfl⟩
      rw [agree _ pin account stored, role]
    · intro pinId pin stored
      exact ⟨_, map_eq_some_iff.mp (owners pinId pin stored)⟩
    · intro pinId pin account stored isAdmin
      rw [agree pinId pin account stored] at isAdmin
      obtain ⟨summary, member, same, _⟩ := pinsForAccount_shows.mpr ⟨⟨pin, stored⟩, isAdmin⟩
      exact ⟨summary, member, same⟩

end Networks

/-! ## The calls that grant roles -/

def PinCall.OnRoles : PinCall → Prop
  | .createPin .. | .grantRole .. | .revokeRole .. => True
  | _ => False

abbrev RoleCall := { call : PinCall // call.OnRoles }

def RoleCall.execute (codec : Codec) (networks : Networks) (call : RoleCall) : Tx Networks :=
  call.1.execute codec networks

/-- The call grants the owner of a network a role below its own. -/
def RoleCall.Demotes (networks : Networks) (call : RoleCall) : Prop :=
  ∃ pinId account grantedBy now, call.1 = .grantRole pinId account "modelrator" grantedBy now ∧
    (networks.getPin pinId).map PinRow.ownerAccountUserId = some account

variable {codec : Codec} {networks after : Networks}

open RoleCall

/-- No call but a demotion takes the owner's row. -/
theorem execute_ownersAdminister {call : RoleCall} (owners : networks.OwnersAdminister)
    (stays : ¬ call.Demotes networks) (ran : call.execute codec networks = .ok after) :
    after.OwnersAdminister := by
  obtain ⟨call, onRoles⟩ := call
  intro id pin stored
  cases call with
  | createPin ledger pinId name joinCode owner now =>
    simp only [RoleCall.execute, PinCall.execute, createPin, ok_iff, Bool.not_eq_true,
      isSome_eq_false_iff, isNone_iff_eq_none] at ran
    obtain ⟨_, freshPin, _, freshRole, rfl⟩ := ran
    by_cases same : id = pinId
    · subst same
      simp only [Networks.getPin, find?_insertOrIgnore_self, freshPin, getD_none,
        filter_some, isNone_none, if_true, some.injEq] at stored
      simp [storedRole, ← stored, freshRole]
    · have before := owners id pin
      simp_all [Networks.getPin, storedRole, find?_insertOrIgnore]
  | grantRole pinId account role grantedBy now =>
    simp only [RoleCall.execute, PinCall.execute, grantRole, ok_iff] at ran
    obtain ⟨granted, known, _, rfl⟩ := ran
    have before : networks.getPin id = some pin := stored
    simp only [storedRole, find?_upsert]
    split
    · rename_i same
      cases same
      cases granted with
      | admin => rfl
      | modelrator =>
        refine (stays ⟨id, pin.ownerAccountUserId, grantedBy, now, ?_, by simp [before]⟩).elim
        unfold PinRole.ofText at known
        split at known
        · cases known
        · split at known
          · next isModelrator => rw [isModelrator]
          · cases known
    · exact owners id pin before
  | revokeRole pinId account =>
    simp only [RoleCall.execute, PinCall.execute, revokeRole, ok_iff] at ran
    obtain ⟨row, found, notOwner, _, rfl⟩ := ran
    have before : networks.getPin id = some pin := stored
    have other : (id, pin.ownerAccountUserId) ≠ (pinId, account) := by
      rintro ⟨⟩
      simp_all [Networks.getPin]
    simpa [storedRole, find?_deleteWhere, other] using owners id pin before
  | _ => exact onRoles.elim

theorem ownersAdminister_commit (owners : networks.OwnersAdminister) (call : RoleCall) :
    (commit (RoleCall.execute codec) networks call).OwnersAdminister ↔
      ¬ call.Demotes networks := by
  refine ⟨?_, fun stays => commit_cases owners fun _ => execute_ownersAdminister owners stays⟩
  rintro owned ⟨pinId, account, grantedBy, now, isGrant, isOwner⟩
  obtain ⟨pin, stored, rfl⟩ := map_eq_some_iff.mp isOwner
  have ran : call.execute codec networks = .ok { networks with
      roles := networks.roles.upsert (pinId, pin.ownerAccountUserId)
        ⟨.modelrator, grantedBy, now⟩ } := by
    simp [RoleCall.execute, isGrant, PinCall.execute, grantRole, PinRole.ofText, getOr, failIf,
      (filter_eq_some_iff.mp stored).1, bind, Except.bind, pure, Except.pure]
  rw [commit_of_ok ran] at owned
  have lost := owned pinId pin stored
  simp [storedRole, find?_upsert] at lost

/-- The lists of networks agree with the roles in effect after every call,
unless one of them grants the owner of a network the lower role. -/
theorem roles_consistent_iff (codec : Codec) (calls : List RoleCall) :
    Admissible (fun networks call =>
        (commit (RoleCall.execute codec) networks call).RolesConsistent)
      (commit (RoleCall.execute codec)) {} calls ↔
    Admissible (fun networks call => ¬ call.Demotes networks)
      (commit (RoleCall.execute codec)) {} calls := by
  have empty : Networks.OwnersAdminister {} := by
    intro pinId pin stored
    cases stored
  revert empty
  generalize ({} : Networks) = networks
  induction calls generalizing networks with
  | nil => exact fun _ => Iff.rfl
  | cons call rest ih =>
    intro owners
    simp only [Admissible, rolesConsistent_iff, ownersAdminister_commit owners]
    refine and_congr_right fun stays => ?_
    simp only [← rolesConsistent_iff]
    exact ih _ ((ownersAdminister_commit owners call).mpr stays)

def demotionRun : List RoleCall :=
  [⟨.createPin ownerLedger "n" "lab" "AAAA-BBBB-CC" "owner" 0, trivial⟩,
    ⟨.grantRole "n" "owner" "modelrator" "owner" 1, trivial⟩]

/-- The owner is shown as modelrator of a network without an administrator. -/
theorem demotionRun_not_consistent :
    ¬ (run (commit (RoleCall.execute blankCodec)) {} demotionRun).RolesConsistent ∧
    ((run (commit (RoleCall.execute blankCodec)) {} demotionRun).pinsForAccount "owner").map
      Networks.PinSummary.role = [.modelrator] ∧
    (run (commit (RoleCall.execute blankCodec)) {} demotionRun).roleOf "n" "owner" =
      some .admin := by
  refine ⟨fun consistent => ?_, by decide +kernel, by decide +kernel⟩
  have lost := rolesConsistent_iff.mp consistent "n"
    { name := "lab", joinCode := "AAAA-BBBB-CC", ownerAccountUserId := "owner", createdAt := 0 }
    (by decide +kernel)
  revert lost
  decide +kernel

end Teale.Gateway.Pins
