import Teale.Gateway.Pins.Requests

/-!
# Patching a member

`patch_member` applies a request with two transactions, `update_member` and `set_member_disabled`,
and the second may fail when the first is done.
-/

namespace Teale.Gateway.Pins

open Relational Transactional Service Option Relational.Table Networks

/-- The status a switch leads to. -/
def switched (disabled : Bool) : MemberStatus := if disabled then .disabled else .active

/-- Every change that the request asks for is in effect. -/
def PatchMemberReq.InEffect (req : PatchMemberReq) (row : Option MemberRow) : Prop :=
  (∀ name ∈ req.displayName, row.map MemberRow.displayName = some (some name)) ∧
    (∀ serves ∈ req.servesModels, row.map MemberRow.servesModels = some serves) ∧
    ∀ disabled ∈ req.disabled, row.map MemberRow.status = some (switched disabled)

variable (req : PatchMemberReq) {networks : Networks} {pinId : PinId} {deviceId : DeviceId}

/-- The first transaction changes the store and the second fails, or nothing but
`servesModels` is asked for and there is no row. -/
def PatchMemberReq.Splits (networks : Networks) (pinId : PinId) (deviceId : DeviceId) : Prop :=
  match networks.members.find? (pinId, deviceId) with
  | none => req.displayName = none ∧ req.servesModels.isSome = true ∧ req.disabled = none
  | some row =>
    updateMember networks pinId deviceId req.displayName req.servesModels ≠ .ok networks ∧
      ∃ disabled ∈ req.disabled, row.status ≠ switched !disabled

theorem updateMember_of_absent (absent : networks.members.find? (pinId, deviceId) = none) :
    ∃ failure, updateMember networks pinId deviceId req.displayName req.servesModels =
      if req.displayName = none then .ok networks else .error failure := by
  have kept : networks.updateMemberRow pinId deviceId (.rename req.displayName) = networks := by
    rw [updateMemberRow, modify_eq_self]
    simp [absent]
  refine ⟨.message "device is not a member of this network", ?_⟩
  rw [updateMember, kept, memberStatus, absent]
  cases req.displayName <;> cases req.servesModels <;> rfl

theorem updateMember_of_found (found : networks.members.find? (pinId, deviceId) = some row) :
    ∃ middle, updateMember networks pinId deviceId req.displayName req.servesModels = .ok middle ∧
      middle.members.find? (pinId, deviceId) = some { row with
        displayName := req.displayName.or row.displayName
        servesModels := req.servesModels.getD row.servesModels } := by
  have renamed : (networks.updateMemberRow pinId deviceId (.rename req.displayName)).members.find?
      (pinId, deviceId) = some (row.rename req.displayName) := by
    simp [updateMemberRow, found]
  rw [updateMember, memberStatus, found]
  simp only [map_some, reduceCtorEq, and_false, failIf, if_false, any_some]
  cases serves : req.servesModels with
  | none => exact ⟨_, rfl, renamed⟩
  | some value =>
    by_cases same : row.servesModels = value
    · simp only [same, ne_eq, not_true, decide_false]
      exact ⟨_, rfl, by rw [renamed, getD_some, ← same]; rfl⟩
    · simp only [same, ne_eq, not_false_iff, decide_true]
      refine ⟨_, rfl, ?_⟩
      simp [bumpGeneration, updatePinRow, updateMemberRow, found,
        MemberRow.rename, MemberRow.serve]

theorem serve_patchRow : (patchRow pinId deviceId req).serve networks =
    match updateMember networks pinId deviceId req.displayName req.servesModels with
    | .ok middle => (.ok ⟨⟩, middle)
    | .error failure => (.error (failure.answer .conflict), networks) := by
  unfold patchRow
  split
  · rw [serve_perform]
    cases updateMember networks pinId deviceId req.displayName req.servesModels <;> rfl
  · have kept : networks.updateMemberRow pinId deviceId (.rename none) = networks := by
      rw [updateMemberRow, modify_eq_self]
      simp [MemberRow.rename]
    simp_all [updateMember]
    rfl

theorem serve_patchDisabled (disabled : Bool) :
    let served := (patchDisabled pinId deviceId (some disabled)).serve networks
    if networks.memberStatus pinId deviceId = some (switched !disabled) then
      served = (.ok ⟨⟩, (networks.updateMemberRow pinId deviceId
        (.setStatus (switched disabled))).bumpGeneration pinId)
    else ∃ failure, served = (.error failure, networks) := by
  rw [patchDisabled, serve_perform, setMemberDisabled]
  by_cases leaves : networks.memberStatus pinId deviceId = some (switched !disabled) <;>
    cases disabled <;> simp_all [switched, failIf, bind, Except.bind, pure, Except.pure]

/-- A patch is made as a whole or not at all, unless the request splits. -/
theorem patchMember_whole_iff (setting : Setting) (principal : PrincipalKind) (pinId : PinId)
    (deviceId : DeviceId) (req : PatchMemberReq) (networks : Networks) :
    (match (patchMember setting principal pinId deviceId req).serve networks with
      | (.error _, after) => after = networks
      | (.ok _, after) => req.InEffect (after.members.find? (pinId, deviceId))) ↔
    ∀ account, ((patchActor setting principal pinId req).serve networks).1 = .ok account →
      ¬ req.Splits networks pinId deviceId := by
  obtain ⟨result, checked⟩ : ∃ result,
      (patchActor setting principal pinId req).serve networks = (result, networks) := by
    unfold patchActor
    split <;> exact ⟨_, rfl⟩
  cases result with
  | error failure => simp [patchMember, serve_bind, checked]
  | ok account =>
    simp only [patchMember, serve_bind, checked, Except.ok.injEq, forall_eq', serve_patchRow,
      PatchMemberReq.Splits]
    cases found : networks.members.find? (pinId, deviceId) with
    | none =>
      obtain ⟨failure, updated⟩ := updateMember_of_absent req found
      rw [updated]
      by_cases named : req.displayName = none
      · cases switches : req.disabled with
        | none =>
          simp only [named, if_true]
          change req.InEffect (networks.members.find? (pinId, deviceId)) ↔ _
          cases serves : req.servesModels <;>
            simp [PatchMemberReq.InEffect, found, named, serves, switches]
        | some disabled =>
          have served := @serve_patchDisabled networks pinId deviceId disabled
          rw [if_neg (by simp [memberStatus, found])] at served
          obtain ⟨_, refused⟩ := served
          simp [named, refused]
      · simp [named]
    | some row =>
      obtain ⟨middle, updated, patched⟩ := updateMember_of_found req found
      simp only [updated]
      cases switches : req.disabled with
      | none =>
        refine iff_of_true (show req.InEffect (middle.members.find? (pinId, deviceId)) from ?_)
          (by simp)
        simp +contextual [PatchMemberReq.InEffect, patched, switches]
      | some disabled =>
        have served := @serve_patchDisabled middle pinId deviceId disabled
        simp only [memberStatus, patched, map_some, some.injEq] at served
        split at served
        case isTrue leaves =>
          rw [served]
          refine iff_of_true (show req.InEffect (find? (middle.members.modify ..) _) from ?_)
            (by simp [leaves])
          simp +contextual [PatchMemberReq.InEffect, patched, switches, MemberRow.setStatus]
        case isFalse stays =>
          obtain ⟨_, refused⟩ := served
          simp [refused, stays]

/-- A refused patch renames the member all the same. -/
theorem refused_patch_renames :
    let joined := visited blankCodec {} [byOwner 0 (.createPin "lab"),
      byDevice "d" 1 (.join ⟨"AAAA", none, "d"⟩), byOwner 2 (.network "n" (.approveMember "d"))]
    let served := (patchMember (labSetting 3) (byOwner 3 (.createPin "lab")).principal "n" "d"
      { displayName := some "lamp", disabled := some false }).serve joined
    served.1.isOk = false ∧
      (joined.members.find? ("n", "d")).map MemberRow.displayName = some none ∧
      (served.2.members.find? ("n", "d")).map MemberRow.displayName = some (some "lamp") := by
  decide +kernel

end Teale.Gateway.Pins
