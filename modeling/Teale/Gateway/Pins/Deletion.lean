import Teale.Gateway.Pins.Requests

/-!
# Deleted networks

`delete_pin` marks the row of a network and leaves its roles and members in their tables. The
endpoints look at the mark only where they read the row itself.
-/

namespace Teale.Gateway.Pins

open Relational Transactional Service Option

/-! ## Callers without standing -/

def refusal (principal : PrincipalKind) : NetworkRequest → Except Failure Response
  | .sync _ => do
    let _ ← requireDevice principal
    pure (.sync { membership := "none" })
  | .leave => do
    let _ ← requireDevice principal
    throw (.error (.conflict "device is not a member of this network"))
  | .usageReport _ _ => do
    let _ ← requireDevice principal
    throw unknownNetwork
  | _ => throw unknownNetwork

structure Outside (ledger : Db) (networks : Networks) (pinId : PinId)
    (principal : PrincipalKind) : Prop where
  role : ∀ account, accountOf ledger principal = some account → networks.roleOf pinId account = none
  member : ∀ deviceId, principal = .device deviceId → networks.memberStatus pinId deviceId = none ∨
      networks.memberStatus pinId deviceId = some .removed

section Refused

variable {codec : Codec} {setting : Setting} {networks : Networks}
  {pinId : PinId} {principal : PrincipalKind}

theorem resolveActor_outside (outside : Outside setting.ledger networks pinId principal) :
    resolveActor setting.ledger networks principal pinId = .error unknownNetwork := by
  have noRole : staffActor setting.ledger networks principal pinId = none := by
    rw [staffActor]
    cases behind : accountOf setting.ledger principal with
    | none => rfl
    | some account =>
      change (networks.roleOf pinId account).bind _ = none
      rw [outside.role account behind]
      rfl
  cases principal with
  | device deviceId =>
    have inactive : networks.memberStatus pinId deviceId ≠ some .active := by
      rcases outside.member deviceId rfl with none | removed <;> simp [*]
    simp [resolveActor, noRole, inactive]
  | _ => simp [resolveActor, noRole]

theorem serve_query_bind_of_error
    {α β : Type} {question : Networks → Except Failure α} {failure : Failure}
    {next : α → PinHandler β} (fails : question networks = .error failure) :
    serve (query question >>= next) networks = (.error failure, networks) := by
  rw [serve_bind, serve_query, fails]

theorem serve_requireDevice_bind {β : Type} {next : DeviceId → PinHandler β}
    {refused : DeviceId → Except Failure β} (answers : ∀ deviceId, principal = .device deviceId →
      (next deviceId).serve networks = (refused deviceId, networks)) :
    serve (outcome (requireDevice principal) >>= next) networks =
      (requireDevice principal >>= refused, networks) := by
  cases principal with
  | device deviceId =>
    rw [outcome, serve_bind, serve_query]
    exact answers deviceId rfl
  | _ => exact serve_query_bind_of_error rfl

/-- The endpoints answer a caller outside a network as if it did not exist, and
change nothing. -/
theorem refused_of_outside (outside : Outside setting.ledger networks pinId principal)
    (request : NetworkRequest) : serve (handleNetwork codec setting principal pinId request)
        networks = (refusal principal request, networks) := by
  have noActor := resolveActor_outside outside
  have noAdmin : requireAdminActor setting.ledger networks principal pinId =
      .error unknownNetwork := by
    rw [requireAdminActor, noActor]
    rfl
  have noStaff : requireStaffActor setting.ledger networks principal pinId =
      .error unknownNetwork := by
    rw [requireStaffActor, noActor]
    rfl
  cases request with
  | getPin | listMembers | getModels | usage => exact serve_query_bind_of_error noActor
  | approveMember | denyMember | removeMember | rotateCode | getJoinCode
  | setRole | deletePin => exact serve_query_bind_of_error noAdmin
  | putSettings | setDeviceModels => exact serve_query_bind_of_error noStaff
  | patchMember deviceId req =>
    rw [handleNetwork, patchMember, patchActor]
    split
    · exact serve_query_bind_of_error noAdmin
    · exact serve_query_bind_of_error noStaff
  | schedule req =>
    rw [handleNetwork, map_eq_pure_bind, serve_bind, schedule, actor,
      serve_query_bind_of_error noActor]
    rfl
  | leave =>
    apply serve_requireDevice_bind
    intro deviceId isDevice
    have refused : removeMember networks pinId deviceId deviceId setting.now =
        .error (.message "device is not a member of this network") := by
      rw [removeMember, failIf, if_pos]
      · rfl
      · rcases outside.member deviceId isDevice with none | removed <;> simp [*]
    rw [serve_bind, perform, serve_transact, refused]
    rfl
  | sync req =>
    have answers : (sync codec setting principal pinId req).serve networks =
        (requireDevice principal >>= fun _ => .ok { membership := "none" }, networks) := by
      apply serve_requireDevice_bind
      intro deviceId isDevice
      rw [serve_bind, serve_query]
      rcases outside.member deviceId isDevice with none | removed
      · rw [none]
        rfl
      · rw [removed]
        rfl
    rw [handleNetwork, map_eq_pure_bind, serve_bind, answers]
    cases principal <;> rfl
  | usageReport batchId entries =>
    apply serve_requireDevice_bind
    intro deviceId isDevice
    have inactive : networks.memberStatus pinId deviceId ≠ some .active := by
      rcases outside.member deviceId isDevice with none | removed <;> simp [*]
    rw [serve_bind, serve_query]
    apply serve_query_bind_of_error
    rw [failIf, if_pos inactive]

theorem resolveActor_ne_ok_of_refused
    (refused : serve (handleNetwork codec setting principal pinId .listMembers) networks =
      (refusal principal .listMembers, networks)) (actor : PinActor) :
    resolveActor setting.ledger networks principal pinId ≠ .ok actor := by
  intro standing
  have answers := congrArg Prod.fst refused
  rw [handleNetwork, listMembers, Pins.actor, serve_bind, serve_query, standing] at answers
  cases answers

theorem sync_of_status {deviceId : DeviceId} {status : MemberStatus} (req : SyncReq)
    (known : networks.memberStatus pinId deviceId = some status)
    (waits : status = .pending ∨ status = .disabled) : serve
        (handleNetwork codec setting (.device deviceId) pinId (.sync req)) networks =
      (.ok (.sync { membership := status.text }), networks) := by
  have answers : (sync codec setting (.device deviceId) pinId req).serve
      networks = (.ok { membership := status.text }, networks) := by
    rw [sync, outcome, serve_bind, serve_query]
    change serve (query _ >>= _) networks = _
    rw [serve_bind, serve_query, known]
    rcases waits with rfl | rfl <;> rfl
  rw [handleNetwork, map_eq_pure_bind, serve_bind, answers]
  rfl

end Refused

/-! ## Networks that were deleted -/

def Networks.Deleted (networks : Networks) (pinId : PinId) : Prop :=
  ∃ row, networks.pins.find? pinId = some row ∧ row.deletedAt.isSome

theorem Networks.Deleted.getPin {networks : Networks} (deleted : networks.Deleted pinId) :
    networks.getPin pinId = none := by
  obtain ⟨row, found, marked⟩ := deleted
  rw [Networks.getPin, found, filter_some, if_neg]
  simpa [← isSome_iff_ne_none] using marked

theorem Networks.Deleted.roleOf {networks : Networks} (deleted : networks.Deleted pinId)
    (account : AccountUserId) : networks.roleOf pinId account =
      (networks.roles.find? (pinId, account)).map RoleRow.role := by
  rw [Networks.roleOf, deleted.getPin]
  rfl

theorem execute_deleted (networks : Networks) (call : PinCall)
    (after : Networks) (deleted : networks.Deleted pinId)
    (ran : call.execute codec networks = .ok after) : after.Deleted pinId := by
  obtain ⟨row, found, marked⟩ := deleted
  obtain ⟨row', found', _, staysMarked⟩ := (execute_pins ran).find? found
  exact ⟨row', found', staysMarked marked⟩

theorem visited_deleted (deleted : networks.Deleted pinId) (visits : List Visit) :
    (visited codec networks visits).Deleted pinId := by
  induction visits generalizing networks with
  | nil => exact deleted
  | cons visit visits ih =>
    apply ih
    exact visit.serve_invariant (fun networks call after _ => execute_deleted networks call after)
      deleted

theorem delete_performs (codec : Codec) (setting : Setting) (principal : PrincipalKind)
    (pinId : PinId) (networks : Networks) : Performs (PinCall.execute codec) (fun _ _ => True)
      (delete setting principal pinId) networks fun _ state => state.Deleted pinId := by
  refine .after .query fun account _ => ?_
  refine .after .query fun pin present => ?_
  refine .after .refuseIf fun _ _ => ?_
  refine .bind (.perform (.deletePin ..) rfl trivial) ?_
  intro _ after ran
  simp only [Pins.deletePin, ok_iff] at ran
  obtain ⟨_, _, rfl⟩ := ran
  have found := (filter_eq_some_iff.mp (getOr_eq_ok.mp present)).1
  refine .pure ⟨{ pin with deletedAt := some setting.now }, ?_, rfl⟩
  rw [Networks.pins_updatePinRow, Table.find?_modify, if_pos rfl, found]
  rfl

/-- Nothing in the tables ties a caller to a network: no role of the account
behind them, none of the account that the lane goes by, and no membership of
their device, not even one that waits for approval. -/
structure Unrelated (ledger : Db) (networks : Networks) (pinId : PinId)
    (principal : PrincipalKind) : Prop where
  role : ∀ account, accountOf ledger principal = some account →
    networks.roles.find? (pinId, account) = none
  lane : pinId ≠ "" → ∀ account, laneAccount principal = some account →
    networks.roles.find? (pinId, account) = none
  member : ∀ deviceId, principal = .device deviceId → networks.memberStatus pinId deviceId = none ∨
      networks.memberStatus pinId deviceId = some .removed

section Gone

variable {codec : Codec} {setting : Setting} {networks : Networks}
  {pinId : PinId} {principal : PrincipalKind}

theorem Unrelated.outside (unrelated : Unrelated setting.ledger networks pinId principal)
    (deleted : networks.Deleted pinId) : Outside setting.ledger networks pinId principal where
  role account behind := by
    rw [deleted.roleOf, unrelated.role account behind]
    rfl
  member := unrelated.member

theorem Unrelated.no_lane (unrelated : Unrelated setting.ledger networks pinId principal)
    (deleted : networks.Deleted pinId) : apmhelpLaneRequest pinId networks principal = false := by
  unfold apmhelpLaneRequest
  split
  · rfl
  · next named =>
      have noRole : (laneAccount principal).bind (networks.roleOf pinId) = none := by
        cases behind : laneAccount principal with
        | none => rfl
        | some account =>
          rw [bind_some, deleted.roleOf, unrelated.lane named account behind]
          rfl
      rw [noRole, if_neg (by simp)]
      cases principal with
      | device deviceId => rcases unrelated.member deviceId rfl with none | removed <;> simp [*]
      | _ => rfl

theorem unrelated_of_refused (deleted : networks.Deleted pinId) (refused : ∀ request, serve
        (handleNetwork codec setting principal pinId request) networks =
      (refusal principal request, networks))
    (noLane : apmhelpLaneRequest pinId networks principal = false) :
    Unrelated setting.ledger networks pinId principal where
  role account behind := by
    have noActor := resolveActor_ne_ok_of_refused (refused .listMembers)
    by_contra granted
    obtain ⟨row, found⟩ := ne_none_iff_exists'.mp granted
    apply noActor (.staff account row.role)
    have staff : staffActor setting.ledger networks principal pinId =
        some (.staff account row.role) := by
      rw [staffActor, behind]
      change (networks.roleOf pinId account).bind _ = _
      rw [deleted.roleOf, found]
      rfl
    simp [resolveActor, staff]
  lane named account behind := by
    by_contra granted
    obtain ⟨row, found⟩ := ne_none_iff_exists'.mp granted
    have opens : ((laneAccount principal).bind (networks.roleOf pinId)).isSome := by
      rw [behind, bind_some, deleted.roleOf, found]
      rfl
    unfold apmhelpLaneRequest at noLane
    rw [if_neg named, if_pos opens] at noLane
    cases noLane
  member deviceId isDevice := by
    subst isDevice
    have noActor := resolveActor_ne_ok_of_refused (refused .listMembers)
    cases known : networks.memberStatus pinId deviceId with
    | none => exact Or.inl rfl
    | some status =>
      cases status with
      | active =>
        cases staff : staffActor setting.ledger networks (.device deviceId) pinId with
        | none => exact absurd (by simp [resolveActor, staff, known]) (noActor (.member deviceId))
        | some actor => exact absurd (by simp [resolveActor, staff]) (noActor actor)
      | pending | disabled =>
        have answers := congrArg Prod.fst
          ((sync_of_status {} known (by simp)).symm.trans (refused (.sync {})))
        have sameText := congrArg SyncResponse.membership
          (Response.sync.inj (Except.ok.inj answers))
        exact absurd sameText (by decide)
      | removed => exact Or.inr rfl

end Gone

/-- After a deletion the network is gone for a caller, and its lane closed,
exactly when nothing in the tables ties the caller to it. -/
theorem deleted_network_gone_iff (codec : Codec) (earlier later : List Visit) (deletion : Visit)
    (pinId : PinId) (response : Response)
    (isDeletion : deletion.request = .network pinId .deletePin)
    (succeeded : (deletion.serve codec (visited codec {} earlier)).1 =
      .ok response) (setting : Setting) (principal : PrincipalKind) : ((∀ request, Service.serve
          (handle codec setting principal (.network pinId request))
          (visited codec {} (earlier ++ deletion :: later)) =
        (refusal principal request, visited codec {} (earlier ++ deletion :: later))) ∧
      apmhelpLaneRequest pinId
        (visited codec {} (earlier ++ deletion :: later)) principal = false) ↔
    Unrelated setting.ledger (visited codec {} (earlier ++ deletion :: later)) pinId principal := by
  have deleted : (visited codec {} (earlier ++ deletion :: later)).Deleted pinId := by
    rw [visited, run_append, run_cons]
    apply visited_deleted
    obtain ⟨deleter, caller, request⟩ := deletion
    subst isDeletion
    exact (delete_performs codec deleter caller pinId _).returned response succeeded
  constructor
  · rintro ⟨refused, noLane⟩
    exact unrelated_of_refused deleted refused noLane
  · intro unrelated
    exact ⟨refused_of_outside (unrelated.outside deleted), unrelated.no_lane deleted⟩

/-- The device `e` joins the network `n`. -/
def beforeDeletion : List Visit :=
  [byOwner 0 (.createPin "lab"), byDevice "e" 1 (.join ⟨"AAAA", none, "e"⟩),
    byOwner 2 (.network "n" (.approveMember "e"))]

def deletion : Visit := byOwner 3 (.network "n" .deletePin)

theorem deleted_network_gone_for_stranger :
    (deletion.serve blankCodec (visited blankCodec {} beforeDeletion)).1 = .ok (.status "deleted") ∧
    ∀ request, Service.serve (handle blankCodec (labSetting 4) (.device "d") (.network "n" request))
        (visited blankCodec {} (beforeDeletion ++ [deletion])) =
      (refusal (.device "d") request, visited blankCodec {} (beforeDeletion ++ [deletion])) := by
  have succeeded : (deletion.serve blankCodec (visited blankCodec {} beforeDeletion)).1 =
        .ok (.status "deleted") := by decide +kernel
  have unrelated : Unrelated (labSetting 4).ledger
      (visited blankCodec {} (beforeDeletion ++ [deletion])) "n"
      (.device "d") := by
    have noAccount : accountOf ownerLedger (.device "d") = none := by decide +kernel
    refine ⟨fun account behind => ?_, fun _ account behind => ?_, ?_⟩
    · cases noAccount.symm.trans behind
    · cases behind
    · rintro deviceId ⟨⟩
      exact Or.inl (by decide +kernel)
  exact ⟨succeeded, ((deleted_network_gone_iff blankCodec beforeDeletion []
    deletion "n" _ rfl succeeded (labSetting 4) (.device "d")).mpr unrelated).1⟩

/-- A member of a deleted network still reads the roster, reports usage and has
the lane, and its owner has the lane too. -/
theorem deleted_network_still_served :
    (deletion.serve blankCodec (visited blankCodec {} beforeDeletion)).1 = .ok (.status "deleted") ∧
    (Service.serve (handle blankCodec (labSetting 4) (.device "e") (.network "n" .listMembers))
        (visited blankCodec {} (beforeDeletion ++ [deletion]))).1 = .ok (.members [("e",
        { nodePubkey := "e", displayName := none, status := .active,
          requestedAt := 1, approvedBy := some "owner",
          joinedAt := some 2 })]) ∧
    (serve (handle blankCodec (labSetting 4) (.device "e")
          (.network "n" (.usageReport "b" [])))
        (visited blankCodec {} (beforeDeletion ++ [deletion]))).1 =
      .ok (.status "applied") ∧
    (visited blankCodec {} (beforeDeletion ++ [deletion])).batches.find? ("n", "e", "b") = none ∧
    (serve (handle blankCodec (labSetting 4) (.device "e")
          (.network "n" (.usageReport "b" [])))
        (visited blankCodec {} (beforeDeletion ++ [deletion]))).2.batches.find?
      ("n", "e", "b") = some 4 ∧
    apmhelpLaneRequest "n" (visited blankCodec {} (beforeDeletion ++ [deletion]))
      (.device "e") = true ∧
    apmhelpLaneRequest "n" (visited blankCodec {} (beforeDeletion ++ [deletion]))
      (.apiKey "key" "owner" .live none 0) = true := by
  decide +kernel

end Teale.Gateway.Pins
