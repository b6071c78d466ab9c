import Teale.Gateway.Pins.Handlers
import Teale.Gateway.Pins.Membership

/-!
# Runs of requests

Which calls the endpoints of private networks make, and what follows for every sequence of
requests.
-/

namespace Teale.Gateway.Pins

open Relational Transactional Service Protocol List

/-! ## The calls of a request -/

/-- A call that stores a key stores what the caller sent, for the device that
called. -/
def Permits (principal : PrincipalKind) (request : Request) : PinCall → Prop
  | .submitJoin _ deviceId nodePubkey _ _ =>
    principal = .device deviceId ∧ ∃ req, request = .join req ∧ req.nodePubkey = nodePubkey
  | .updateMemberEndpoints pinId deviceId _ _ wgPubkey _ =>
    principal = .device deviceId ∧
      ∃ req, request = .network pinId (.sync req) ∧ req.wgPubkey = wgPubkey
  | _ => True

def Response.Shows (codec : Codec) (setting : Setting) (networks : Networks) : Response → Prop
  | .sync response => ∀ signed, response.netmap = some signed →
      ∃ pinId pin, signed.netmap = assembleNetmap codec networks pinId pin setting.live setting.now
  | .schedule response => ∃ pinId, ∃ device ∈ setting.devices, ∃ member ∈ networks.serving pinId,
        member.2.nodePubkey = device.nodeId ∧ response.deviceId = member.1 ∧
          response.nodePubkey = device.nodeId
  | _ => True

section Calls

variable {codec : Codec} {setting : Setting} {principal : PrincipalKind}
  {networks : Networks} {pinId : PinId} {permitted : PinCall → Prop}
  {post : Response → Networks → Prop} {translate : LedgerError → Failure}

theorem requireDevice_eq_ok_iff :
    requireDevice principal = .ok deviceId ↔ principal = .device deviceId := by
  cases principal <;> simp [requireDevice]

/-- The service makes permitted calls only. -/
abbrev Makes {α : Type} (codec : Codec) (permitted : PinCall → Prop)
    (service : Service Networks Failure α) (networks : Networks) (post : α → Networks → Prop) :
    Prop :=
  Performs (PinCall.execute codec) (fun _ => permitted) service networks post

theorem performs_checked {α : Type} {check : Networks → Except Failure α}
    {operation : α → Networks → Tx Networks} {answer : α → Response} (call : α → PinCall)
    (fits : ∀ value networks, (call value).execute codec networks = operation value networks ∧
      permitted (call value) ∧ post (answer value) networks) :
    Makes codec permitted (query check >>= fun value =>
        perform (operation value) translate >>= fun _ => pure (answer value)) networks post :=
  .after .query fun value _ =>
    .answer (.perform (call value) (fits value networks).1 (fits value networks).2.1)
      fun _ after _ => (fits value after).2.2

theorem performs_read {α : Type} {check : Networks → Except Failure α}
    {read : α → Networks → Except Failure Response}
    (shown : ∀ value state response, check state = .ok value →
      read value state = .ok response → post response state) :
    Makes codec permitted (query check >>= fun value => query (read value)) networks post :=
  .after .query fun value checked =>
    .of_unchanged rfl fun response answered => shown value networks response checked answered

theorem scheduleAmong_ok {req : ScheduleReq} {response : ScheduleResponse}
    (answered : scheduleAmong codec setting pinId networks req = .ok response) :
    ∃ device ∈ setting.devices, ∃ member ∈ networks.serving pinId,
      member.2.nodePubkey = device.nodeId ∧ response.deviceId = member.1 ∧
        response.nodePubkey = device.nodeId := by
  simp only [scheduleAmong, ok_iff] at answered
  obtain ⟨device, picked, member, found, rfl⟩ := answered
  have candidate := setting.pick_mem _ _ _ picked
  have sameKey : member.2.nodePubkey = device.nodeId := by simpa using find?_some found
  exact ⟨device, (mem_filter.mp candidate).1, member,
    mem_reverse.mp (mem_of_find?_eq_some found), sameKey, rfl,
    sameKey⟩

/-- The `expect` of `schedule` never fails. -/
theorem scheduleAmong_ne_panic (req : ScheduleReq) :
    scheduleAmong codec setting pinId networks req ≠ .error .panic := by
  intro panics
  rw [scheduleAmong] at panics
  cases picked : setting.pick (setting.devices.filter fun device =>
      (servingWithKey (networks.serving pinId) device.nodeId).isSome) req with
  | none =>
    rw [picked] at panics
    cases panics
  | some device =>
    have candidate := (mem_filter.mp (setting.pick_mem _ _ _ picked)).2
    obtain ⟨member, found⟩ := Option.isSome_iff_exists.mp candidate
    simp only [picked, getOr] at panics
    simp [found, Bind.bind, Except.bind, Pure.pure, Except.pure] at panics

theorem syncActive_performs (deviceId : DeviceId) (req : SyncReq)
    (sent : ∀ endpoints models now, permitted
      (.updateMemberEndpoints pinId deviceId endpoints models req.wgPubkey now))
    (switched : ∀ offersExit, permitted (.setMemberOffersExit pinId deviceId offersExit))
    (reported : ∀ statuses now, permitted (.reportModelPolicyStatus pinId deviceId statuses now)) :
    Makes codec permitted
      (syncActive codec setting pinId deviceId req) networks fun response state =>
        (Response.sync response).Shows codec setting state := by
  refine .bind (.perform (.updateMemberEndpoints ..) rfl (sent _ _ _)) ?_
  intro _ state _
  have exits : Makes codec permitted
      (syncOffersExit pinId deviceId req.offersExit) state
      fun _ _ => True := by
    cases req.offersExit with
    | none => exact .pure trivial
    | some offersExit =>
      exact .drop (.perform (.setMemberOffersExit ..) rfl (switched offersExit))
  refine .bind exits ?_
  intro _ state _
  have reports : Makes codec permitted
      (syncModelPolicy setting pinId deviceId req.modelPolicyStatus) state
      fun _ _ => True := by
    rw [syncModelPolicy]
    split
    · exact .pure trivial
    · exact .drop (.perform (.reportModelPolicyStatus ..) rfl (reported _ _))
  refine .bind reports ?_
  intro _ state _
  refine .after .query fun pin _ => ?_
  refine .after .require fun identity _ => ?_
  refine .after .query fun netmap built => ?_
  refine .of_unchanged rfl fun response answered signed isSigned => ?_
  cases answered
  simp only [mapError_eq_ok, buildNetmap, ok_iff] at built
  obtain ⟨row, -, rfl⟩ := built
  cases isSigned
  exact ⟨pinId, row, rfl⟩

theorem sync_performs (req : SyncReq) : Makes codec (Permits principal (.network pinId (.sync req)))
      (sync codec setting principal pinId req) networks fun response state =>
        (Response.sync response).Shows codec setting state := by
  refine .bind .outcome ?_
  rintro deviceId state ⟨isDevice, rfl⟩
  refine .after .query fun status _ => ?_
  have silent : ∀ membership signed, ({ membership } : SyncResponse).netmap = some signed →
        ∃ pinId pin, signed.netmap =
          assembleNetmap codec state pinId pin setting.live setting.now := by
    intro membership signed isSigned
    cases isSigned
  split
  · apply syncActive_performs
    · intro _ _ _
      exact ⟨requireDevice_eq_ok_iff.mp isDevice, req, rfl, rfl⟩
    · intro _
      trivial
    · intro _ _
      trivial
  · exact .pure (silent _)
  · exact .pure (silent _)
  · exact .pure (silent _)

theorem schedule_performs (req : ScheduleReq) :
    Makes codec permitted
      (schedule codec setting principal pinId req) networks fun response state =>
        (Response.schedule response).Shows codec setting state := by
  refine .after .query fun caller _ => ?_
  exact .of_unchanged rfl fun response answered => ⟨pinId, scheduleAmong_ok answered⟩

theorem join_performs (req : JoinReq) :
    Makes codec (Permits principal (.join req))
      (join setting principal req) networks fun response state =>
        response.Shows codec setting state := by
  refine .after .outcome fun deviceId isDevice => ?_
  split
  · refine .after .query fun found _ => ?_
    cases found with
    | none => exact .pure trivial
    | some pinId =>
      exact .answer (.perform (.submitJoin ..) rfl
          ⟨requireDevice_eq_ok_iff.mp isDevice, req, rfl, rfl⟩) fun _ _ _ => trivial
  · exact .pure trivial

theorem patchMember_performs (deviceId : DeviceId) (req : PatchMemberReq) :
    Makes codec (Permits principal (.network pinId (.patchMember deviceId req)))
      (patchMember setting principal pinId deviceId req) networks
      fun response state => response.Shows codec setting state := by
  have checks : Makes codec (Permits principal (.network pinId (.patchMember deviceId req)))
      (patchActor setting principal pinId req) networks
      fun _ _ => True := by
    rw [patchActor]
    split
    · exact .drop .query
    · exact .drop .query
  refine .bind checks ?_
  intro _ state _
  have rows : Makes codec (Permits principal (.network pinId (.patchMember deviceId req)))
      (patchRow pinId deviceId req) state fun _ _ => True := by
    rw [patchRow]
    split
    · exact .drop (.perform (.updateMember ..) rfl trivial)
    · exact .pure trivial
  refine .bind rows ?_
  intro _ state _
  have switches : Makes codec (Permits principal (.network pinId (.patchMember deviceId req)))
      (patchDisabled pinId deviceId req.disabled) state fun _ _ => True := by
    cases req.disabled with
    | none => exact .pure trivial
    | some disabled =>
      exact .drop (.perform (.setMemberDisabled ..) rfl trivial)
  exact .answer switches fun _ _ _ => trivial

theorem handleNetwork_performs (request : NetworkRequest) :
    Makes codec (Permits principal (.network pinId request))
      (handleNetwork codec setting principal pinId request) networks
      fun response state => response.Shows codec setting state := by
  cases request with
  | getPin =>
    refine .after .query fun caller _ => ?_
    refine performs_read fun pin state response _ answered => ?_
    cases answered
    trivial
  | listMembers | getModels | usage =>
    refine performs_read fun caller state response _ answered => ?_
    cases answered
    trivial
  | approveMember deviceId =>
    exact performs_checked (fun account => .approveMember pinId deviceId account setting.now)
      fun _ _ => ⟨rfl, trivial, trivial⟩
  | denyMember deviceId =>
    exact performs_checked (fun _ => .denyMember pinId deviceId)
      fun _ _ => ⟨rfl, trivial, trivial⟩
  | patchMember deviceId req => exact patchMember_performs deviceId req
  | removeMember deviceId =>
    exact performs_checked (fun account => .removeMember pinId deviceId account setting.now)
      fun _ _ => ⟨rfl, trivial, trivial⟩
  | leave =>
    exact performs_checked (fun deviceId => .removeMember pinId deviceId deviceId setting.now)
      fun _ _ => ⟨rfl, trivial, trivial⟩
  | rotateCode =>
    exact performs_checked (fun _ => .rotateJoinCode pinId (setting.draw 0))
      fun _ _ => ⟨rfl, trivial, trivial⟩
  | getJoinCode =>
    refine .after .query fun account _ => ?_
    exact .answer .query fun _ _ _ => trivial
  | setRole account role =>
    cases role with
    | some role =>
      exact performs_checked (fun granter => .grantRole pinId account role granter setting.now)
        fun _ _ => ⟨rfl, trivial, trivial⟩
    | none =>
      exact performs_checked (fun _ => .revokeRole pinId account)
        fun _ _ => ⟨rfl, trivial, trivial⟩
  | putSettings req =>
    refine .after .query fun account _ => ?_
    refine .after .query fun pin _ => ?_
    refine .after .refuseIf fun _ _ => ?_
    exact .answer (.perform (.setSettings ..) rfl trivial) fun _ _ _ => trivial
  | deletePin =>
    refine .after .query fun account _ => ?_
    refine .after .query fun pin _ => ?_
    refine .after .refuseIf fun _ _ => ?_
    exact .answer (.perform (.deletePin ..) rfl trivial) fun _ _ _ => trivial
  | sync req =>
    refine .bind (sync_performs req) ?_
    intro response state shows
    exact .pure shows
  | schedule req =>
    refine .bind (schedule_performs req) ?_
    intro response state shows
    exact .pure shows
  | setDeviceModels deviceId models =>
    refine .after .query fun account _ => ?_
    refine .after .query fun status _ => ?_
    refine .after .refuseIf fun _ _ => ?_
    refine .bind (.perform (.setModelPolicy ..) rfl trivial) ?_
    intro _ state _
    refine .of_unchanged rfl fun response answered => ?_
    cases answered
    trivial
  | usageReport batchId entries =>
    refine .after .outcome fun deviceId _ => ?_
    refine .after .query fun status _ => ?_
    refine .after .refuseIf fun _ _ => ?_
    refine .after .refuseIf fun _ _ => ?_
    exact .answer (.transact (.recordUsageBatch ..) rfl trivial) fun _ _ _ => trivial

theorem handle_performs (request : Request) :
    Makes codec (Permits principal request)
      (handle codec setting principal request) networks fun response state =>
        response.Shows codec setting state := by
  cases request with
  | createPin name =>
    refine .after .require fun account _ => ?_
    exact .answer (.perform (.createPin ..) rfl trivial) fun _ _ _ => trivial
  | listPins =>
    refine .of_unchanged rfl fun response answered => ?_
    cases answered
    trivial
  | join req => exact join_performs req
  | network pinId request => exact handleNetwork_performs request

end Calls

/-! ## Runs -/

structure Visit where
  setting : Setting
  principal : PrincipalKind
  request : Request

def Visit.serve (visit : Visit) (codec : Codec) (networks : Networks) :
    Except Failure Response × Networks :=
  Service.serve (handle codec visit.setting visit.principal visit.request) networks

def visited (codec : Codec) (networks : Networks) (visits : List Visit) : Networks :=
  run (fun networks visit => (visit.serve codec networks).2) networks visits

def history (codec : Codec) : Networks → List Visit → List (Visit × Except Failure Response)
  | _, [] => []
  | networks, visit :: visits =>
    (visit, (visit.serve codec networks).1) :: history codec (visit.serve codec networks).2 visits

section Invariants

variable {codec : Codec} {invariant : Networks → Prop}

theorem Visit.serve_invariant {visit : Visit} (preserved : ∀ networks call after,
      Permits visit.principal visit.request call → invariant networks →
      call.execute codec networks = .ok after → invariant after) (initially : invariant networks) :
    invariant (visit.serve codec networks).2 :=
  (handle_performs visit.request).invariant invariant preserved initially

theorem exists_of_mem_history {visits : List Visit}
    (preserved : ∀ visit ∈ visits, ∀ networks call after,
      Permits visit.principal visit.request call → invariant networks →
      call.execute codec networks = .ok after → invariant after)
    (initially : invariant networks) {visit : Visit} {answer : Except Failure Response}
    (answered : (visit, answer) ∈ history codec networks visits) :
    visit ∈ visits ∧ ∃ after, invariant after ∧ ∀ response, answer = .ok response →
        response.Shows codec visit.setting after := by
  induction visits generalizing networks with
  | nil => cases answered
  | cons first visits ih =>
    have next : invariant (first.serve codec networks).2 :=
      first.serve_invariant (preserved first mem_cons_self) initially
    rcases mem_cons.mp answered with isFirst | later
    · cases isFirst
      exact ⟨mem_cons_self, _, next, (handle_performs visit.request).returned⟩
    · obtain ⟨listed, shown⟩ := ih
        (forall_mem_cons.mp preserved).2
        next later
      exact ⟨mem_cons_of_mem _ listed, shown⟩

end Invariants

/-- The gateway in the runs that serve as examples. The device `d` is connected. -/
def labSetting (now : Timestamp) : Setting where
  ledger := ownerLedger
  identity := some ⟨"gateway", fun _ => "signature"⟩
  devices := [⟨"d", []⟩]
  pick candidates _ := candidates.head?
  pick_mem _ _ _ := List.mem_of_mem_head?
  joinAllowed := true
  now
  draw n := if n = 0 then "n" else "AAAA"

def byOwner (now : Timestamp) (request : Request) : Visit :=
  ⟨labSetting now, .apiKey "key" "owner" .live none 0, request⟩

def byDevice (deviceId : DeviceId) (now : Timestamp) (request : Request) : Visit :=
  ⟨labSetting now, .device deviceId, request⟩

end Teale.Gateway.Pins
