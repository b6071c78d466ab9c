import Teale.Gateway.Auth

/-!
# Dispatching a request

The loop of `pick_and_dispatch_inner` (`gateway/src/handlers/chat.rs`) and the `SessionCleanup`
that its callers make of what it returns. A future is dropped where it awaits. Which device is
chosen and what it answers is taken as it comes.
-/

namespace Teale.Gateway

open List

/-- What a dispatch asks of the registry and of the relay. -/
inductive HandleCall
  | admits (nodeId : String) (heavy admitted : Bool)
  | noteModelInFlight (nodeId : String)
  | releaseModelInFlight (nodeId : String)
  | decInFlight (nodeId : String) (heavy : Bool)
  | registerSession (nodeId sessionId : String)
  | closeSession (nodeId sessionId : String)
  | quarantine (nodeId : String)

inductive Opened
  | dropped
  | failed (error : String)
  | ready (sessionId : String)

inductive DispatchRound
  | exceedsContext (estimated ceiling : ℕ)
  | nobody (saturated : Bool)
  | picked (nodeId : String) (admitted : Bool) (opened : Opened)
      (sendError : Option String) (droppedAsleep : Bool)

structure DispatchRequest where
  modelId : String
  heavy : Bool
  saturation429 : Bool
  coldStartGrace : Bool
  maxDispatchGraceRetries : ℕ

structure DispatchState where
  lastDispatchError : Option String := none
  heavyRefused : Bool := false
  dispatchGraceFailures : ℕ := 0

inductive DispatchOutcome
  | dropped
  | failed (error : GatewayError)
  | handedOff (nodeId sessionId : String)

def DispatchState.exhausted (state : DispatchState) (request : DispatchRequest)
    (saturated : Bool) : GatewayError :=
  match state.lastDispatchError with
  | some message => .allUpstreamsFailed message
  | none =>
    if state.heavyRefused then .heavyContention request.modelId
    else if request.saturation429 && saturated then .atCapacity request.modelId
    else .noEligibleDevice request.modelId

def inFlightGuardDrop (request : DispatchRequest) (nodeId : String) : List HandleCall :=
  [.releaseModelInFlight nodeId, .decInFlight nodeId request.heavy]

/-- A dispatch that failed on a device: the device is tried again after a sleep
while there is grace, and is left to quarantine otherwise. -/
def dispatchFailed (request : DispatchRequest) (state : DispatchState)
    (nodeId message : String) (droppedAsleep : Bool) :
    List HandleCall × Except DispatchOutcome DispatchState :=
  let failed := { state with lastDispatchError := some message }
  if request.coldStartGrace ∧
      state.dispatchGraceFailures < request.maxDispatchGraceRetries then
    ([], if droppedAsleep then .error .dropped
      else .ok { failed with
        dispatchGraceFailures := state.dispatchGraceFailures + 1 })
  else ([.quarantine nodeId], .ok failed)

/-- One round of the loop: its calls, and its outcome or the state of the next.
The guard is dropped at the end of a round that hands nothing off. -/
def dispatchRound (request : DispatchRequest) (state : DispatchState) :
    DispatchRound → List HandleCall × Except DispatchOutcome DispatchState
  | .exceedsContext estimated ceiling =>
    ([], .error (.failed (.promptExceedsContext request.modelId estimated ceiling)))
  | .nobody saturated => ([], .error (.failed (state.exhausted request saturated)))
  | .picked nodeId false _ _ _ =>
    ([.admits nodeId request.heavy false], .ok { state with heavyRefused := true })
  | .picked nodeId true opened sendError droppedAsleep =>
    let taken := [.admits nodeId request.heavy true, .noteModelInFlight nodeId]
    let guardDrop := inFlightGuardDrop request nodeId
    match opened, sendError with
    | .dropped, _ => (taken ++ guardDrop, .error .dropped)
    | .failed error, _ =>
      let failed := dispatchFailed request state nodeId ("relay open: " ++ error)
        droppedAsleep
      (taken ++ failed.1 ++ guardDrop, failed.2)
    | .ready sessionId, some error =>
      let failed := dispatchFailed request state nodeId ("relay send: " ++ error)
        droppedAsleep
      (taken ++ [.registerSession nodeId sessionId,
        .closeSession nodeId sessionId] ++ failed.1 ++ guardDrop, failed.2)
    | .ready sessionId, none =>
      (taken ++ [.registerSession nodeId sessionId], .error (.handedOff nodeId sessionId))

def pickAndDispatch (request : DispatchRequest) :
    DispatchState → List DispatchRound → List HandleCall × DispatchOutcome
  | _, [] => ([], .dropped)
  | state, round :: rounds =>
    match dispatchRound request state round with
    | (calls, .error outcome) => (calls, outcome)
    | (calls, .ok next) =>
      let later := pickAndDispatch request next rounds
      (calls ++ later.1, later.2)

/-! ## The response -/

structure SessionCleanup where
  nodeId : String
  sessionId : String
  heavy : Bool
  armed : Bool := true

namespace SessionCleanup

def release (cleanup : SessionCleanup) : List HandleCall :=
  [.closeSession cleanup.nodeId cleanup.sessionId,
    .releaseModelInFlight cleanup.nodeId, .decInFlight cleanup.nodeId cleanup.heavy]

def drop (cleanup : SessionCleanup) : List HandleCall :=
  if cleanup.armed then cleanup.release else []

/-- `run_now`, and the drop of what it leaves -/
def runNow (cleanup : SessionCleanup) : List HandleCall :=
  cleanup.release ++ drop { cleanup with armed := false }

end SessionCleanup

/-- How a response that reads a session goes on: it is done with it, or it is
dropped. -/
inductive SessionEnd
  | runNow
  | dropped

/-- A request with its retries: each is dispatched, and is the last if it hands
nothing off or if the response is dropped. -/
def serveRequest (request : DispatchRequest) :
    List (List DispatchRound × SessionEnd) → List HandleCall
  | [] => []
  | (rounds, ending) :: retries =>
    let dispatched := pickAndDispatch request {} rounds
    match dispatched.2, ending with
    | .dropped, _ | .failed _, _ => dispatched.1
    | .handedOff nodeId sessionId, .dropped =>
      dispatched.1 ++ SessionCleanup.drop ⟨nodeId, sessionId, request.heavy, true⟩
    | .handedOff nodeId sessionId, .runNow =>
      dispatched.1 ++ SessionCleanup.runNow ⟨nodeId, sessionId, request.heavy, true⟩ ++
        serveRequest request retries

/-! ## What is held -/

/-- What a request holds: admissions, notes of its model, and sessions. -/
structure Holding where
  admitted : List (String × Bool) := []
  noted : List String := []
  sessions : List (String × String) := []

namespace Holding

/-- The holding after a call; nothing is released that is not held. -/
def account (holding : Holding) : HandleCall → Option Holding
  | .admits nodeId heavy true =>
    some { holding with admitted := (nodeId, heavy) :: holding.admitted }
  | .noteModelInFlight nodeId => some { holding with noted := nodeId :: holding.noted }
  | .registerSession nodeId sessionId =>
    some { holding with sessions := (nodeId, sessionId) :: holding.sessions }
  | .decInFlight nodeId heavy =>
    if (nodeId, heavy) ∈ holding.admitted then
      some { holding with admitted := holding.admitted.erase (nodeId, heavy) }
    else none
  | .releaseModelInFlight nodeId =>
    if nodeId ∈ holding.noted then
      some { holding with noted := holding.noted.erase nodeId }
    else none
  | .closeSession nodeId sessionId =>
    if (nodeId, sessionId) ∈ holding.sessions then
      some { holding with sessions := holding.sessions.erase (nodeId, sessionId) }
    else none
  | .admits _ _ false | .quarantine _ => some holding

def after (request : DispatchRequest) : DispatchOutcome → Holding
  | .handedOff nodeId sessionId =>
    { admitted := [(nodeId, request.heavy)]
      noted := [nodeId]
      sessions := [(nodeId, sessionId)] }
  | _ => {}

theorem account_append {first second : List HandleCall} {start middle : Holding}
    (accounted : first.foldlM account start = some middle) :
    (first ++ second).foldlM account start = second.foldlM account middle := by
  rw [foldlM_append, accounted]
  rfl

variable (request : DispatchRequest) (state : DispatchState)

theorem dispatchFailed_holds (nodeId message : String) (droppedAsleep : Bool) :
    let failed := dispatchFailed request state nodeId message droppedAsleep
    (∀ holding, failed.1.foldlM account holding = some holding) ∧
      ∀ outcome, failed.2 = .error outcome → after request outcome = {} := by
  rw [dispatchFailed]
  split
  · refine ⟨fun _ => rfl, fun outcome isOutcome => ?_⟩
    cases droppedAsleep with
    | true => exact Except.error.inj isOutcome ▸ rfl
    | false => cases isOutcome
  · exact ⟨fun _ => rfl, nofun⟩

theorem account_dispatchRound
    (round : DispatchRound) : (dispatchRound request state round).1.foldlM account {} =
      some (match (dispatchRound request state round).2 with
        | .error outcome => after request outcome
        | .ok _ => {}) := by
  have fails : ∀ (between : List HandleCall) nodeId message droppedAsleep,
      (∀ holding, between.foldlM account holding = some holding) →
      let failed := dispatchFailed request state nodeId message droppedAsleep
      ([HandleCall.admits nodeId request.heavy true, .noteModelInFlight nodeId] ++
          between ++ failed.1 ++ inFlightGuardDrop request nodeId).foldlM account {} =
        some (match failed.2 with
          | .error outcome => after request outcome
          | .ok _ => {}) := by
    intro between nodeId message droppedAsleep neutral failed
    obtain ⟨changesNothing, holdsNothing⟩ :=
      dispatchFailed_holds request state nodeId message droppedAsleep
    rw [append_assoc, append_assoc, account_append rfl,
      account_append (neutral _), account_append (changesNothing _)]
    cases ended : failed.2 with
    | ok next => simp [inFlightGuardDrop, account]
    | error outcome =>
      dsimp only
      rw [holdsNothing outcome ended]
      simp [inFlightGuardDrop, account]
  cases round with
  | exceedsContext estimated ceiling => rfl
  | nobody saturated => rfl
  | picked nodeId admitted opened sendError droppedAsleep =>
    cases admitted with
    | false => rfl
    | true =>
      cases opened with
      | dropped => simp [dispatchRound, inFlightGuardDrop, account, after]
      | failed error => exact fails [] nodeId ("relay open: " ++ error) droppedAsleep fun _ => rfl
      | ready sessionId =>
        cases sendError with
        | none => rfl
        | some error =>
          exact fails _ nodeId ("relay send: " ++ error) droppedAsleep fun _ => by simp [account]

theorem account_pickAndDispatch
    (rounds : List DispatchRound) : (pickAndDispatch request state rounds).1.foldlM account {} =
      some (after request (pickAndDispatch request state rounds).2) := by
  induction rounds generalizing state with
  | nil => rfl
  | cons round rounds ih =>
    have accounted := account_dispatchRound request state round
    rw [pickAndDispatch]
    split
    · next calls outcome isRound => simpa [isRound] using accounted
    · next calls next isRound =>
        rw [isRound] at accounted
        rw [account_append accounted, ih]

/-- However a request goes, everything is released once that it was admitted to,
and every session closed once that it registered. -/
theorem account_serveRequest (request : DispatchRequest)
    (retries : List (List DispatchRound × SessionEnd)) :
    (serveRequest request retries).foldlM account {} = some {} := by
  have released : ∀ nodeId sessionId, (SessionCleanup.release
      ⟨nodeId, sessionId, request.heavy, true⟩).foldlM account
        (after request (.handedOff nodeId sessionId)) = some {} := by
    simp [SessionCleanup.release, after, account]
  have accounted := account_pickAndDispatch request {}
  fun_induction serveRequest request retries with
  | case1 => rfl
  | case2 rounds _ _ _ ended =>
    exact (accounted rounds).trans (congrArg (some <| after request ·) ended)
  | case3 rounds _ _ _ _ ended =>
    exact (accounted rounds).trans (congrArg (some <| after request ·) ended)
  | case4 rounds _ _ nodeId sessionId ended =>
    rw [account_append (accounted rounds), ended]
    exact released nodeId sessionId
  | case5 rounds _ _ nodeId sessionId ended ih =>
    rw [append_assoc, account_append (accounted rounds), ended, account_append, ih]
    exact (account_append (released nodeId sessionId)).trans rfl

end Holding

end Teale.Gateway
