import Teale.Gateway.Inference.Preparation
import Teale.Lib.Generator

/-!
# Sessions with devices of the fleet

The four bodies that serve a request from the fleet follow a session in one way: it is read until
it completes or fails, a failure before the first chunk is retried on another device while retries
are left, and every other one is final.
-/

namespace Teale.Gateway

open Serde Generator List Nat

variable {F S : Type} {chunks : List (Value F)} {tokensOut : Option ℕ} {tried : ℕ}
  {excluded : List DeviceId}

/-! ## What a device sends -/

inductive SessionEvent (F : Type)
  | chunk (value : Value F)
  | complete (tokensOut : Option ℕ)
  | error (message : String) (code : Option String)
  | disconnect (reason : String)

/-- What a wait for the next event gives. The channel is closed when nothing is
left to receive. -/
inductive Received (F : Type)
  | event (event : SessionEvent F)
  | timeout

/-- A dispatched session, with what the registry says about its device:
`coldStartGrace` before the dispatch, `besideHeavy` and `soleSupplier` at it,
`idle` and `singleSupplier` after the session. -/
structure Session (F : Type) where
  node : DeviceId
  received : List (Received F)
  coldStartGrace : Bool := false
  besideHeavy : Bool := false
  soleSupplier : Bool := false
  idle : Bool := false
  singleSupplier : Bool := false

/-- `pick_and_dispatch`, asked for the `n`-th time without some devices, and the
number of retries. -/
structure Fleet (F : Type) where
  maxRetries : ℕ
  dispatch : ℕ → List DeviceId → Except GatewayError (Session F)

/-! ## What the client receives -/

def GatewayError.text : GatewayError → String
  | unauthorized message => "unauthorized: " ++ message
  | badRequest message => "bad request: " ++ message
  | notFound message => message
  | forbidden message => "forbidden: " ++ message
  | conflict message => "conflict: " ++ message
  | budgetExhausted => "share-key budget exhausted"
  | rateLimited message => "rate limited: " ++ message
  | insufficientCredits balance required =>
    s!"insufficient credits: balance {balance}, need {required}"
  | modelNotFound model => "model not found: " ++ model
  | noEligibleDevice model => "no eligible device for model " ++ model
  | heavyContention model =>
    "heavy-hold: all eligible devices for " ++ model ++
      " are running a heavy request; retry after the incumbent finishes (#247)"
  | promptExceedsContext model estimated ceiling =>
    s!"request claim (~{estimated} tokens: prompt + completion budget) exceeds " ++
      s!"the advertised context ceiling ({ceiling}) of every supplier for model " ++
      model ++ "; not dispatched and not retriable - compact the prompt, " ++
      "lower max_tokens, or raise the supplier ceiling"
  | upstream message => "upstream error: " ++ message
  | allUpstreamsFailed message => "all upstreams failed: " ++ message
  | upstreamTimeout => "timeout waiting for upstream"
  | atCapacity model => "model " ++ model ++ " is at capacity, retry shortly"
  | relayUnavailable message => "relay unavailable: " ++ message
  | other message => message

def GatewayError.code : GatewayError → String
  | unauthorized _ => "unauthorized"
  | badRequest _ => "invalid_request"
  | notFound _ => "not_found"
  | forbidden _ => "forbidden"
  | conflict _ => "conflict"
  | budgetExhausted => "budget_exhausted"
  | rateLimited _ => "rate_limited"
  | insufficientCredits _ _ => "insufficient_credits"
  | modelNotFound _ => "model_not_found"
  | noEligibleDevice _ => "model_unavailable"
  | heavyContention _ => "heavy_contention"
  | promptExceedsContext _ _ _ => "prompt_exceeds_context"
  | upstream _ => "upstream_error"
  | allUpstreamsFailed _ => "upstream_failed"
  | upstreamTimeout => "timeout"
  | atCapacity _ => "at_capacity"
  | relayUnavailable _ => "relay_unavailable"
  | other _ => "internal_error"

/-- A server-sent event: JSON data, with or without a name, or `[DONE]`. -/
inductive Sse (F : Type)
  | data (value : Value F)
  | named (event : String) (value : Value F)
  | done

/-- What a request does besides answering. `close` is the cleanup of a
session. -/
inductive Effect
  | close (node : DeviceId)
  | quarantine (node : DeviceId)
  | settle (call : Call)
  | shadow

def settlements (effects : List Effect) : List Call := effects.filterMap fun effect =>
    match effect with
    | .settle call => some call
    | _ => none

@[simp] theorem settlements_append (first second : List Effect) :
    settlements (first ++ second) = settlements first ++ settlements second :=
  filterMap_append

/-! ## Following a session -/

inductive SessionFailure
  | error (message : String) (code : Option String)
  | disconnect (reason : String)
  | closed
  | timeout

def SessionFailure.gatewayError : SessionFailure → GatewayError
  | error message _ => .upstream message
  | disconnect reason => .upstream reason
  | closed => .upstream "channel closed before completion"
  | timeout => .upstreamTimeout

def SessionFailure.queueFull : SessionFailure → Bool
  | error _ code => code = some "queuefull"
  | _ => false

inductive Ending
  | completed
  | clientError (message : String)
  | retriable (failure : SessionFailure)
  | failed (failure : SessionFailure)

structure SessionRun (F S : Type) where
  items : List (Sse F)
  state : S
  gotFirst : Bool
  ending : Ending

def isBackendClientError (message : String) : Bool :=
  RustText.containsText message "exceed_context_size" ||
    RustText.containsText message "backend returned 4"

/-- What sets the four bodies apart: what they keep, what they answer a chunk
and a failure with, and when they quarantine a device. -/
structure Endpoint (F S : Type) where
  start : S → S
  onChunk : S → Value F → List (Sse F) × S
  onComplete : S → Option ℕ → S
  onFailure : GatewayError → List (Sse F)
  quarantines : Session F → SessionRun F S → Bool
  sameDevice : Session F → SessionRun F S → Bool
  quarantinesBeforeRetry : Session F → SessionRun F S → Bool

/-- A failure is retried before the first chunk while retries are left. -/
def Endpoint.fail (endpoint : Endpoint F S) (mayRetry gotFirst : Bool) (state : S)
    (failure : SessionFailure) : SessionRun F S :=
  if !gotFirst && mayRetry then
    { items := [], state, gotFirst, ending := .retriable failure }
  else
    { items := endpoint.onFailure failure.gatewayError, state, gotFirst,
      ending := .failed failure }

def Endpoint.follow (endpoint : Endpoint F S) (mayRetry : Bool) :
    Bool → S → List (Received F) → SessionRun F S
  | gotFirst, state, [] => endpoint.fail mayRetry gotFirst state .closed
  | _, state, .event (.chunk value) :: rest =>
    let answered := endpoint.onChunk state value
    let run := endpoint.follow mayRetry true answered.2 rest
    { run with items := answered.1 ++ run.items }
  | gotFirst, state, .event (.complete tokensOut) :: _ =>
    { items := [], state := endpoint.onComplete state tokensOut, gotFirst,
      ending := .completed }
  | gotFirst, state, .event (.error message code) :: _ =>
    if isBackendClientError message then
      { items := endpoint.onFailure (.badRequest message), state, gotFirst,
        ending := .clientError message }
    else
      endpoint.fail mayRetry gotFirst state (.error message code)
  | gotFirst, state, .event (.disconnect reason) :: _ =>
    endpoint.fail mayRetry gotFirst state (.disconnect reason)
  | gotFirst, state, .timeout :: _ => endpoint.fail mayRetry gotFirst state .timeout

/-! ## Attempts -/

inductive AttemptsEnd (F S : Type)
  | undispatched (failure : GatewayError)
  | finished (session : Session F) (run : SessionRun F S)

/-- The steps of one attempt: its answers, the cleanup, and the quarantine. -/
def Endpoint.attemptSteps (endpoint : Endpoint F S) (session : Session F) (run : SessionRun F S) :
    List (Step (Sse F) Effect) :=
  run.items.map .yield ++ .act (.close session.node) ::
    if endpoint.quarantines session run then [.act (.quarantine session.node)]
    else []

def Endpoint.excludedNext (endpoint : Endpoint F S) (session : Session F) (run : SessionRun F S)
    (excluded : List DeviceId) : List DeviceId :=
  if endpoint.sameDevice session run then excluded
  else excluded ++ [session.node]

def Endpoint.retrySteps (endpoint : Endpoint F S) (session : Session F) (run : SessionRun F S) :
    List (Step (Sse F) Effect) :=
  if endpoint.sameDevice session run then []
  else if endpoint.quarantinesBeforeRetry session run then
    [.act (.quarantine session.node)]
  else
    []

/-- The loop over attempts; `retries` of them may still be made after this
one, which is the `tried`-th. -/
def Endpoint.attempts (endpoint : Endpoint F S) (fleet : Fleet F) :
    ℕ → ℕ → List DeviceId → S → List (Step (Sse F) Effect) × AttemptsEnd F S
  | retries, tried, excluded, state =>
    match fleet.dispatch tried excluded with
    | .error failure => ([], .undispatched failure)
    | .ok session =>
      let run := endpoint.follow (0 < retries) false (endpoint.start state)
        session.received
      let steps := endpoint.attemptSteps session run
      match run.ending, retries with
      | .retriable _, retries + 1 =>
        let later := endpoint.attempts fleet retries (tried + 1)
          (endpoint.excludedNext session run excluded) run.state
        (steps ++ endpoint.retrySteps session run ++ later.1, later.2)
      | _, _ => (steps, .finished session run)

/-! ## Requests that complete -/

def Session.Completes (session : Session F) (chunks : List (Value F)) (tokensOut : Option ℕ) :
    Prop :=
  ∃ rest, session.received = chunks.map (fun value => .event (.chunk value)) ++
      .event (.complete tokensOut) :: rest

/-- The session fails before its first chunk, and the request is not to
blame. -/
def Session.FailsEarly (session : Session F) (failure : SessionFailure) : Prop :=
  match session.received with
  | [] => failure = .closed
  | .timeout :: _ => failure = .timeout
  | .event (.disconnect reason) :: _ => failure = .disconnect reason
  | .event (.error message code) :: _ =>
    isBackendClientError message = false ∧ failure = .error message code
  | .event (.chunk _) :: _ | .event (.complete _) :: _ => False

def SessionRun.retried (state : S) (failure : SessionFailure) : SessionRun F S :=
  { items := [], state, gotFirst := false, ending := .retriable failure }

/-- Some attempt within the retries reaches a session that sends these chunks
and completes. -/
inductive Endpoint.Delivers
    (endpoint : Endpoint F S) (fleet : Fleet F) (node : DeviceId)
    (chunks : List (Value F)) (tokensOut : Option ℕ) :
    ℕ → ℕ → List DeviceId → S → Prop
  | now {retries tried : ℕ} {excluded : List DeviceId} {state : S} {session : Session F}
      (dispatched : fleet.dispatch tried excluded = .ok session)
      (served : session.node = node)
      (completes : session.Completes chunks tokensOut) :
      Delivers endpoint fleet node chunks tokensOut retries tried excluded state
  | later {retries tried : ℕ} {excluded : List DeviceId} {state : S}
      {session : Session F} {failure : SessionFailure}
      (dispatched : fleet.dispatch tried excluded = .ok session)
      (fails : session.FailsEarly failure)
      (delivers : Delivers endpoint fleet node chunks tokensOut retries (tried + 1)
        (endpoint.excludedNext session (.retried (endpoint.start state) failure)
          excluded) (endpoint.start state)) :
      Delivers endpoint fleet node chunks tokensOut (retries + 1) tried excluded state

def Endpoint.answer (endpoint : Endpoint F S) : S → List (Value F) → List (Sse F) × S
  | state, [] => ([], state)
  | state, value :: rest =>
    let answered := endpoint.onChunk state value
    let later := endpoint.answer answered.2 rest
    (answered.1 ++ later.1, later.2)

open Endpoint

theorem Endpoint.answer_view {T : Type} (endpoint : Endpoint F S) (view : S → T)
    (observe : T → Value F → T)
    (observes : ∀ state chunk,
      view (endpoint.onChunk state chunk).2 = observe (view state) chunk)
    (chunks : List (Value F)) (state : S) :
    view (endpoint.answer state chunks).2 = chunks.foldl observe (view state) := by
  induction chunks generalizing state with
  | nil => rfl
  | cons chunk rest ih =>
    rw [foldl_cons, ← observes]
    exact ih _

def Endpoint.completedRun (endpoint : Endpoint F S) (state : S) (chunks : List (Value F))
    (tokensOut : Option ℕ) (gotFirst : Bool) : SessionRun F S :=
  { items := (endpoint.answer state chunks).1
    state := endpoint.onComplete (endpoint.answer state chunks).2 tokensOut
    gotFirst
    ending := .completed }

variable {session : Session F} {endpoint : Endpoint F S} {fleet : Fleet F}
  {failure : SessionFailure}

theorem Endpoint.follow_completes (endpoint : Endpoint F S) (mayRetry gotFirst : Bool) (state : S)
    (completes : session.Completes chunks tokensOut) :
    ∃ first, endpoint.follow mayRetry gotFirst state session.received =
      endpoint.completedRun state chunks tokensOut first := by
  obtain ⟨rest, received⟩ := completes
  rw [received]
  clear received
  induction chunks generalizing gotFirst state with
  | nil => exact ⟨gotFirst, rfl⟩
  | cons value tail ih =>
    obtain ⟨first, followed⟩ := ih true (endpoint.onChunk state value).2
    refine ⟨first, ?_⟩
    simp only [map_cons, cons_append, follow, followed]
    rfl

theorem Endpoint.follow_failsEarly (endpoint : Endpoint F S) (state : S)
    (fails : session.FailsEarly failure) :
    endpoint.follow true false state session.received = .retried state failure := by
  unfold Session.FailsEarly at fails
  split at fails
  case h_1 empty =>
    rw [empty, fails]
    rfl
  case h_2 received =>
    rw [received, fails]
    rfl
  case h_3 received =>
    rw [received, fails]
    rfl
  case h_4 received =>
    rw [received, fails.2]
    simp [follow, fails.1, fail, SessionRun.retried]
  case h_5 | h_6 => exact fails.elim

@[simp] theorem Endpoint.settlements_attemptSteps
    (endpoint : Endpoint F S) (session : Session F) (run : SessionRun F S) :
    settlements (effects (endpoint.attemptSteps session run)) = [] := by
  unfold attemptSteps
  split <;> simp [settlements]

@[simp] theorem Endpoint.settlements_retrySteps
    (endpoint : Endpoint F S) (session : Session F) (run : SessionRun F S) :
    settlements (effects (endpoint.retrySteps session run)) = [] := by
  unfold retrySteps
  repeat' split
  all_goals simp [settlements]

theorem Endpoint.items_retrySteps
    (endpoint : Endpoint F S) (session : Session F) (run : SessionRun F S) :
    items (endpoint.retrySteps session run) = [] := by
  unfold retrySteps
  repeat' split
  all_goals rfl

@[simp] theorem Endpoint.items_attemptSteps
    (endpoint : Endpoint F S) (session : Session F) (run : SessionRun F S) :
    items (endpoint.attemptSteps session run) = run.items := by
  unfold attemptSteps
  split <;> simp

theorem Endpoint.settlements_attempts
    (endpoint : Endpoint F S) (fleet : Fleet F) (retries tried : ℕ)
    (excluded : List DeviceId) (state : S) :
    settlements (effects (endpoint.attempts fleet retries tried excluded state).1) = [] := by
  fun_induction attempts endpoint fleet retries tried excluded state with
  | case1 => rfl
  | case2 _ _ _ _ _ _ _ run steps _ later ih => simp [steps, later, ih]
  | case3 => exact endpoint.settlements_attemptSteps _ _

theorem Endpoint.attempts_of_completes (dispatched : fleet.dispatch tried excluded = .ok session)
    (completes : session.Completes chunks tokensOut) (retries : ℕ) (state : S) : ∃ first,
      let run := endpoint.completedRun (endpoint.start state) chunks tokensOut
        first
      endpoint.attempts fleet retries tried excluded state =
        (endpoint.attemptSteps session run, .finished session run) := by
  obtain ⟨first, followed⟩ := endpoint.follow_completes (0 < retries) false
    (endpoint.start state) completes
  refine ⟨first, ?_⟩
  rw [attempts]
  simp only [dispatched, followed]
  rfl

theorem Endpoint.attempts_of_failsEarly (dispatched : fleet.dispatch tried excluded = .ok session)
    (fails : session.FailsEarly failure) (retries : ℕ) (state : S) :
    let run := SessionRun.retried (endpoint.start state) failure
    let later := endpoint.attempts fleet retries (tried + 1)
      (endpoint.excludedNext session run excluded) (endpoint.start state)
    endpoint.attempts fleet (retries + 1) tried excluded state =
      (endpoint.attemptSteps session run ++ endpoint.retrySteps session run ++
        later.1, later.2) := by
  have followed := endpoint.follow_failsEarly (endpoint.start state) fails
  dsimp only
  rw [attempts]
  simp only [dispatched, zero_lt_succ, decide_true, followed]
  rfl

/-- What the attempts of a request come to when a session delivers: the answers
to its chunks, and nothing settled yet. -/
structure Endpoint.Serves
    (endpoint : Endpoint F S) (node : DeviceId) (chunks : List (Value F))
    (tokensOut : Option ℕ) (state : S)
    (attempted : List (Step (Sse F) Effect) × AttemptsEnd F S) : Prop where
  finished : ∃ session first, session.node = node ∧ attempted.2 = .finished session
      (endpoint.completedRun (endpoint.start state) chunks tokensOut first)
  answered : items attempted.1 = (endpoint.answer (endpoint.start state) chunks).1
  unsettled : settlements (effects attempted.1) = []

/-- Retries leave no trace in what a body keeps, so a request that is delivered
is answered from the chunks of the session that completes. -/
theorem Endpoint.attempts_serves
    (restarts : ∀ state, endpoint.start (endpoint.start state) = endpoint.start state)
    (delivers : endpoint.Delivers fleet node chunks tokensOut retries tried excluded state) :
    endpoint.Serves node chunks tokensOut state
      (endpoint.attempts fleet retries tried excluded state) := by
  have unsettled := endpoint.settlements_attempts fleet retries tried excluded state
  induction delivers with
  | @now retries _ _ state session dispatched served completes =>
    obtain ⟨first, attempted⟩ := attempts_of_completes dispatched completes retries state
    rw [attempted] at unsettled ⊢
    exact ⟨⟨session, first, served, rfl⟩, endpoint.items_attemptSteps _ _, unsettled⟩
  | @later retries _ _ state session failure dispatched fails _ ih =>
    obtain ⟨finished, answered, -⟩ := ih (endpoint.settlements_attempts ..)
    rw [restarts] at finished answered
    rw [attempts_of_failsEarly dispatched fails retries state] at unsettled ⊢
    refine ⟨finished, ?_, unsettled⟩
    simp only [items_append, items_attemptSteps, items_retrySteps, answered]
    rfl

end Teale.Gateway
