import Teale.Gateway.Inference.Centralized
import Teale.Gateway.Inference.Completion
import Teale.Gateway.Inference.Translation

/-!
# Who may run inference

What a request for inference sets off: requests to providers, sessions with devices and calls of
the ledger. Every handler turns account sessions away; the role of an API key is read by none of
them.
-/

namespace Teale.Gateway

open Floating Serde Generator Transactional List

variable {F : Type}

/-! ## The rounds of a request in the fleet -/

/-- The devices a session was opened with. Every session is closed. -/
def dispatchedDevices (effects : List Effect) : List DeviceId := effects.filterMap fun effect =>
    match effect with
    | .close node => some node
    | _ => none

abbrev Round (F : Type) := List Effect × Except GatewayError (Response F)

section Rounds

variable [FloatArith F]

/-- The loop of `chat_completions` and of `messages` over models, with the
effects of all rounds; `retries` of them are left. -/
def cascadeRounds (supply : Supply F) (db : Db) (principal : PrincipalKind) (req : Value F)
    (serve : List String → PreparedChatRequest F → Round F) : ℕ → List String → Round F
  | retries, excluded =>
    match prepareChatRequestExcluding supply db principal req excluded with
    | .error failure => ([], .error failure)
    | .ok prepared =>
      let round := serve excluded prepared
      match round.2, retries with
      | .error failure, retries + 1 =>
        if prepared.wasVirtualResolution && failure.cascades then
          let later := cascadeRounds supply db principal req serve retries
            (excluded ++ [prepared.catalogModel.id])
          (round.1 ++ later.1, later.2)
        else
          round
      | _, _ => round

def chatRound (environment : ChatEnvironment F) (reader : Reader)
    (excluded : List String) (prepared : PreparedChatRequest F) : Round F :=
  let request := environment.request excluded prepared
  let degraded := prepared.toolsLaneFallback
  if prepared.streaming then
    (effects (executed (runStreaming request) reader),
      .ok { reply := .fleetStream (runStreaming request), degraded })
  else
    let run := runBuffered request
    (run.1, run.2.map fun value => { reply := .json value, degraded })

theorem settlements_runBuffered_of_error {request : FleetRequest F} {failure : GatewayError}
    (failed : (runBuffered request).2 = .error failure) :
    settlements (runBuffered request).1 = [] := by
  unfold runBuffered at failed ⊢
  dsimp only at failed ⊢
  rw [settlements_append, Endpoint.settlements_attempts, nil_append]
  generalize (chatBuffered.attempts request.fleet request.fleet.maxRetries 1 []
    {}).2 = ended at failed ⊢
  cases ended with
  | undispatched failure => rfl
  | finished session run =>
    simp only [afterBufferedAttempts] at failed ⊢
    split at failed
    case h_1 => simp at failed
    case h_2 | h_3 | h_4 => rfl

/-- The ledger calls of a dispatch, with those its stream makes while it is
read. -/
def Dispatched.allCalls (dispatched : Dispatched F (Except GatewayError (Response F)))
    (reader : Reader) : List Call :=
  dispatched.calls ++
    match dispatched.outcome with
    | .ok ⟨.fleetStream steps, _⟩ => ledgerCalls steps reader
    | _ => []

theorem chatRound_eq (environment : ChatEnvironment F) (reader : Reader) (excluded : List String)
    (prepared : PreparedChatRequest F) :
    let round := chatRound environment reader excluded prepared
    let served := serveFromFleet environment excluded prepared
    round.2 = served.outcome ∧ settlements round.1 = served.allCalls reader := by
  unfold chatRound serveFromFleet
  split
  · exact ⟨rfl, rfl⟩
  · refine ⟨rfl, ?_⟩
    simp only [Dispatched.fleet, Dispatched.allCalls]
    cases (runBuffered (environment.request excluded prepared)).2 <;> simp [Except.map]

theorem settlements_chatRound_of_error
    {environment : ChatEnvironment F} {reader : Reader} {excluded : List String}
    {prepared : PreparedChatRequest F} {failure : GatewayError}
    (failed : (chatRound environment reader excluded prepared).2 = .error failure) :
    settlements (chatRound environment reader excluded prepared).1 = [] := by
  unfold chatRound at failed ⊢
  split at failed
  case isTrue => simp at failed
  case isFalse buffered =>
    rw [if_neg buffered]
    cases ran : (runBuffered (environment.request excluded prepared)).2 with
    | ok value => simp [ran, Except.map] at failed
    | error cause => exact settlements_runBuffered_of_error ran

/-- The rounds end and settle as the cascade does. -/
theorem cascadeRounds_eq (environment : ChatEnvironment F) (reader : Reader) (db : Db)
    (principal : PrincipalKind) (req : Value F) (retries : ℕ) (excluded : List String) :
    let rounds := cascadeRounds environment.supply db principal req
      (chatRound environment reader) retries excluded
    let dispatched := cascade environment db principal req retries excluded
    rounds.2 = dispatched.outcome ∧ settlements rounds.1 = dispatched.allCalls reader := by
  fun_induction cascade environment db principal req retries excluded with
  | case1 retries excluded failure prepares =>
    simp only [cascadeRounds.eq_def, prepares]
    exact ⟨rfl, rfl⟩
  | case2 excluded prepared prepares _ failure retries ended cascades later =>
    have ends := (chatRound_eq environment reader excluded prepared).1.trans ended
    rw [cascadeRounds.eq_def]
    simpa only [prepares, ends, cascades, if_true, settlements_append,
      settlements_chatRound_of_error ends, nil_append] using later
  | case3 excluded prepared prepares _ failure retries ended stays =>
    have same := chatRound_eq environment reader excluded prepared
    rw [cascadeRounds.eq_def]
    simpa only [prepares, same.1.trans ended, if_neg stays] using same
  | case4 retries excluded prepared prepares _ stays =>
    have same := chatRound_eq environment reader excluded prepared
    rw [cascadeRounds.eq_def]
    simp only [prepares]
    split
    · exact absurd rfl (stays _ _ (same.1.symm.trans ‹_›))
    · exact same

end Rounds

/-! ## The endpoints -/

structure InferenceEnvironment (F : Type) extends ChatEnvironment F where
  json : JsonText F
  /-- Reads the arguments of a tool call. -/
  parseJson : String → Option (Value F)

/-- What a request sets off, and what it is answered with. The answer is that of
the fleet or the provider, before completions and responses rewrite it. -/
structure InferenceRun (F : Type) where
  sent : List (ProviderRow × Value F) := []
  devices : List DeviceId := []
  calls : List Call := []
  outcome : Except GatewayError (Response F)

structure InferenceRun.Idle (run : InferenceRun F) : Prop where
  sent : run.sent = []
  devices : run.devices = []
  calls : run.calls = []

inductive InferenceEndpoint
  | chatCompletions
  | completions
  | messages
  | responses
  deriving DecidableEq, Repr

/-- What is answered is what some candidate answered. -/
theorem tryCandidates_answer {P : Response F → Prop}
    {dispatch : ProviderCandidate F → Dispatched F (Except ProviderError (Response F))}
    (answers : ∀ candidate response, (dispatch candidate).outcome = .ok response → P response)
    {allowFallbacks : Bool} {lastError : GatewayError}
    {candidates : List (ProviderCandidate F)} {response : Response F}
    (answered : (tryCandidates dispatch allowFallbacks lastError
      candidates).outcome = .ok response) : P response := by
  fun_induction tryCandidates dispatch allowFallbacks lastError candidates with
  | case1 => cases answered
  | case2 _ candidate _ _ _ attempted =>
    cases answered
    exact answers candidate _ attempted
  | case3 _ _ _ _ _ _ _ _ ih => exact ih answered
  | case4 => cases answered

section Endpoints

variable [FloatArith F] {principal : PrincipalKind} (environment : InferenceEnvironment F)

def fleetRun (rounds : Round F) : InferenceRun F :=
  { devices := dispatchedDevices rounds.1
    calls := settlements rounds.1
    outcome := rounds.2 }

def runChatCompletions (environment : InferenceEnvironment F) (reader : Reader) (db : Db)
    (principal : PrincipalKind) (req : Value F) : InferenceRun F :=
  match rejectAccountSession principal with
  | .error failure => { outcome := .error failure }
  | .ok _ =>
    let centralized := tryCentralizedDispatch environment.providers
      environment.supply.loadedCount environment.receipts principal req
    match centralized.2 with
    | some dispatched =>
      { sent := dispatched.sent
        calls := dispatched.calls
        outcome := dispatched.outcome }
    | none => fleetRun (cascadeRounds environment.supply db principal
        centralized.1 (chatRound environment.toChatEnvironment reader)
        maxAutoCascadeRetries [])

def runCompletions (environment : InferenceEnvironment F) (reader : Reader) (db : Db)
    (principal : PrincipalKind) (req : Value F) : InferenceRun F :=
  match rejectAccountSession principal, completionsToChat req with
  | .error failure, _ | .ok _, .error failure => { outcome := .error failure }
  | .ok _, .ok chat => runChatCompletions environment reader db principal chat

def runResponses (environment : InferenceEnvironment F) (reader : Reader) (db : Db)
    (principal : PrincipalKind) (req : Value F) : InferenceRun F :=
  match translateRequest environment.json.print req with
  | .error failure => { outcome := .error failure }
  | .ok chat => runChatCompletions environment reader db principal chat

def messagesRound (environment : InferenceEnvironment F) (inputTokens : ℕ)
    (reader : Reader) (excluded : List String) (prepared : PreparedChatRequest F) : Round F :=
  let request : AnthropicRequest F :=
    { environment.request excluded prepared with
      inputTokensEstimate := inputTokens
      parseJson := environment.parseJson }
  if prepared.streaming then
    (effects (executed (runAnthropicStreaming request) reader),
      .ok { reply := .fleetStream (runAnthropicStreaming request) })
  else
    let run := runAnthropicBuffered request
    (run.1, run.2.map fun value => { reply := .json value })

def readMessagesRequest (json : JsonText F) (req : Value F) :
    Except GatewayError (Value F × ℕ) := do
  let anthropic ← (json.readMessages req).mapError fun failure =>
    .badRequest ("invalid Anthropic request body: " ++ failure)
  let body ← anthropicToOpenai json anthropic
  pure (body, estimateAnthropicTokens json anthropic)

def runMessages (environment : InferenceEnvironment F) (reader : Reader) (db : Db)
    (principal : PrincipalKind) (req : Value F) : InferenceRun F :=
  match rejectAccountSession principal, readMessagesRequest environment.json req with
  | .error failure, _ | .ok _, .error failure => { outcome := .error failure }
  | .ok _, .ok (body, inputTokens) =>
    fleetRun (cascadeRounds environment.supply db principal body
      (messagesRound environment inputTokens reader) maxAutoCascadeRetries [])

def InferenceEndpoint.run : InferenceEndpoint → InferenceEnvironment F → Reader →
    Db → PrincipalKind → Value F → InferenceRun F
  | chatCompletions => runChatCompletions
  | completions => runCompletions
  | messages => runMessages
  | responses => runResponses

/-! ## The model of chat completions -/

theorem tryCentralizedDispatch_reply
    (taken : (tryCentralizedDispatch providers loadedCount receipts principal
      body).2 = some dispatched)
    (answered : dispatched.outcome = .ok response) (steps : List (Step (Sse F) Effect)) :
    response.reply ≠ .fleetStream steps := by
  simp only [tryCentralizedDispatch] at taken
  split at taken
  · simp at taken
  · split at taken
    · simp at taken
    · cases taken
      refine tryCandidates_answer (P := fun response => response.reply ≠ .fleetStream steps) ?_
        answered
      intro candidate response replied
      split at replied
      · cases replied
        simp
      · simp only [dispatchBuffered] at replied
        split at replied
        · simp at replied
        · cases replied
          simp

/-- What is sent, settled and answered is what `chatCompletions` says. -/
theorem runChatCompletions_eq (reader : Reader) (db : Db)
    (principal : PrincipalKind) (req : Value F) :
    let run := runChatCompletions environment reader db principal req
    let dispatched := chatCompletions environment.toChatEnvironment db principal
      req
    run.sent = dispatched.sent ∧ run.calls = dispatched.allCalls reader ∧
      run.outcome = dispatched.outcome := by
  simp only [runChatCompletions, chatCompletions]
  cases rejectAccountSession principal with
  | error failure => exact ⟨rfl, rfl, rfl⟩
  | ok _ =>
    cases taken : (tryCentralizedDispatch environment.providers
        environment.supply.loadedCount environment.receipts principal req).2 with
    | some dispatched =>
      refine ⟨rfl, ?_, rfl⟩
      dsimp only
      unfold Dispatched.allCalls
      split
      case h_1 steps degraded answered =>
        exact absurd rfl (tryCentralizedDispatch_reply taken answered steps)
      case h_2 => exact (append_nil _).symm
    | none =>
      obtain ⟨ends, settles⟩ := cascadeRounds_eq environment.toChatEnvironment
        reader db principal (tryCentralizedDispatch environment.providers
          environment.supply.loadedCount environment.receipts principal req).1
        maxAutoCascadeRetries []
      exact ⟨(sent_cascade ..).symm, settles, ends⟩

/-! ## Account sessions -/

theorem runChatCompletions_session (reader : Reader) (db : Db)
    (account : AccountUserId) (sessionId : String) (req : Value F) :
    (runChatCompletions environment reader db (.accountSession account sessionId) req).Idle :=
  ⟨rfl, rfl, rfl⟩

/-- Whatever it asks for, an account session sets nothing off. -/
theorem run_session_idle (endpoint : InferenceEndpoint) (environment : InferenceEnvironment F)
    (reader : Reader) (db : Db) (account : AccountUserId) (sessionId : String) (req : Value F) :
    (endpoint.run environment reader db (.accountSession account sessionId) req).Idle := by
  cases endpoint with
  | chatCompletions =>
    exact runChatCompletions_session environment reader db account sessionId req
  | completions => exact ⟨rfl, rfl, rfl⟩
  | messages => exact ⟨rfl, rfl, rfl⟩
  | responses =>
    simp only [InferenceEndpoint.run, runResponses]
    split
    case h_1 => exact ⟨rfl, rfl, rfl⟩
    case h_2 chat _ =>
      exact runChatCompletions_session environment reader db account sessionId chat

/-! ## Everybody else -/

def obligingProviders : Providers F where
  lookupModel model :=
    [(soleProvider,
      { modelId := model
        promptPriceUsd := FloatArith.ofNat 0
        completionPriceUsd := FloatArith.ofNat 0
        requestPriceUsd := FloatArith.ofNat 0
        contextLength := 8192
        supportedFeatures := [] })]
  health _ _ := {}
  secretSet _ := true
  buffered _ _ := .ok (.null, ⟨1, 1⟩)
  pumped _ _ := .ok ⟨1, 1⟩

def providerOnly : InferenceEnvironment F where
  supply :=
    { parse := fun _ => .error "unused"
      resolveRequestedModel := fun _ => none
      warmingUp := false
      resolveVirtual := fun _ _ => none
      floorSmall := 1
      floorLarge := 1
      loadedCount := fun _ => 0 }
  providers := obligingProviders
  receipts := ⟨"r", 1⟩
  request _ prepared :=
    { fleet := { maxRetries := 0, dispatch := fun _ _ => .error (.other "none") }
      model := prepared.catalogModel
      consumer := prepared.consumer
      online := []
      settlementId := "r"
      now := 1
      created := 1
      draw := fun _ => "id" }
  json :=
    { print := fun _ => ""
      isFinite := fun _ => true
      readMessages := fun _ => .error "unused" }
  parseJson _ := none

/-- Account sessions are kept from running inference, and nobody else is. -/
theorem inference_idle_iff (principal : PrincipalKind) :
    (∀ (endpoint : InferenceEndpoint) (environment : InferenceEnvironment F)
        (reader : Reader) (db : Db) (req : Value F),
      (endpoint.run environment reader db principal req).Idle) ↔ ∃ accountUserId sessionId,
        principal = .accountSession accountUserId sessionId := by
  constructor
  · intro idle
    cases rejected : rejectAccountSession principal with
    | ok _ =>
      have nothing := (idle .chatCompletions providerOnly .toEnd Db.empty
        (.object [("model", .string "m")])).sent
      rw [InferenceEndpoint.run, runChatCompletions, rejected] at nothing
      exact absurd nothing (cons_ne_nil _ _)
    | error failure =>
      cases principal with
      | accountSession accountUserId sessionId => exact ⟨accountUserId, sessionId, rfl⟩
      | _ => simp [rejectAccountSession] at rejected
  · rintro ⟨accountUserId, sessionId, rfl⟩ endpoint environment reader db req
    exact run_session_idle endpoint environment reader db accountUserId sessionId req

end Endpoints

/-! ## A provisioning key -/

def provisionedAccount : Db := runCalls id Db.empty
  [.upsertProvider "p" "acme", .linkDeviceToAccount "phone" "account" {} 0,
    .recordAccountBonus "account" 500 none "gift" 0,
    .createApiKey "account" { role := some .provisioning } "key" "tk_prov_secret" 1]

def mixedInference : InferenceEnvironment ℚ := { mixedEnvironment with
    json :=
      { print := fun _ => ""
        isFinite := fun _ => true
        readMessages := fun _ => .error "unused" }
    parseJson := fun _ => none }

/-- The key passes `require_bearer`, a provider and a device serve it, and its
account pays. -/
theorem provisioning_key_served :
    let served := (requireBearer bareConfig
      ⟨some "Bearer tk_prov_secret", none⟩ 2).serve provisionedAccount
    let key : PrincipalKind := .apiKey "key" "account" .provisioning none 0
    let large := runChatCompletions mixedInference .toEnd served.2 key
      (chatFor "acme/large")
    let small := runChatCompletions mixedInference .toEnd served.2 key
      (chatFor "small")
    served.1 = .ok key ∧ large.sent.map (fun request => request.1.slug) = ["acme"] ∧
      (runCalls id served.2 large.calls).creditsOf "account" = 470 ∧
      small.devices = ["mac"] ∧
      (runCalls id served.2 small.calls).creditsOf "account" = 499 := by
  decide +kernel

end Teale.Gateway
