import Teale.Gateway.Inference.Chat
import Teale.Gateway.Inference.Routing

/-!
# Chat completions

A chat request is offered to the centralized providers first. Only what they do not take is
prepared for the fleet, and it is the preparation that asks whether the principal can pay.
-/

namespace Teale.Gateway

open Floating Serde Generator

variable {F : Type}

/-! ## Dispatch to a provider -/

inductive ProviderError
  | http (status : ℕ) (message : String)
  | midStream (message : String)
  | network (message : String)
  | invalid (message : String)
  | unavailable

/-- The token counts of `UsageReport`. -/
structure UsageReport where
  promptTokens : ℕ
  completionTokens : ℕ

/-- The centralized providers as one request meets them: the registry, the
health tracker, the secrets that are set, and the answers over HTTP. -/
structure Providers (F : Type) where
  lookupModel : String → List (ProviderRow × ProviderModelRow F)
  health : ProviderId → String → HealthSnapshot F
  secretSet : String → Bool
  buffered : ProviderRow → Value F → Except ProviderError (Value F × UsageReport)
  pumped : ProviderRow → Value F → Except ProviderError UsageReport

inductive Reply (F : Type)
  | json (value : Value F)
  | providerStream (provider : ProviderRow)
  | fleetStream (steps : List (Step (Sse F) Effect))

/-- A reply, and whether it carries the header that the tools lane was
exhausted. -/
structure Response (F : Type) where
  reply : Reply F
  degraded : Bool := false

/-- One dispatch: the requests that were sent to a provider, the calls of the
ledger, and what came of it. -/
structure Dispatched (F : Type) (α : Type) where
  sent : List (ProviderRow × Value F)
  calls : List Call
  outcome : α

structure Receipts where
  requestId : String
  now : Timestamp

section Centralized

variable [FloatArith F]

def settleProvider (receipts : Receipts) (consumer : Option ConsumerPrincipal)
    (candidate : ProviderCandidate F) (usage : UsageReport) : List Call :=
  match consumer with
  | none => []
  | some payer =>
    [.settleProviderRequest payer candidate.provider.providerId
      (costCredits usage.promptTokens usage.completionTokens
        candidate.model.promptPriceUsd candidate.model.completionPriceUsd)
      receipts.requestId candidate.model.modelId receipts.now]

/-- Send a request in the wire format of the provider. The Anthropic format is
not wired, and without a secret nothing is sent. -/
def sendTo {α : Type} (providers : Providers F)
    (answer : ProviderRow → Value F → Except ProviderError α)
    (provider : ProviderRow) (body : Value F) :
    List (ProviderRow × Value F) × Except ProviderError α :=
  match provider.wireFormat with
  | .anthropic => ([], .error .unavailable)
  | .openai =>
    if providers.secretSet provider.authSecretRef then
      ([(provider, body)], answer provider body)
    else
      ([], .error (.invalid ("auth_secret_ref `" ++ provider.authSecretRef ++
        "` not set in environment")))

def dispatchBuffered (providers : Providers F) (receipts : Receipts) (body : Value F)
    (candidate : ProviderCandidate F) (consumer : Option ConsumerPrincipal) :
    Dispatched F (Except ProviderError (Response F)) :=
  let body := body.insert "model" (.string candidate.model.modelId)
  let answered := sendTo providers providers.buffered candidate.provider body
  match answered.2 with
  | .error failure => { sent := answered.1, calls := [], outcome := .error failure }
  | .ok (json, usage) =>
    { sent := answered.1
      calls := settleProvider receipts consumer candidate usage
      outcome := .ok { reply := .json json } }

/-- The body that is sent when the answer is streamed: usage is asked for. -/
def streamingBody (body : Value F) : Value F :=
  match body.insert "stream" (.bool true) with
  | .object fields =>
    let options := (Fields.get fields "stream_options").getD (.object [])
    .object (Fields.set fields "stream_options" (options.insert "include_usage" (.bool true)))
  | other => other

/-- `dispatch_streaming`: the response is returned at once, whatever the pump
comes to. -/
def dispatchStreaming (providers : Providers F) (receipts : Receipts) (body : Value F)
    (candidate : ProviderCandidate F) (consumer : Option ConsumerPrincipal) :
    Dispatched F (Except ProviderError (Response F)) :=
  let body := streamingBody
    (body.insert "model" (.string candidate.model.modelId))
  let answered := sendTo providers providers.pumped candidate.provider body
  { sent := answered.1
    calls :=
      match answered.2 with
      | .error _ => []
      | .ok usage => settleProvider receipts consumer candidate usage
    outcome := .ok { reply := .providerStream candidate.provider } }

def ProviderError.gatewayError : ProviderError → GatewayError
  | http status message => .upstream s!"provider HTTP {status}: {message}"
  | midStream message => .upstream ("mid-stream: " ++ message)
  | network message => .upstream ("network: " ++ message)
  | invalid message => .upstream ("invalid: " ++ message)
  | unavailable => .upstream "provider unavailable"

def tryCandidates
    (dispatch : ProviderCandidate F → Dispatched F (Except ProviderError (Response F)))
    (allowFallbacks : Bool) (lastError : GatewayError) :
    List (ProviderCandidate F) → Dispatched F (Except GatewayError (Response F))
  | [] => { sent := [], calls := [], outcome := .error lastError }
  | candidate :: rest =>
    let attempt := dispatch candidate
    match attempt.outcome with
    | .ok response => { attempt with outcome := .ok response }
    | .error failure =>
      if allowFallbacks then
        let later := tryCandidates dispatch allowFallbacks
          failure.gatewayError rest
        { sent := attempt.sent ++ later.sent
          calls := attempt.calls ++ later.calls
          outcome := later.outcome }
      else
        { attempt with outcome := .error failure.gatewayError }

def featuresFromBody (body : Value F) : List String :=
  let tools :=
    (presentField body "tools").isSome || (presentField body "functions").isSome
  let format := ((body.get "response_format").bind fun format =>
    format.get "type").bind Value.asStr
  (if tools then ["tools"] else []) ++
    (if format = some "json_object" then ["json_mode"] else []) ++
    if format = some "json_schema" then ["structured_outputs"] else []

def aheadOfFleet : List (Candidate F) → List (ProviderCandidate F)
  | .centralizedProvider candidate :: rest => candidate :: aheadOfFleet rest
  | .localDistributed :: _ | [] => []

/-- What `try_centralized_dispatch` makes of a body: the clean model name, the
body that goes on, and the preferences with the sort of the slug. -/
def readRouting (body : Value F) (rawModel : String) : String × Value F × ProviderPreferences F :=
  let slug := parseSlugShortcut rawModel
  let named :=
    if slug.1 ≠ rawModel then body.insert "model" (.string slug.1) else body
  let extracted := extractPreferences named
  let sort := extracted.2.sort.or (slug.2.map SortPref.simple)
  (slug.1, extracted.1, { extracted.2 with sort })

/-- The request names a candidate first in its order, or nobody else serves the
model. -/
def takesCentralized (prefs : ProviderPreferences F) (candidates : List (ProviderCandidate F))
    (localLoaded : ℕ) : Bool :=
  ((prefs.order.bind List.head?).any fun first =>
    candidates.any fun candidate => candidate.provider.slug = first) ||
  (localLoaded = 0 && !candidates.isEmpty)

def centralizedCandidates (providers : Providers F) (loadedCount : String → ℕ) (model : String)
    (body : Value F) (prefs : ProviderPreferences F) : List (ProviderCandidate F) :=
  let candidates := rankProviderCandidates model 0 (featuresFromBody body) prefs
    providers.health (providers.lookupModel model)
  if takesCentralized prefs candidates (loadedCount model) then
    aheadOfFleet (orderCandidates candidates (0 < loadedCount model) prefs)
  else
    []

/-- `try_centralized_dispatch`: the body for the fleet, or the dispatch. -/
def tryCentralizedDispatch
    (providers : Providers F) (loadedCount : String → ℕ) (receipts : Receipts)
    (principal : PrincipalKind) (body : Value F) :
    Value F × Option (Dispatched F (Except GatewayError (Response F))) :=
  match (body.get "model").bind Value.asStr with
  | none => (body, none)
  | some rawModel =>
    let routing := readRouting body rawModel
    let body := routing.2.1
    match centralizedCandidates providers loadedCount routing.1 body
        routing.2.2 with
    | [] => (body, none)
    | tried =>
      let consumer := consumerPrincipal principal
      let stream := ((body.get "stream").bind Value.asBool).getD false
      let dispatch := fun candidate =>
        if stream then
          dispatchStreaming providers receipts body candidate consumer
        else
          dispatchBuffered providers receipts body candidate consumer
      (body, some (tryCandidates dispatch routing.2.2.allowFallbacks
        (.upstream "no centralized provider candidates") tried))

end Centralized

/-! ## The handler -/

/-- What a chat request meets. `request` is the run of a prepared request in the
fleet, by the models that were left out. -/
structure ChatEnvironment (F : Type) where
  supply : Supply F
  providers : Providers F
  receipts : Receipts
  request : List String → PreparedChatRequest F → FleetRequest F

def maxAutoCascadeRetries : ℕ := 3

def GatewayError.cascades : GatewayError → Bool
  | noEligibleDevice _ | atCapacity _ | allUpstreamsFailed _ => true
  | _ => false

section Handler

variable [FloatArith F] {environment : ChatEnvironment F}

def Dispatched.fleet (calls : List Call) (outcome : Except GatewayError (Response F)) :
    Dispatched F (Except GatewayError (Response F)) :=
  { sent := [], calls, outcome }

/-- One round of `chat_completions` in the fleet: a stream is returned at
once, a buffered answer when it is complete. -/
def serveFromFleet (environment : ChatEnvironment F) (excluded : List String)
    (prepared : PreparedChatRequest F) : Dispatched F (Except GatewayError (Response F)) :=
  let request := environment.request excluded prepared
  let degraded := prepared.toolsLaneFallback
  if prepared.streaming then
    .fleet [] (.ok { reply := .fleetStream (runStreaming request), degraded })
  else
    let run := runBuffered request
    .fleet (settlements run.1) (run.2.map fun value => { reply := .json value, degraded })

/-- The loop of `chat_completions` over models; `retries` of them are left. A
round that fails has called the ledger for nothing, so every round prepares
against the same database. -/
def cascade (environment : ChatEnvironment F) (db : Db) (principal : PrincipalKind)
    (req : Value F) : ℕ → List String → Dispatched F (Except GatewayError (Response F))
  | retries, excluded =>
    match prepareChatRequestExcluding environment.supply db principal req
        excluded with
    | .error failure => .fleet [] (.error failure)
    | .ok prepared =>
      let round := serveFromFleet environment excluded prepared
      match round.outcome, retries with
      | .error failure, retries + 1 =>
        if prepared.wasVirtualResolution && failure.cascades then
          cascade environment db principal req retries (excluded ++ [prepared.catalogModel.id])
        else
          round
      | _, _ => round

def chatCompletions (environment : ChatEnvironment F) (db : Db) (principal : PrincipalKind)
    (req : Value F) : Dispatched F (Except GatewayError (Response F)) :=
  match rejectAccountSession principal with
  | .error failure => .fleet [] (.error failure)
  | .ok _ =>
    let centralized := tryCentralizedDispatch environment.providers
      environment.supply.loadedCount environment.receipts principal req
    match centralized.2 with
    | some dispatched => dispatched
    | none => cascade environment db principal centralized.1 maxAutoCascadeRetries []

/-! ## Who is served -/

/-- A request that goes to the fleet: no provider serves its model, or the fleet
has the model loaded and the request sets no order. -/
def GoesToFleet (environment : ChatEnvironment F) (req : Value F) : Prop :=
  ∀ rawModel, (req.get "model").bind Value.asStr = some rawModel →
    let routing := readRouting req rawModel
    environment.providers.lookupModel routing.1 = [] ∨
      (0 < environment.supply.loadedCount routing.1 ∧ routing.2.2.order = none)

theorem centralizedCandidates_of_goesToFleet {model : String} {body : Value F}
    {prefs : ProviderPreferences F} (goes : environment.providers.lookupModel model = [] ∨
      (0 < environment.supply.loadedCount model ∧ prefs.order = none)) :
    centralizedCandidates environment.providers environment.supply.loadedCount
      model body prefs = [] := by
  unfold centralizedCandidates
  rcases goes with unserved | ⟨loaded, unordered⟩
  · simp [unserved, rankProviderCandidates, takesCentralized]
  · simp [takesCentralized, unordered, Nat.ne_of_gt loaded]

theorem tryCentralizedDispatch_of_goesToFleet (goes : GoesToFleet environment req)
    (principal : PrincipalKind) :
    (tryCentralizedDispatch environment.providers environment.supply.loadedCount
      environment.receipts principal req).2 = none := by
  unfold tryCentralizedDispatch
  split
  case h_1 => rfl
  case h_2 rawModel named =>
    dsimp only
    rw [centralizedCandidates_of_goesToFleet (goes rawModel named)]

/-- What a round of the cascade does: it fails before the fleet, or it prepares a
request, which is its answer or gives way to another round. -/
theorem sent_cascade (environment : ChatEnvironment F) (db : Db) (principal : PrincipalKind)
    (req : Value F) (retries : ℕ) (excluded : List String) :
    (cascade environment db principal req retries excluded).sent = [] := by
  fun_induction cascade environment db principal req retries excluded with
  | case1 => rfl
  | case2 => assumption
  | case3 _ prepared | case4 _ _ prepared =>
    change (serveFromFleet environment _ prepared).sent = []
    unfold serveFromFleet
    split <;> rfl

theorem two_le_of_cascade (settles : consumerPrincipal principal = some payer)
    (answered : (cascade environment db principal req retries excluded).outcome = .ok response) :
    2 ≤ effectiveBudget db payer := by
  cases prepares : prepareChatRequestExcluding environment.supply db principal req excluded with
  | error failure => simp [cascade.eq_def, prepares, Dispatched.fleet] at answered
  | ok prepared => exact two_le_of_prepareChatRequestExcluding settles prepares

end Handler

/-! ## A provider that is not paid -/

def soleProvider : ProviderRow where
  providerId := "p"
  slug := "acme"
  wireFormat := .openai
  authSecretRef := "ACME_KEY"
  status := .active
  dataCollection := "allow"
  zdr := false
  quantization := none

def paidProviders : Providers ℚ where
  lookupModel model :=
    if model = "acme/large" then
      [(soleProvider,
        { modelId := "acme/large", promptPriceUsd := mkRat 1 1000000
          completionPriceUsd := mkRat 1 1000000, requestPriceUsd := 0
          contextLength := 8192, supportedFeatures := [] })]
    else
      []
  health _ _ := {}
  secretSet _ := true
  buffered _ _ := .ok (.object [("object", .string "chat.completion")], ⟨10, 20⟩)
  pumped _ _ := .ok ⟨10, 20⟩

def fleetModel : CatalogModel ℚ where
  id := "small"
  isVirtual := false
  isLarge := false
  maxOutputTokens := 64
  promptPriceUsd := 0
  completionPriceUsd := 0

def mixedEnvironment : ChatEnvironment ℚ where
  supply :=
    { parse := fun body => .ok
        ⟨(body.get "model").bind Value.asStr, [4], none, none⟩
      resolveRequestedModel := fun model =>
        if model = "small" then some fleetModel else none
      warmingUp := false
      resolveVirtual := fun _ _ => none
      floorSmall := 1
      floorLarge := 1
      loadedCount := fun model => if model = "small" then 1 else 0 }
  providers := paidProviders
  receipts := ⟨"r", 1⟩
  request _ prepared :=
    { fleet :=
        { maxRetries := 1
          dispatch := fun _ _ => .ok
            { node := "mac"
              received := [.event (.chunk (.object [])), .event (.complete none)] } }
      model := prepared.catalogModel
      consumer := prepared.consumer
      online := []
      settlementId := "r"
      now := 1
      created := 1
      draw := fun _ => "id" }

def unevenWallets : Db := runCalls id Db.empty
  [.upsertDevice "rich" 0, .recordBonus "rich" 500 0, .upsertDevice "poor" 0]

def chatFor (model : String) : Value ℚ := .object [("model", .string model)]

theorem small_goesToFleet : GoesToFleet mixedEnvironment (chatFor "small") := by
  intro rawModel named
  have model : rawModel = "small" := by
    simpa [chatFor, Value.get, Value.asObject, Value.asStr, Fields.get] using named.symm
  subst model
  exact .inr (by decide +kernel)

end Teale.Gateway
