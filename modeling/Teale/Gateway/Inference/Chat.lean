import Teale.Gateway.Inference.Sessions

/-!
# Chat completions from the fleet

`run_streaming` hands every chunk on as it comes and settles after its last event; `run_buffered`
collects the chunks and settles before it answers.
-/

namespace Teale.Gateway

open Floating Serde Generator

variable {F : Type}

/-! ## What both bodies share -/

/-- The inputs of a body: the prepared request, the fleet it meets, and what it
reads when it settles and answers. -/
structure FleetRequest (F : Type) where
  fleet : Fleet F
  model : CatalogModel F
  consumer : Option ConsumerPrincipal
  online : List DeviceId
  settlementId : String
  now : Timestamp
  created : ℕ
  draw : ℕ → String

/-- The settlement of a completed request: a principal that does not settle is
not charged. -/
def FleetRequest.settle [FloatArith F] (request : FleetRequest F) (node : DeviceId)
    (tokensIn tokensOut : ℕ) : List Effect :=
  match request.consumer with
  | none => []
  | some payer =>
    [.settle (.settleRequest payer (some node) request.online
      (request.model.cost tokensIn tokensOut) request.settlementId
      request.model.id request.now)]

def presentField (value : Value F) (key : String) : Option (Value F) :=
  (value.get key).filter fun field => !field.isNull

def usageCount (usage : Option (Value F)) (key : String) : Option ℕ :=
  (usage.bind fun usage => usage.get key).bind Value.asU64

def firstChoice (chunk : Value F) : Option (Value F) :=
  (chunk.get "choices").bind fun choices => choices.at? 0

def Ending.isCompleted : Ending → Bool
  | completed => true
  | _ => false

def Ending.isClientError : Ending → Bool
  | clientError _ => true
  | _ => false

def Ending.queueFull : Ending → Bool
  | retriable failure | failed failure => failure.queueFull
  | _ => false

/-- The session ended before its first chunk by a failure of the device, as far
as the registry can tell. -/
def deviceFailed {S : Type} (session : Session F) (run : SessionRun F S) : Bool :=
  !run.ending.isCompleted && !run.gotFirst && !session.coldStartGrace &&
    !run.ending.isClientError && !session.besideHeavy && !session.soleSupplier

/-! ## Streaming -/

structure ChatProgress (F : Type) where
  tokensOut : ℕ := 0
  capturedUsage : Option (Value F) := none
  requestId : Option String := none
  reportedTokens : Option ℕ := none

def ChatProgress.observe (progress : ChatProgress F) (modelId : String) (chunk : Value F) :
    Value F × ChatProgress F :=
  let counted := { progress with tokensOut := progress.tokensOut + 1 }
  match chunk with
  | .object fields =>
    let renamed : Value F := .object (Fields.set fields "model" (.string modelId))
    (renamed, { counted with
        requestId := progress.requestId.or ((renamed.get "id").bind Value.asStr)
        capturedUsage :=
          (presentField renamed "usage").or progress.capturedUsage })
  | other => (other, counted)

def errorEvent (failure : GatewayError) : Sse F := .data (.object [("error", .object
    [("message", .string failure.text), ("type", .string failure.code),
      ("code", .string failure.code)])])

def chatStreaming (modelId : String) : Endpoint F (ChatProgress F) where
  start := id
  onChunk progress chunk :=
    let observed := progress.observe modelId chunk
    ([.data observed.1], observed.2)
  onComplete progress tokensOut := { progress with reportedTokens := tokensOut }
  onFailure failure := [errorEvent failure]
  quarantines session run := deviceFailed session run && !run.ending.queueFull && session.idle
  sameDevice session _ := session.coldStartGrace
  quarantinesBeforeRetry session _ := !session.besideHeavy

/-- The usage object of the last chunk: the one the device sent, or the chunks
counted. -/
def ChatProgress.usage (progress : ChatProgress F) : Value F := progress.capturedUsage.getD (.object
    [("prompt_tokens", .nat 0), ("completion_tokens", .nat progress.tokensOut),
      ("total_tokens", .nat progress.tokensOut)])

def finalChunk (request : FleetRequest F) (progress : ChatProgress F) : Value F := .object
    [("id", .string (progress.requestId.getD ("chatcmpl-" ++ request.draw 0))),
      ("object", .string "chat.completion.chunk"),
      ("created", .nat request.created),
      ("model", .string request.model.id),
      ("choices", .array []),
      ("usage", progress.usage)]

def ChatProgress.billedPrompt (progress : ChatProgress F) : ℕ :=
  (usageCount progress.capturedUsage "prompt_tokens").getD 0

def ChatProgress.billedCompletion (progress : ChatProgress F) : ℕ :=
  max (progress.reportedTokens.getD progress.tokensOut) 1

def afterChatAttempts [FloatArith F] (request : FleetRequest F) :
    AttemptsEnd F (ChatProgress F) → List (Step (Sse F) Effect)
  | .undispatched failure => [.yield (errorEvent failure), .yield .done]
  | .finished session run =>
    match run.ending with
    | .completed =>
      [.yield (.data (finalChunk request run.state)), .yield .done] ++
        (request.settle session.node run.state.billedPrompt run.state.billedCompletion).map .act ++
        [.act .shadow]
    | _ => [.yield .done]

def runStreaming [FloatArith F] (request : FleetRequest F) : List (Step (Sse F) Effect) :=
  let attempted := (chatStreaming request.model.id).attempts request.fleet
    request.fleet.maxRetries 1 [] {}
  attempted.1 ++ afterChatAttempts request attempted.2

/-! ## Buffered -/

/-- The entry of a `BTreeMap`, from its default when it is not there. -/
def upsert {α : Type} (index : ℕ) (fresh : α) (change : α → α) : List (ℕ × α) → List (ℕ × α)
  | [] => [(index, change fresh)]
  | entry :: rest =>
    if index < entry.1 then (index, change fresh) :: entry :: rest
    else if index = entry.1 then (entry.1, change entry.2) :: rest
    else entry :: upsert index fresh change rest

structure BufferedToolCall where
  id : Option String := none
  kind : Option String := none
  name : Option String := none
  arguments : String := ""

def textField (value : Value F) (key : String) : Option String := (value.get key).bind Value.asStr

def toolIndex (call : Value F) (fallback : ℕ) : ℕ :=
  ((call.get "index").bind Value.asU64).getD fallback

def BufferedToolCall.merge (state : BufferedToolCall) (call : Value F) : BufferedToolCall :=
  let function := call.get "function"
  { id := (textField call "id").or state.id
    kind := (textField call "type").or state.kind
    name := (function.bind fun value => textField value "name").or state.name
    arguments := state.arguments ++
      (function.bind fun value => textField value "arguments").getD "" }

def mergeChunk (calls : List (ℕ × BufferedToolCall)) (chunk : Value F) :
    List (ℕ × BufferedToolCall) :=
  let toolCalls := (((firstChoice chunk).bind fun choice =>
    choice.get "delta").bind fun delta => delta.get "tool_calls").bind Value.asArray
  (toolCalls.getD []).zipIdx.foldl (fun calls entry =>
    upsert (toolIndex entry.1 entry.2) {} (fun state => state.merge entry.1) calls)
    calls

def materialize (draw : ℕ → String) (calls : List (ℕ × BufferedToolCall)) : List (Value F) :=
  calls.map fun entry => .object [("id", .string (entry.2.id.getD ("call_" ++ draw (entry.1 + 1)))),
      ("type", .string (entry.2.kind.getD "function")),
      ("function", .object [("name", .string (entry.2.name.getD "")),
          ("arguments", .string entry.2.arguments)])]

structure BufferedProgress (F : Type) where
  text : String := ""
  lastChunk : Option (Fields F) := none
  toolCalls : List (ℕ × BufferedToolCall) := []
  finishReason : String := "stop"
  capturedUsage : Option (Value F) := none
  tokensOut : ℕ := 0

def BufferedProgress.observe (progress : BufferedProgress F) (chunk : Value F) :
    BufferedProgress F :=
  let delta := (firstChoice chunk).bind fun choice => choice.get "delta"
  { text := progress.text ++
      (delta.bind fun delta => textField delta "content").getD ""
    lastChunk := chunk.asObject.or progress.lastChunk
    toolCalls := mergeChunk progress.toolCalls chunk
    finishReason := ((firstChoice chunk).bind fun choice =>
      textField choice "finish_reason").getD progress.finishReason
    capturedUsage := (presentField chunk "usage").or progress.capturedUsage
    tokensOut := progress.tokensOut + 1 }

def SessionFailure.message (gotFirst : Bool) : SessionFailure → String
  | error message _ => message
  | disconnect reason => reason
  | closed => "channel closed"
  | timeout => if gotFirst then "timeout mid-stream" else "ttft timeout"

def isTransientWarmupError (message : String) : Bool :=
  let lower := RustText.toAsciiLowercase message
  RustText.containsText lower "loading model" ||
    (RustText.containsText lower "unavailable_error" && RustText.containsText lower "503")

def Ending.message (gotFirst : Bool) : Ending → Option String
  | completed => none
  | clientError message => some message
  | retriable failure | failed failure => some (failure.message gotFirst)

def warmupRetry {S : Type} (session : Session F) (run : SessionRun F S) : Bool :=
  !run.gotFirst && session.singleSupplier &&
    (run.ending.message run.gotFirst).any isTransientWarmupError

def chatBuffered : Endpoint F (BufferedProgress F) where
  start := id
  onChunk progress chunk := ([], progress.observe chunk)
  onComplete progress _ := progress
  onFailure _ := []
  quarantines session run := deviceFailed session run && !warmupRetry session run &&
      !run.ending.queueFull && session.idle
  sameDevice session run := warmupRetry session run || session.coldStartGrace
  quarantinesBeforeRetry session run := !run.ending.queueFull && !session.besideHeavy

def buildNonStreamResponse (request : FleetRequest F) (progress : BufferedProgress F) : Value F :=
  let last : Value F := .object (progress.lastChunk.getD [])
  let toolCalls : List (Value F) := materialize request.draw progress.toolCalls
  .object [("id", .string ((textField last "id").getD ("chatcmpl-" ++ request.draw 0))),
      ("object", .string "chat.completion"),
      ("created", .nat (((last.get "created").bind Value.asU64).getD request.created)),
      ("model", .string request.model.id),
      ("choices", .array [.object [("index", .nat 0), ("message", .object
            ([("role", .string "assistant"), ("content", .string progress.text)] ++
              if toolCalls.isEmpty then [] else [("tool_calls", .array toolCalls)])),
          ("finish_reason", .string progress.finishReason)]]),
      ("usage", .object [("prompt_tokens", .nat 0), ("completion_tokens", .nat progress.tokensOut),
          ("total_tokens", .nat progress.tokensOut)])]

def BufferedProgress.billedPrompt (progress : BufferedProgress F) : ℕ :=
  (usageCount progress.capturedUsage "prompt_tokens").getD 0

def BufferedProgress.billedCompletion (progress : BufferedProgress F) : ℕ :=
  max progress.tokensOut 1

def afterBufferedAttempts [FloatArith F] (request : FleetRequest F) :
    AttemptsEnd F (BufferedProgress F) → List Effect × Except GatewayError (Value F)
  | .undispatched failure => ([], .error failure)
  | .finished session run =>
    match run.ending with
    | .completed =>
      (request.settle session.node run.state.billedPrompt run.state.billedCompletion ++ [.shadow],
        .ok (buildNonStreamResponse request run.state))
    | .clientError message => ([], .error (.badRequest message))
    | .retriable failure | .failed failure =>
      ([], .error (.allUpstreamsFailed (failure.message run.gotFirst)))

def runBuffered [FloatArith F] (request : FleetRequest F) :
    List Effect × Except GatewayError (Value F) :=
  let attempted := chatBuffered.attempts request.fleet request.fleet.maxRetries 1
    [] {}
  let answered := afterBufferedAttempts request attempted.2
  (effects attempted.1 ++ answered.1, answered.2)

/-! ## Completed requests -/

def FleetRequest.ChatDelivers (request : FleetRequest F) (node : DeviceId) (chunks : List (Value F))
    (tokensOut : Option ℕ) : Prop :=
  (chatStreaming request.model.id).Delivers request.fleet node chunks tokensOut
    request.fleet.maxRetries 1 [] {}

def chatProgress (request : FleetRequest F) (chunks : List (Value F)) (tokensOut : Option ℕ) :
    ChatProgress F :=
  { ((chatStreaming request.model.id).answer {} chunks).2 with
    reportedTokens := tokensOut }

variable {request : FleetRequest F}

/-- The stream of a completed request: the chunks, the usage, the end, and only
then the settlement. -/
theorem runStreaming_of_delivers [FloatArith F]
    (delivers : request.ChatDelivers node chunks tokensOut) : ∃ before,
      let progress := chatProgress request chunks tokensOut
      settlements (effects before) = [] ∧ runStreaming request = before ++
          ([.yield (.data (finalChunk request progress)), .yield .done] ++
            (request.settle node progress.billedPrompt
              progress.billedCompletion).map .act ++ [.act .shadow]) := by
  obtain ⟨⟨session, first, rfl, finished⟩, -, unsettled⟩ :=
    Endpoint.attempts_serves (fun _ => rfl) delivers
  refine ⟨_, unsettled, ?_⟩
  unfold runStreaming
  dsimp only
  rw [finished]
  rfl

def FleetRequest.BufferedDelivers
    (request : FleetRequest F) (node : DeviceId) (chunks : List (Value F))
    (tokensOut : Option ℕ) : Prop :=
  chatBuffered.Delivers request.fleet node chunks tokensOut request.fleet.maxRetries 1 [] {}

def bufferedProgress (chunks : List (Value F)) : BufferedProgress F :=
  (chatBuffered.answer {} chunks).2

theorem runBuffered_of_delivers [FloatArith F]
    (delivers : request.BufferedDelivers node chunks tokensOut) : ∃ before,
      let progress := bufferedProgress chunks
      settlements before = [] ∧ runBuffered request =
          (before ++ (request.settle node progress.billedPrompt
              progress.billedCompletion ++ [.shadow]),
            .ok (buildNonStreamResponse request progress)) := by
  obtain ⟨⟨session, first, rfl, finished⟩, -, unsettled⟩ :=
    Endpoint.attempts_serves (fun _ => rfl) delivers
  refine ⟨_, unsettled, ?_⟩
  unfold runBuffered
  dsimp only
  rw [finished]
  rfl

end Teale.Gateway
