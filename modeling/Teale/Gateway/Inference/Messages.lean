import Teale.Gateway.Inference.Chat

/-!
# Anthropic messages from the fleet

The messages endpoint serves the same sessions as chat completions: an accumulator collects the
text, the tool calls and the usage, and a translator turns chunks into content blocks.
-/

namespace Teale.Gateway

open Floating Serde Generator

variable {F : Type}

/-! ## The accumulator -/

structure ToolCallState where
  id : Option String := none
  name : Option String := none
  arguments : String := ""

structure OpenAiAccumulator (F : Type) where
  text : String := ""
  toolCalls : List (ℕ × ToolCallState) := []
  finishReason : Option String := none
  usage : Option (Value F) := none
  tokensOut : ℕ := 0
  reportedTokens : Option ℕ := none

def ToolCallState.merge (state : ToolCallState) (call : Value F) : ToolCallState :=
  let function := call.get "function"
  { id := (textField call "id").or state.id
    name := (function.bind fun value => textField value "name").or state.name
    arguments := state.arguments ++
      (function.bind fun value => textField value "arguments").getD "" }

def mergeToolCalls (calls : List (ℕ × ToolCallState)) (toolCalls : List (Value F)) :
    List (ℕ × ToolCallState) :=
  toolCalls.zipIdx.foldl (fun calls entry =>
    upsert (toolIndex entry.1 entry.2) {} (fun state => state.merge entry.1) calls)
    calls

def toolCallsOf (value : Option (Value F)) : Option (List (Value F)) :=
  (value.bind fun value => value.get "tool_calls").bind Value.asArray

def contentOf (value : Option (Value F)) : String :=
  (value.bind fun value => textField value "content").getD ""

namespace OpenAiAccumulator

/-- `observe_chunk`: only a delta with text counts as a token. -/
def observeChunk (acc : OpenAiAccumulator F) (chunk : Value F) : OpenAiAccumulator F :=
  let acc := { acc with usage := (presentField chunk "usage").or acc.usage }
  match firstChoice chunk with
  | none => acc
  | some choice =>
    let delta := choice.get "delta"
    let message := choice.get "message"
    { acc with
      finishReason := (textField choice "finish_reason").or acc.finishReason
      text := acc.text ++ contentOf delta ++ contentOf message
      tokensOut :=
        if contentOf delta = "" then acc.tokensOut else acc.tokensOut + 1
      toolCalls := mergeToolCalls (mergeToolCalls acc.toolCalls ((toolCallsOf delta).getD []))
        ((toolCallsOf message).getD []) }

def outputTokens (acc : OpenAiAccumulator F) : ℕ :=
  max (((usageCount acc.usage "completion_tokens").or acc.reportedTokens).getD acc.tokensOut) 1

def promptTokens (acc : OpenAiAccumulator F) (fallback : ℕ) : ℕ :=
  (usageCount acc.usage "prompt_tokens").getD fallback

def complete (acc : OpenAiAccumulator F) (tokensOut : Option ℕ) : OpenAiAccumulator F :=
  { acc with reportedTokens := tokensOut.or acc.reportedTokens }

def stopReason (acc : OpenAiAccumulator F) : String :=
  if acc.toolCalls ≠ [] then
    "tool_use"
  else
    match acc.finishReason with
    | some "length" => "max_tokens"
    | some "stop_sequence" => "stop_sequence"
    | some "tool_calls" => "tool_use"
    | _ => "end_turn"

def usageObject (acc : OpenAiAccumulator F) (inputTokensFallback : ℕ) : Value F := .object
    [("input_tokens", .nat (acc.promptTokens inputTokensFallback)),
      ("output_tokens", .nat acc.outputTokens)]

end OpenAiAccumulator

/-! ## Requests and identifiers -/

/-- The inputs of the messages bodies. `parseJson` reads the arguments of a tool
call. -/
structure AnthropicRequest (F : Type) extends FleetRequest F where
  inputTokensEstimate : ℕ
  parseJson : String → Option (Value F)

def ToolCallState.anthropicId (state : ToolCallState) (draw : ℕ → String) (index : ℕ) : String :=
  state.id.getD ("toolu_" ++ draw (index + 1))

def ToolCallState.anthropicName (state : ToolCallState) : String := state.name.getD "tool"

def ToolCallState.input (state : ToolCallState) (parseJson : String → Option (Value F)) : Value F :=
  if RustText.trim state.arguments = "" then .object []
  else (parseJson state.arguments).getD (.object [])

/-! ## The translator -/

/-- The changing part of `AnthropicStreamTranslator`. -/
structure AnthropicStreamTranslator where
  nextContentIndex : ℕ := 0
  textBlockIndex : Option ℕ := none
  toolBlockIndexes : List (ℕ × ℕ) := []

def blockStart (index : ℕ) (block : Value F) : Sse F := .named "content_block_start" (.object
    [("type", .string "content_block_start"), ("index", .nat index), ("content_block", block)])

def blockDelta (index : ℕ) (delta : Value F) : Sse F := .named "content_block_delta" (.object
    [("type", .string "content_block_delta"), ("index", .nat index), ("delta", delta)])

def blockStop (index : ℕ) : Sse F := .named "content_block_stop" (.object
    [("type", .string "content_block_stop"), ("index", .nat index)])

def textDelta (text : String) : Value F :=
  .object [("type", .string "text_delta"), ("text", .string text)]

def jsonDelta (part : String) : Value F :=
  .object [("type", .string "input_json_delta"), ("partial_json", .string part)]

def textBlock : Value F := .object [("type", .string "text"), ("text", .string "")]

def toolBlock (state : ToolCallState) (draw : ℕ → String) (index : ℕ) : Value F := .object
    [("type", .string "tool_use"), ("id", .string (state.anthropicId draw index)),
      ("name", .string state.anthropicName), ("input", .object [])]

def messageStartEvent (request : AnthropicRequest F) : Sse F :=
  .named "message_start" (.object [("type", .string "message_start"), ("message", .object
        [("id", .string ("msg_" ++ request.draw 0)), ("type", .string "message"),
          ("role", .string "assistant"), ("model", .string request.model.id),
          ("content", .array []), ("stop_reason", .null),
          ("stop_sequence", .null),
          ("usage", .object [("input_tokens", .nat request.inputTokensEstimate),
              ("output_tokens", .nat 0)])])])

namespace AnthropicStreamTranslator

def textEvents (translator : AnthropicStreamTranslator) (text : String) :
    List (Sse F) × AnthropicStreamTranslator :=
  if text = "" then
    ([], translator)
  else
    match translator.textBlockIndex with
    | some index => ([blockDelta index (textDelta text)], translator)
    | none =>
      let index := translator.nextContentIndex
      ([blockStart index textBlock, blockDelta index (textDelta text)], { translator with
          nextContentIndex := index + 1
          textBlockIndex := some index })

def closeText (translator : AnthropicStreamTranslator) : List (Sse F) × AnthropicStreamTranslator :=
  match translator.textBlockIndex with
  | some index => ([blockStop index], { translator with textBlockIndex := none })
  | none => ([], translator)

def openTool (translator : AnthropicStreamTranslator) (draw : ℕ → String) (callIndex : ℕ)
    (state : ToolCallState) : List (Sse F) × ℕ × AnthropicStreamTranslator :=
  let index := translator.nextContentIndex
  ([blockStart index (toolBlock state draw callIndex)], index, { translator with
      nextContentIndex := index + 1
      toolBlockIndexes :=
        upsert callIndex index (fun _ => index) translator.toolBlockIndexes })

/-- The block of a tool call in a chunk: one is opened once the name is known. -/
def blockFor (translator : AnthropicStreamTranslator) (draw : ℕ → String) (callIndex : ℕ)
    (state : ToolCallState) : List (Sse F) × Option ℕ × AnthropicStreamTranslator :=
  match translator.toolBlockIndexes.lookup callIndex with
  | some index => ([], some index, translator)
  | none =>
    if state.name.isSome then
      let opened := translator.openTool draw callIndex state
      (opened.1, some opened.2.1, opened.2.2)
    else
      ([], none, translator)

/-- The events of one tool call of a chunk. A call that names no index is taken
for the first, and arguments without a block go to block 0. -/
def toolEvents (translator : AnthropicStreamTranslator) (draw : ℕ → String)
    (acc : OpenAiAccumulator F) (call : Value F) : List (Sse F) × AnthropicStreamTranslator :=
  let callIndex := toolIndex call 0
  match acc.toolCalls.lookup callIndex with
  | none => ([], translator)
  | some state =>
    let block := translator.blockFor draw callIndex state
    let part := ((call.get "function").bind fun value =>
      textField value "arguments").getD ""
    (block.1 ++ if part = "" then []
      else [blockDelta (block.2.1.getD 0) (jsonDelta part)], block.2.2)

def chunkEvents (translator : AnthropicStreamTranslator) (draw : ℕ → String)
    (chunk : Value F) (acc : OpenAiAccumulator F) : List (Sse F) × AnthropicStreamTranslator :=
  let delta := (firstChoice chunk).bind fun choice => choice.get "delta"
  let text := translator.textEvents (contentOf delta)
  match toolCallsOf delta with
  | none => text
  | some toolCalls =>
    let closed := text.2.closeText
    toolCalls.foldl (fun done call =>
      let events := done.2.toolEvents draw acc call
      (done.1 ++ events.1, events.2)) (text.1 ++ closed.1, closed.2)

/-- The last events of one tool call; one that was never announced is announced
now. -/
def finishTool (translator : AnthropicStreamTranslator) (draw : ℕ → String) (callIndex : ℕ)
    (state : ToolCallState) : List (Sse F) × AnthropicStreamTranslator :=
  match translator.toolBlockIndexes.lookup callIndex with
  | some index => ([blockStop index], translator)
  | none =>
    let opened := translator.openTool draw callIndex state
    (opened.1 ++ (if state.arguments = "" then []
        else [blockDelta opened.2.1 (jsonDelta state.arguments)]) ++
      [blockStop opened.2.1], opened.2.2)

def finishEvents (translator : AnthropicStreamTranslator) (draw : ℕ → String)
    (acc : OpenAiAccumulator F) (inputTokensFallback : ℕ) : List (Sse F) :=
  let closed := translator.closeText
  let tools := acc.toolCalls.foldl (fun done entry =>
    let events := done.2.finishTool draw entry.1 entry.2
    (done.1 ++ events.1, events.2)) closed
  tools.1 ++ [.named "message_delta" (.object [("type", .string "message_delta"), ("delta", .object
          [("stop_reason", .string acc.stopReason), ("stop_sequence", .null)]),
        ("usage", acc.usageObject inputTokensFallback)]),
      .named "message_stop" (.object [("type", .string "message_stop")])]

end AnthropicStreamTranslator

/-! ## Streaming -/

structure AnthropicProgress (F : Type) where
  acc : OpenAiAccumulator F := {}
  translator : AnthropicStreamTranslator := {}
  sentMessageStart : Bool := false

def anthropicErrorEvent (failure : GatewayError) : Sse F :=
  let errorType :=
    match failure with
    | .badRequest _ => "invalid_request_error"
    | .unauthorized _ => "authentication_error"
    | .insufficientCredits _ _ | .budgetExhausted => "billing_error"
    | .modelNotFound _ => "not_found_error"
    | .noEligibleDevice _ => "overloaded_error"
    | _ => "api_error"
  .named "error" (.object [("type", .string "error"), ("error", .object
        [("type", .string errorType), ("message", .string failure.text)])])

def AnthropicProgress.announce (progress : AnthropicProgress F) (request : AnthropicRequest F) :
    List (Sse F) :=
  if progress.sentMessageStart then [] else [messageStartEvent request]

def anthropicStreaming (request : AnthropicRequest F) : Endpoint F (AnthropicProgress F) where
  start progress := { acc := progress.acc }
  onChunk progress chunk :=
    let acc := progress.acc.observeChunk chunk
    let events := progress.translator.chunkEvents request.draw chunk acc
    (progress.announce request ++ events.1,
      { acc, translator := events.2, sentMessageStart := true })
  onComplete progress tokensOut := { progress with acc := progress.acc.complete tokensOut }
  onFailure failure := [anthropicErrorEvent failure]
  quarantines := deviceFailed
  sameDevice session _ := session.coldStartGrace
  quarantinesBeforeRetry session _ := !session.besideHeavy

def AnthropicRequest.settleSuccess [FloatArith F] (request : AnthropicRequest F) (node : DeviceId)
    (acc : OpenAiAccumulator F) : List Effect :=
  request.settle node (acc.promptTokens 0) acc.outputTokens

/-- The events between the completion of a session and its settlement. -/
def AnthropicProgress.closing (progress : AnthropicProgress F) (request : AnthropicRequest F) :
    List (Sse F) :=
  progress.announce request ++ progress.translator.finishEvents request.draw
    progress.acc request.inputTokensEstimate

def afterAnthropicAttempts [FloatArith F] (request : AnthropicRequest F) :
    AttemptsEnd F (AnthropicProgress F) → List (Step (Sse F) Effect)
  | .undispatched failure => [.yield (anthropicErrorEvent failure)]
  | .finished session run =>
    match run.ending with
    | .completed =>
      (run.state.closing request).map .yield ++
        (request.settleSuccess session.node run.state.acc).map .act
    | _ => []

def runAnthropicStreaming [FloatArith F] (request : AnthropicRequest F) :
    List (Step (Sse F) Effect) :=
  let attempted := (anthropicStreaming request).attempts request.fleet
    request.fleet.maxRetries 1 [] {}
  attempted.1 ++ afterAnthropicAttempts request attempted.2

/-! ## Buffered -/

def anthropicBuffered : Endpoint F (OpenAiAccumulator F) where
  start := id
  onChunk acc chunk := ([], acc.observeChunk chunk)
  onComplete := OpenAiAccumulator.complete
  onFailure _ := []
  quarantines := deviceFailed
  sameDevice session _ := session.coldStartGrace
  quarantinesBeforeRetry session _ := !session.besideHeavy

def buildAnthropicMessage (request : AnthropicRequest F) (acc : OpenAiAccumulator F) : Value F :=
  let text : List (Value F) :=
    if acc.text = "" then []
    else [.object [("type", .string "text"), ("text", .string acc.text)]]
  let tools : List (Value F) := acc.toolCalls.map fun entry => .object
    [("type", .string "tool_use"), ("id", .string (entry.2.anthropicId request.draw entry.1)),
      ("name", .string entry.2.anthropicName),
      ("input", entry.2.input request.parseJson)]
  .object [("id", .string ("msg_" ++ request.draw 0)), ("type", .string "message"),
      ("role", .string "assistant"), ("model", .string request.model.id),
      ("content", .array (text ++ tools)),
      ("stop_reason", .string acc.stopReason), ("stop_sequence", .null),
      ("usage", acc.usageObject request.inputTokensEstimate)]

def afterAnthropicBuffered [FloatArith F] (request : AnthropicRequest F) :
    AttemptsEnd F (OpenAiAccumulator F) → List Effect × Except GatewayError (Value F)
  | .undispatched failure => ([], .error failure)
  | .finished session run =>
    match run.ending with
    | .completed =>
      (request.settleSuccess session.node run.state, .ok (buildAnthropicMessage request run.state))
    | .clientError message => ([], .error (.badRequest message))
    | .retriable failure | .failed failure =>
      ([], .error (.allUpstreamsFailed (failure.message run.gotFirst)))

def runAnthropicBuffered [FloatArith F] (request : AnthropicRequest F) :
    List Effect × Except GatewayError (Value F) :=
  let attempted := anthropicBuffered.attempts request.fleet
    request.fleet.maxRetries 1 [] {}
  let answered := afterAnthropicBuffered request attempted.2
  (effects attempted.1 ++ answered.1, answered.2)

/-! ## Completed requests -/

def AnthropicRequest.StreamDelivers
    (request : AnthropicRequest F) (node : DeviceId) (chunks : List (Value F))
    (tokensOut : Option ℕ) : Prop :=
  (anthropicStreaming request).Delivers request.fleet node chunks tokensOut
    request.fleet.maxRetries 1 [] {}

def accumulate (chunks : List (Value F)) (tokensOut : Option ℕ) : OpenAiAccumulator F :=
  (chunks.foldl OpenAiAccumulator.observeChunk {}).complete tokensOut

variable {request : AnthropicRequest F}

/-- The stream of a completed message: its events, and only then the
settlement. -/
theorem runAnthropicStreaming_of_delivers [FloatArith F]
    (delivers : request.StreamDelivers node chunks tokensOut) :
    ∃ (before : List (Step (Sse F) Effect)) (progress : AnthropicProgress F),
      settlements (effects before) = [] ∧ progress.acc = accumulate chunks tokensOut ∧
        runAnthropicStreaming request = before ++ ((progress.closing request).map .yield ++
            (request.settleSuccess node (accumulate chunks tokensOut)).map .act) := by
  obtain ⟨⟨session, first, rfl, finished⟩, -, unsettled⟩ :=
    Endpoint.attempts_serves (fun _ => rfl) delivers
  let progress := ((anthropicStreaming request).completedRun
    ((anthropicStreaming request).start {}) chunks tokensOut first).state
  have accumulated : progress.acc = accumulate chunks tokensOut :=
    congrArg (OpenAiAccumulator.complete · tokensOut)
      ((anthropicStreaming request).answer_view (·.acc) _ (fun _ _ => rfl) chunks _)
  refine ⟨_, progress, unsettled, accumulated, ?_⟩
  unfold runAnthropicStreaming
  dsimp only
  rw [finished, ← accumulated]
  rfl

def AnthropicRequest.BufferedDelivers
    (request : AnthropicRequest F) (node : DeviceId) (chunks : List (Value F))
    (tokensOut : Option ℕ) : Prop :=
  anthropicBuffered.Delivers request.fleet node chunks tokensOut request.fleet.maxRetries 1 [] {}

theorem runAnthropicBuffered_of_delivers [FloatArith F]
    (delivers : request.BufferedDelivers node chunks tokensOut) : ∃ before,
      let acc := accumulate chunks tokensOut
      settlements before = [] ∧ runAnthropicBuffered request =
          (before ++ request.settleSuccess node acc, .ok (buildAnthropicMessage request acc)) := by
  obtain ⟨⟨session, first, rfl, finished⟩, -, unsettled⟩ :=
    Endpoint.attempts_serves (fun _ => rfl) delivers
  refine ⟨_, unsettled, ?_⟩
  unfold runAnthropicBuffered
  dsimp only
  rw [finished]
  have accumulated := anthropicBuffered.answer_view id OpenAiAccumulator.observeChunk
    (fun _ _ => rfl) chunks ({} : OpenAiAccumulator F)
  rw [accumulate]
  change _ = (chunks.foldl OpenAiAccumulator.observeChunk {}) at accumulated
  rw [← accumulated]
  rfl

end Teale.Gateway
