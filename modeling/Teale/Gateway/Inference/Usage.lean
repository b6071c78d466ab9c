import Teale.Gateway.Inference.Completion

/-!
# Reported and billed tokens

A client reads token counts in the usage object of its answer, the ledger is charged for counts of
its own. They are the same when the device's own figures agree.
-/

namespace Teale.Gateway

open Floating Serde Generator List Option ChatProgress

variable {F : Type}

/-! ## What the client reads -/

def Sse.usage : Sse F → Option (Value F)
  | data value | named _ value => presentField value "usage"
  | done => none

def reportedUsage (handed : List (Sse F)) : Option (Value F) :=
  (handed.filterMap Sse.usage).getLast?

/-- The one settlement charges for the counts of the usage object. -/
def BilledAsReported [FloatArith F] (request : FleetRequest F) (payer : ConsumerPrincipal)
    (node : DeviceId) (promptKey completionKey : String)
    (usage : Option (Value F)) (calls : List Call) : Prop :=
  ∃ prompt completion, usageCount usage promptKey = some prompt ∧
    usageCount usage completionKey = some completion ∧
    calls = [.settleRequest payer (some node) request.online
      (request.model.cost prompt completion) request.settlementId request.model.id
      request.now]

/-! ## What the device sends -/

variable {chunks : List (Value F)} {usage : Value F} {tokensOut : Option ℕ}
  {request : FleetRequest F} {payer : ConsumerPrincipal} {node : DeviceId}

def usageFrame (before : Option (Value F)) (chunks : List (Value F)) : Option (Value F) :=
  chunks.foldl (fun last chunk => (presentField chunk "usage").or last) before

theorem usageFrame_notNull (notNull : ∀ old, before = some old → old.isNull = false)
    (sent : usageFrame before chunks = some usage) : usage.isNull = false := by
  induction chunks generalizing before with
  | nil => exact notNull usage sent
  | cons chunk rest ih =>
    refine ih ?_ sent
    intro old kept
    rcases or_eq_some_iff.mp kept with present | ⟨-, earlier⟩
    · have notNull := (filter_eq_some_iff.mp present).2
      simpa using notNull
    · exact notNull old earlier

/-- The device's figures agree with the chunks it sent: the usage it sent last
gives the prompt tokens and, as completion tokens, what it reported on
completion, or the chunks when it reported nothing; without a usage object it
sent a chunk and reported no other number. -/
def ChatFiguresAgree (chunks : List (Value F)) (tokensOut : Option ℕ) : Prop :=
  match usageFrame none chunks with
  | some usage =>
    (usageCount (some usage) "prompt_tokens").isSome = true ∧
      usageCount (some usage) "completion_tokens" = some (max (tokensOut.getD chunks.length) 1)
  | none => 1 ≤ chunks.length ∧ tokensOut.getD chunks.length = chunks.length

def BufferedFiguresAgree (chunks : List (Value F)) : Prop :=
  1 ≤ chunks.length ∧ (usageCount (usageFrame none chunks) "prompt_tokens").getD 0 = 0

def MessageFiguresAgree (chunks : List (Value F)) (inputTokensEstimate : ℕ) : Prop :=
  (usageCount (usageFrame none chunks) "prompt_tokens").isSome = true ∨ inputTokensEstimate = 0

/-! ## What the bodies keep -/

theorem ChatProgress.observe_kept (progress : ChatProgress F) (modelId : String) (chunk : Value F) :
    (progress.observe modelId chunk).2.tokensOut = progress.tokensOut + 1 ∧
      (progress.observe modelId chunk).2.capturedUsage =
        (presentField chunk "usage").or progress.capturedUsage := by
  cases chunk with
  | object fields =>
    refine ⟨rfl, ?_⟩
    have untouched := Fields.get_set_of_ne fields
      (by decide : "usage" ≠ "model") (Value.string modelId)
    simp only [observe, presentField, Value.get, Value.asObject,
      bind_some, untouched]
  | null | bool | number | string | array => exact ⟨rfl, rfl⟩

/-- A chunk with text in its delta. -/
def sendsText (chunk : Value F) : Bool :=
  contentOf ((firstChoice chunk).bind fun choice => choice.get "delta") ≠ ""

theorem OpenAiAccumulator.observeChunk_kept (acc : OpenAiAccumulator F) (chunk : Value F) :
    (acc.observeChunk chunk).tokensOut = acc.tokensOut + [chunk].countP sendsText ∧
      (acc.observeChunk chunk).usage = (presentField chunk "usage").or acc.usage ∧
      (acc.observeChunk chunk).reportedTokens = acc.reportedTokens := by
  unfold OpenAiAccumulator.observeChunk
  cases chosen : firstChoice chunk with
  | none => simp [sendsText, chosen, contentOf]
  | some choice =>
    refine ⟨?_, rfl, rfl⟩
    by_cases silent : contentOf (choice.get "delta") = "" <;> simp [sendsText, chosen, silent]

theorem foldl_observeChunk_kept (chunks : List (Value F)) (acc : OpenAiAccumulator F) :
    let kept := chunks.foldl OpenAiAccumulator.observeChunk acc
    kept.tokensOut = acc.tokensOut + chunks.countP sendsText ∧
      kept.usage = usageFrame acc.usage chunks ∧ kept.reportedTokens = acc.reportedTokens := by
  induction chunks generalizing acc with
  | nil => exact ⟨rfl, rfl, rfl⟩
  | cons chunk rest ih =>
    obtain ⟨counted, captured, reported⟩ := acc.observeChunk_kept chunk
    obtain ⟨total, last, still⟩ := ih (acc.observeChunk chunk)
    refine ⟨?_, ?_, still.trans reported⟩
    · rw [foldl_cons, total, counted, countP_cons (l := rest), countP_singleton]
      omega
    · rw [foldl_cons, last, captured]
      rfl

theorem accumulate_kept (chunks : List (Value F)) (tokensOut : Option ℕ) :
    let acc := accumulate chunks tokensOut
    acc.tokensOut = chunks.countP sendsText ∧ acc.usage = usageFrame none chunks ∧
      acc.reportedTokens = tokensOut := by
  obtain ⟨total, last, still⟩ := foldl_observeChunk_kept chunks {}
  refine ⟨total.trans (Nat.zero_add _), last, ?_⟩
  change tokensOut.or _ = tokensOut
  rw [still, or_none]

/-! ## What the streams end with -/

theorem reportedUsage_append (before : List (Sse F)) {last : Sse F}
    (present : last.usage = some usage) {after : List (Sse F)}
    (silent : after.filterMap Sse.usage = []) :
    reportedUsage (before ++ last :: after) = some usage := by
  simp [reportedUsage, present, silent]

theorem chatProgress_kept
    (request : FleetRequest F) (chunks : List (Value F)) (tokensOut : Option ℕ) :
    let progress := chatProgress request chunks tokensOut
    progress.tokensOut = chunks.length ∧ progress.capturedUsage = usageFrame none chunks ∧
      progress.reportedTokens = tokensOut := by
  let endpoint : Endpoint F (ChatProgress F) := chatStreaming request.model.id
  have counted := endpoint.answer_view (·.tokensOut) (fun count _ => count + 1)
    (fun progress chunk => (progress.observe_kept _ chunk).1) chunks {}
  have captured := endpoint.answer_view (·.capturedUsage)
    (fun last chunk => (presentField chunk "usage").or last)
    (fun progress chunk => (progress.observe_kept _ chunk).2) chunks {}
  rw [foldl_add_const, Nat.zero_add, Nat.one_mul] at counted
  exact ⟨counted, captured, rfl⟩

theorem bufferedProgress_kept (chunks : List (Value F)) :
    (bufferedProgress chunks).tokensOut = chunks.length ∧
      (bufferedProgress chunks).capturedUsage = usageFrame none chunks := by
  have counted := chatBuffered.answer_view (·.tokensOut) (fun count _ => count + 1)
    (fun _ _ => rfl) chunks {}
  have captured := chatBuffered.answer_view (·.capturedUsage)
    (fun last chunk => (presentField chunk "usage").or last) (fun _ _ => rfl) chunks {}
  rw [foldl_add_const, Nat.zero_add, Nat.one_mul] at counted
  exact ⟨counted, captured⟩

theorem finalChunk_usage
    (request : FleetRequest F) (chunks : List (Value F)) (tokensOut : Option ℕ) :
    let progress := chatProgress request chunks tokensOut
    (Sse.data (finalChunk request progress)).usage = some progress.usage := by
  intro progress
  have notNull : progress.usage.isNull = false := by
    unfold usage
    rw [(chatProgress_kept request chunks tokensOut).2.1]
    cases sent : usageFrame none chunks with
    | none => rfl
    | some usage => exact usageFrame_notNull (by simp) sent
  have found : (finalChunk request progress).get "usage" = some progress.usage := rfl
  simp [Sse.usage, presentField, found, notNull]

theorem chatUsage_billed (request : FleetRequest F) (agree : ChatFiguresAgree chunks tokensOut) :
    let progress := chatProgress request chunks tokensOut
    usageCount (some progress.usage) "prompt_tokens" = some progress.billedPrompt ∧
      usageCount (some progress.usage) "completion_tokens" = some progress.billedCompletion := by
  intro progress
  obtain ⟨counted, captured, reported⟩ := chatProgress_kept request chunks tokensOut
  change progress.tokensOut = _ at counted
  change progress.capturedUsage = _ at captured
  change progress.reportedTokens = _ at reported
  unfold ChatFiguresAgree at agree
  simp only [usage, billedPrompt,
    billedCompletion, captured, counted, reported]
  cases sent : usageFrame none chunks with
  | some usage =>
    rw [sent] at agree
    obtain ⟨prompt, completion⟩ := agree
    obtain ⟨count, isCount⟩ := isSome_iff_exists.mp prompt
    refine ⟨?_, completion⟩
    rw [getD_some, isCount, getD_some]
  | none =>
    rw [sent] at agree
    refine ⟨rfl, ?_⟩
    rw [agree.2, max_eq_left agree.1]
    rfl

/-! ## Reported is billed -/

theorem reportedUsage_runStreaming [FloatArith F]
    (delivers : request.ChatDelivers node chunks tokensOut) :
    reportedUsage (items (runStreaming request)) =
      some (chatProgress request chunks tokensOut).usage := by
  obtain ⟨before, -, stream⟩ := runStreaming_of_delivers delivers
  rw [stream]
  simp only [items_append, items_yield, items_map_act, items_act, items_nil,
    append_nil, cons_append, nil_append]
  exact reportedUsage_append _ (finalChunk_usage request chunks tokensOut) rfl

theorem usageObject_billed {inputTokensEstimate : ℕ}
    (agree : MessageFiguresAgree chunks inputTokensEstimate) (tokensOut : Option ℕ) :
    let acc := accumulate chunks tokensOut
    acc.promptTokens inputTokensEstimate = acc.promptTokens 0 := by
  intro acc
  have usage : acc.usage = usageFrame none chunks := (accumulate_kept chunks tokensOut).2.1
  unfold OpenAiAccumulator.promptTokens
  rw [usage]
  rcases agree with sent | none
  · obtain ⟨count, isCount⟩ := isSome_iff_exists.mp sent
    rw [isCount, getD_some, getD_some]
  · rw [none]

theorem reportedUsage_runAnthropicStreaming [FloatArith F] {request : AnthropicRequest F}
    (delivers : request.StreamDelivers node chunks tokensOut) :
    reportedUsage (items (runAnthropicStreaming request)) =
      some ((accumulate chunks tokensOut).usageObject request.inputTokensEstimate) := by
  obtain ⟨before, progress, -, accumulated, stream⟩ := runAnthropicStreaming_of_delivers delivers
  rw [stream, ← accumulated]
  simp only [items_append, items_map_yield, items_map_act, append_nil,
    AnthropicProgress.closing, AnthropicStreamTranslator.finishEvents,
    ← append_assoc]
  exact reportedUsage_append _ rfl rfl

/-! ## What is settled -/

theorem runBuffered_settles [FloatArith F]
    (delivers : request.BufferedDelivers node chunks tokensOut) :
    let progress := bufferedProgress chunks
    settlements (runBuffered request).1 =
      settlements (request.settle node progress.billedPrompt progress.billedCompletion) := by
  obtain ⟨before, unsettled, served⟩ := runBuffered_of_delivers delivers
  rw [served, settlements_append, settlements_append, unsettled]
  exact append_nil _

theorem runAnthropicBuffered_settles [FloatArith F] {request : AnthropicRequest F}
    (delivers : request.BufferedDelivers node chunks tokensOut) :
    settlements (runAnthropicBuffered request).1 =
      settlements (request.settleSuccess node (accumulate chunks tokensOut)) := by
  obtain ⟨before, unsettled, served⟩ := runAnthropicBuffered_of_delivers delivers
  rw [served, settlements_append, unsettled]
  rfl

/-- The tokens the device reports on completion and the completion tokens of its
usage, where it gives them, are as many as its chunks, none counting as one; if
it gives neither, the chunks with text are. -/
def FiguresCountChunks (chunks : List (Value F)) (tokensOut : Option ℕ) : Prop :=
  (∀ reported, tokensOut = some reported → max reported 1 = max chunks.length 1) ∧
    match (usageCount (usageFrame none chunks) "completion_tokens").or tokensOut with
    | some count => max count 1 = max chunks.length 1
    | none => max (chunks.countP sendsText) 1 = max chunks.length 1

/-- The four bodies settle for the same counts just if the device's figures
count its chunks. -/
theorem settled_counts_same_iff [FloatArith F] (chunks : List (Value F)) (tokensOut : Option ℕ) :
    let usage := usageFrame none chunks
    let prompt := (usageCount usage "prompt_tokens").getD 0
    let chat := max (tokensOut.getD chunks.length) 1
    let buffered := max chunks.length 1
    let message := max (((usageCount usage "completion_tokens").or tokensOut).getD
      (chunks.countP sendsText)) 1
    (∀ (request : FleetRequest F) node, request.ChatDelivers node chunks tokensOut →
      settlements (effects (runStreaming request)) =
        settlements (request.settle node prompt chat)) ∧
    (∀ (request : FleetRequest F) node, request.BufferedDelivers node chunks tokensOut →
      settlements (runBuffered request).1 = settlements (request.settle node prompt buffered)) ∧
    (∀ (request : AnthropicRequest F) node, request.StreamDelivers node chunks tokensOut →
      settlements (effects (runAnthropicStreaming request)) =
        settlements (request.settle node prompt message)) ∧
    (∀ (request : AnthropicRequest F) node, request.BufferedDelivers node chunks tokensOut →
      settlements (runAnthropicBuffered request).1 =
        settlements (request.settle node prompt message)) ∧
    (chat = buffered ∧ message = buffered ↔ FiguresCountChunks chunks tokensOut) := by
  obtain ⟨counted, captured, reported⟩ := accumulate_kept chunks tokensOut
  refine ⟨fun request node delivers => ?_, fun request node delivers => ?_,
    fun request node delivers => ?_, fun request node delivers => ?_, ?_⟩
  · obtain ⟨counted, captured, reported⟩ := chatProgress_kept request chunks tokensOut
    rw [runStreaming_settles delivers, billedPrompt, billedCompletion,
      counted, captured, reported]
  · obtain ⟨counted, captured⟩ := bufferedProgress_kept chunks
    rw [runBuffered_settles delivers, BufferedProgress.billedPrompt,
      BufferedProgress.billedCompletion, counted, captured]
  · rw [runAnthropicStreaming_settles delivers, AnthropicRequest.settleSuccess,
      OpenAiAccumulator.promptTokens, OpenAiAccumulator.outputTokens, counted, captured, reported]
  · rw [runAnthropicBuffered_settles delivers, AnthropicRequest.settleSuccess,
      OpenAiAccumulator.promptTokens, OpenAiAccumulator.outputTokens, counted, captured, reported]
  · refine and_congr ?_ ?_
    · cases tokensOut <;> simp
    · cases (usageCount (usageFrame none chunks) "completion_tokens").or tokensOut <;> rfl

/-! ## Figures that do not agree -/

def Call.settledCost : Call → ℤ
  | .settleRequest _ _ _ cost _ _ _ => cost
  | _ => 0

theorem not_billedAsReported [FloatArith F] {promptKey completionKey : String}
    {usage : Option (Value F)} {calls : List Call} (prompt completion : ℕ)
    (promptReported : usageCount usage promptKey = some prompt)
    (completionReported : usageCount usage completionKey = some completion)
    (costs : calls.map Call.settledCost ≠ [request.model.cost prompt completion]) :
    ¬ BilledAsReported request payer node promptKey completionKey usage calls := by
  rintro ⟨otherPrompt, otherCompletion, promptSame, completionSame, rfl⟩
  rw [promptReported, some.injEq] at promptSame
  rw [completionReported, some.injEq] at completionSame
  subst promptSame completionSame
  exact costs rfl

def usageChunk (prompt completion : ℕ) : Value ℚ := .object [("usage", .object
    [("prompt_tokens", .nat prompt), ("completion_tokens", .nat completion)])]

/-- A request that one device serves with one chunk, at a credit for every
token. -/
def pricedRequest (chunk : Value ℚ) (tokensOut : Option ℕ) : AnthropicRequest ℚ :=
  { oneChunkRequest with
    fleet :=
      { maxRetries := 1
        dispatch := fun _ _ => .ok
          { node := "mac"
            received := [.event (.chunk chunk), .event (.complete tokensOut)] } }
    model := { oneChunkRequest.model with
      promptPriceUsd := mkRat 1 1000000, completionPriceUsd := mkRat 1 1000000 } }

def agreeingRequest : AnthropicRequest ℚ := pricedRequest (usageChunk 10 5) (some 5)

/-- The device reports on completion more than it put into the usage. -/
def disagreeingRequest : AnthropicRequest ℚ := pricedRequest (usageChunk 10 5) (some 9)

def silentRequest : AnthropicRequest ℚ := pricedRequest oneChunk (some 1)

/-- For one chunk and ten prompt tokens. -/
theorem settled_counts_differ :
    (settlements (effects (runStreaming disagreeingRequest.toFleetRequest))).map Call.settledCost =
        [19] ∧
      (settlements (runBuffered disagreeingRequest.toFleetRequest).1).map Call.settledCost = [11] ∧
      (settlements (effects (runAnthropicStreaming disagreeingRequest))).map Call.settledCost =
        [15] ∧
      (settlements (runAnthropicBuffered disagreeingRequest).1).map Call.settledCost = [15] := by
  decide +kernel

end Teale.Gateway
