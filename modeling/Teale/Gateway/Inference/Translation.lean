import Teale.Gateway.Inference.Chat

/-!
# Requests in other shapes

The completions, responses and messages endpoints rewrite their bodies into that of a chat
request: `completions.rs`, `responses.rs` and `messages.rs`.
-/

namespace Teale.Gateway

open Serde Transactional

variable {F : Type}

def chatMessage (role : String) (content : Value F) : Value F :=
  .object [("role", .string role), ("content", content)]

def joinLines (texts : List String) : String := "\n".intercalate texts

/-! ## Completions -/

def completionPrompt : Value F → Except GatewayError String
  | .string text => .ok text
  | .array parts => .ok (joinLines (parts.map fun part => part.asStr.getD ""))
  | _ => .error (.badRequest "`prompt` must be a string or array of strings")

def chatOnlyFeatures : List String := ["tools", "tool_choice", "response_format"]

def completionsToChat (req : Value F) : Except GatewayError (Value F) := do
  let fields ← getOr req.asObject
    (.badRequest "request body must be a JSON object")
  let promptValue ← getOr (Fields.get fields "prompt")
    (.badRequest "`prompt` is required")
  let prompt ← completionPrompt promptValue
  match chatOnlyFeatures.find? fun key => (Fields.get fields key).isSome with
  | some forbidden => .error (.badRequest ("`" ++ forbidden ++
      "` is not supported on /v1/completions; use /v1/chat/completions instead"))
  | none => pure (.object (Fields.set (Fields.remove fields "prompt") "messages"
      (.array [chatMessage "user" (.string prompt)])))

/-! ## Responses -/

def inputPartText (part : Value F) : Except GatewayError String :=
  let kind := textField part "type"
  if kind = some "input_text" ∨ kind = some "output_text" then
    .ok ((textField part "text").getD "")
  else if kind = some "input_image" ∨ kind = some "image_url" then
    .error (.badRequest "image inputs are not supported yet")
  else
    .ok ""

def inputContent : Option (Value F) → Except GatewayError String
  | some (.string text) => .ok text
  | some (.array parts) => String.join <$> parts.mapM inputPartText
  | _ => .ok ""

def functionCallMessage (item : Value F) : Value F :=
  let callId := (((item.get "call_id").or (item.get "id")).bind
    Value.asStr).getD ""
  .object [("role", .string "assistant"), ("content", .null), ("tool_calls", .array [.object
        [("id", .string callId), ("type", .string "function"), ("function", .object
            [("name", (item.get "name").getD .null),
              ("arguments", .string ((textField item "arguments").getD ""))])]])]

/-- The chat message of what a tool returned; `print` is `Value::to_string`. -/
def functionOutputMessage (print : Value F → String) (item : Value F) : Value F :=
  let output :=
    match item.get "output" with
    | some (.string text) => text
    | some other => print other
    | none => ""
  .object [("role", .string "tool"), ("tool_call_id", .string ((textField item "call_id").getD "")),
      ("content", .string output)]

/-- `translate_input_item`: the messages it adds. Reasoning and items of an
unknown type are dropped. -/
def translateInputItem (print : Value F → String) (item : Value F) :
    Except GatewayError (List (Value F)) :=
  let kind := textField item "type"
  if (kind = some "message" ∨ kind = none) ∧ (item.get "role").isSome then
    (inputContent (item.get "content")).map fun content =>
      [chatMessage ((textField item "role").getD "user") (.string content)]
  else if kind = some "function_call" then
    .ok [functionCallMessage item]
  else if kind = some "function_call_output" then
    .ok [functionOutputMessage print item]
  else
    .ok []

def inputMessages (print : Value F → String) :
    Option (Value F) → Except GatewayError (List (Value F))
  | none | some .null => .ok []
  | some (.string text) => .ok [chatMessage "user" (.string text)]
  | some (.array items) => List.flatten <$> items.mapM (translateInputItem print)
  | some _ => .error (.badRequest "`input` must be a string or an array")

def instructionMessages (req : Value F) : List (Value F) :=
  match textField req "instructions" with
  | some instructions =>
    if instructions = "" then []
    else [chatMessage "system" (.string instructions)]
  | none => []

def chatTool (name description parameters : Value F) : Value F := .object
    [("type", .string "function"), ("function", .object
        [("name", name), ("description", description), ("parameters", parameters)])]

def functionTools (req : Value F) : List (Value F) :=
  let listed := ((req.get "tools").bind Value.asArray).getD []
  (listed.filter fun tool => textField tool "type" = some "function").map
    fun tool => chatTool ((tool.get "name").getD .null)
      ((tool.get "description").getD .null) ((tool.get "parameters").getD .null)

def copyField (key : String) (field : Option (Value F)) (fields : Fields F) : Fields F :=
  match field with
  | some value => Fields.set fields key value
  | none => fields

def wantsStream (req : Value F) : Bool := ((req.get "stream").bind Value.asBool).getD false

def copyTools (req : Value F) (fields : Fields F) : Fields F :=
  let tools := functionTools req
  if tools.isEmpty then fields
  else copyField "tool_choice" (req.get "tool_choice") (Fields.set fields "tools" (.array tools))

def translateRequest (print : Value F → String) (req : Value F) :
    Except GatewayError (Value F) := do
  let model ← getOr (textField req "model") (.badRequest "`model` is required")
  let input ← inputMessages print (req.get "input")
  let messages := instructionMessages req ++ input
  failIf (messages.isEmpty = true)
    (.badRequest "`input` (or `instructions`) must produce at least one message")
  let maxTokens := ((req.get "max_output_tokens").bind Value.asU64).map
    fun tokens => Value.nat (tokens % 2 ^ 32)
  let chat := copyField "max_tokens" maxTokens
    [("model", .string model), ("messages", .array messages)]
  let chat := ["temperature", "top_p", "stop"].foldl (fun chat key =>
    copyField key (req.get key) chat) chat
  let chat := copyTools req (copyField "stream" (req.get "stream") chat)
  let options := if wantsStream req then
    some (Value.object [("include_usage", .bool true)]) else none
  pure (.object (copyField "stream_options" options chat))

/-! ## Anthropic messages -/

structure AnthropicMessageParam (F : Type) where
  role : String
  content : Value F

structure AnthropicMessageRequest (F : Type) where
  model : String
  maxTokens : Option ℕ
  messages : List (AnthropicMessageParam F)
  system : Option (Value F)
  stopSequences : Option (List String)
  temperature : Option F
  topP : Option F
  stream : Option Bool
  tools : Option (List (Value F))
  toolChoice : Option (Value F)

/-- What `serde_json` does for the messages endpoint: printing a value, telling
whether a float is a JSON number, and reading a body. -/
structure JsonText (F : Type) where
  print : Value F → String
  isFinite : F → Bool
  readMessages : Value F → Except String (AnthropicMessageRequest F)

def textFromTextBlock (block : Value F) (context : String) : Except GatewayError String := do
  failIf (textField block "type" ≠ some "text")
    (.badRequest (context ++ " block must be a text block"))
  getOr (textField block "text") (.badRequest "text block missing `text`")

def textFromSystem : Value F → Except GatewayError (Option String)
  | .string text => .ok (if text = "" then none else some text)
  | .array blocks => do
    let texts ← blocks.mapM fun block => textFromTextBlock block "system"
    pure (if joinLines texts = "" then none else some (joinLines texts))
  | .object fields => some <$> textFromTextBlock (.object fields) "system"
  | _ => .error (.badRequest "`system` must be a string or text block array")

def textFromToolResultContent (print : Value F → String) : Value F → Except GatewayError String
  | .string text => .ok text
  | .array blocks => do
    let texts ← blocks.mapM fun block =>
      let kind := (textField block "type").getD ""
      if kind = "text" then textFromTextBlock block "tool_result"
      else .error (.badRequest ("tool_result content block `" ++ kind ++ "` is not supported"))
    pure (joinLines texts)
  | other => .ok (print other)

def userTexts (texts : List String) : List (Value F) :=
  if texts.isEmpty then [] else [chatMessage "user" (.string (joinLines texts))]

def blockType (block : Value F) : Except GatewayError String :=
  getOr (textField block "type") (.badRequest "content block missing `type`")

def unsupportedBlock {α : Type} (kind : String) : Except GatewayError α :=
  .error (.badRequest ("Anthropic content block `" ++ kind ++ "` is not supported"))

/-- The loop of `append_user_message`; a tool result ends the text before
it. -/
def userBlocks (print : Value F → String) :
    List String → List (Value F) → Except GatewayError (List (Value F))
  | texts, [] => .ok (userTexts texts)
  | texts, block :: rest => do
    let kind ← blockType block
    if kind = "text" then
      let text ← textFromTextBlock block "message"
      userBlocks print (texts ++ [text]) rest
    else if kind = "tool_result" then
      let toolUseId ← getOr (textField block "tool_use_id")
        (.badRequest "`tool_result` block missing `tool_use_id`")
      let content ← textFromToolResultContent print
        ((block.get "content").getD (.string ""))
      let later ← userBlocks print [] rest
      pure (userTexts texts ++ .object
        [("role", .string "tool"), ("tool_call_id", .string toolUseId),
          ("content", .string content)] :: later)
    else
      unsupportedBlock kind

def userMessages (print : Value F → String) : Value F → Except GatewayError (List (Value F))
  | .string text => .ok [chatMessage "user" (.string text)]
  | .array blocks => userBlocks print [] blocks
  | _ => .error (.badRequest "message content must be a string or content block array")

/-- The loop of `append_assistant_message`: the texts and the tool calls. -/
def assistantBlocks (print : Value F → String) :
    List (Value F) → Except GatewayError (List String × List (Value F))
  | [] => .ok ([], [])
  | block :: rest => do
    let kind ← blockType block
    if kind = "text" then
      let text ← textFromTextBlock block "message"
      let later ← assistantBlocks print rest
      pure (text :: later.1, later.2)
    else if kind = "tool_use" then
      let id ← getOr (textField block "id")
        (.badRequest "`tool_use` block missing `id`")
      let name ← getOr (textField block "name")
        (.badRequest "`tool_use` block missing `name`")
      let input := (block.get "input").getD (.object [])
      let later ← assistantBlocks print rest
      pure (later.1, .object [("id", .string id), ("type", .string "function"), ("function", .object
            [("name", .string name), ("arguments", .string (print input))])] ::
        later.2)
    else
      unsupportedBlock kind

def assistantMessages (print : Value F → String) : Value F → Except GatewayError (List (Value F))
  | .string text => .ok [chatMessage "assistant" (.string text)]
  | .array blocks => do
    let collected ← assistantBlocks print blocks
    let content : Value F := if collected.1.isEmpty then .null
      else .string (joinLines collected.1)
    let message := chatMessage "assistant" content
    pure [if collected.2.isEmpty then message
      else message.insert "tool_calls" (.array collected.2)]
  | _ => .error (.badRequest "message content must be a string or content block array")

def anthropicMessages (print : Value F → String) (message : AnthropicMessageParam F) :
    Except GatewayError (List (Value F)) :=
  if message.role = "user" then userMessages print message.content
  else if message.role = "assistant" then assistantMessages print message.content
  else .error (.badRequest ("unsupported Anthropic message role `" ++ message.role ++ "`"))

def convertTool (tool : Value F) : Except GatewayError (Value F) := do
  match (textField tool "type").filter fun kind => kind ≠ "custom" with
  | some kind => .error (.badRequest ("Anthropic server tool `" ++ kind ++ "` is not supported"))
  | none =>
    let name ← getOr (textField tool "name")
      (.badRequest "tool definition missing `name`")
    pure (chatTool (.string name) (.string ((textField tool "description").getD ""))
      ((tool.get "input_schema").getD (.object [("type", .string "object")])))

def convertToolChoice (choice : Value F) : Except GatewayError (Value F) := do
  let kind ← getOr (textField choice "type")
    (.badRequest "tool_choice missing `type`")
  if kind = "auto" then pure (.string "auto")
  else if kind = "any" then pure (.string "required")
  else if kind = "none" then pure (.string "none")
  else if kind = "tool" then
    let name ← getOr (textField choice "name")
      (.badRequest "tool_choice tool missing `name`")
    pure (.object [("type", .string "function"), ("function", .object [("name", .string name)])])
  else .error (.badRequest ("unsupported Anthropic tool_choice `" ++ kind ++ "`"))

def numberValue (json : JsonText F) (number : F) : Except GatewayError (Value F) :=
  if json.isFinite number then .ok (.number (.float number))
  else .error (.badRequest "numeric parameter was not finite")

def translateField {α β : Type} (translate : α → Except GatewayError β) :
    Option α → Except GatewayError (Option β)
  | some value => some <$> translate value
  | none => .ok none

def anthropicToOpenai (json : JsonText F) (req : AnthropicMessageRequest F) :
    Except GatewayError (Value F) := do
  let maxTokens ← getOr req.maxTokens (.badRequest "`max_tokens` is required")
  failIf (RustText.trim req.model = "") (.badRequest "`model` is required")
  let system ← translateField textFromSystem req.system
  let later ← req.messages.mapM (anthropicMessages json.print)
  let messages := (system.join.map fun text =>
    chatMessage "system" (.string text)).toList ++ later.flatten
  let temperature ← translateField (numberValue json) req.temperature
  let topP ← translateField (numberValue json) req.topP
  let tools ← translateField (List.mapM convertTool) req.tools
  let toolChoice ← translateField convertToolChoice req.toolChoice
  let body : Fields F :=
    [("model", .string req.model), ("messages", .array messages),
      ("max_tokens", .nat maxTokens), ("stream", .bool (req.stream.getD false))]
  let body := copyField "top_p" topP (copyField "temperature" temperature body)
  let body := copyField "stop" (req.stopSequences.map fun texts =>
    .array (texts.map .string)) body
  let body := copyField "tools" (tools.map .array) body
  pure (.object (copyField "tool_choice" toolChoice body))

def estimateAnthropicTokens (json : JsonText F) (req : AnthropicMessageRequest F) : ℕ :=
  let printed (value : Value F) : ℕ := RustText.len (json.print value)
  let bytes := RustText.len req.model + (req.system.map printed).getD 0 +
    (req.messages.map fun message => RustText.len message.role + printed message.content).sum +
    ((req.tools.getD []).map printed).sum
  (bytes + 3) / 4 + 32

end Teale.Gateway
