import Teale.Gateway.Auth
import Teale.Lib.Floating
import Teale.Lib.Json

/-!
# Preparing a chat request

What happens to a request before a device of the fleet sees it. The answers of the catalogue and
of the registry are taken from the `Supply` the request meets.
-/

namespace Teale.Gateway

open Floating Serde Transactional FloatArith

variable {F : Type}

/-! ## Cost -/

/-- The fields of `CatalogModel` a request is priced and routed with.
`isLarge` is `is_large(params_b)`. -/
structure CatalogModel (F : Type) where
  id : String
  isVirtual : Bool
  isLarge : Bool
  maxOutputTokens : ℕ
  promptPriceUsd : F
  completionPriceUsd : F

section Pricing

variable [FloatArith F]

/-- `cost_credits`: one credit is a millionth of a dollar, and a completed turn
costs at least one. -/
def costCredits (tokensIn tokensOut : ℕ) (promptPriceUsd completionPriceUsd : F) : ℤ :=
  let zero : F := ofNat 0
  let usd := add
    (mul (ofNat tokensIn) (max promptPriceUsd zero))
    (mul (ofNat tokensOut) (max completionPriceUsd zero))
  max (roundToInt (mul usd (ofNat 1000000))) 1

theorem one_le_costCredits (tokensIn tokensOut : ℕ) (promptPriceUsd completionPriceUsd : F) :
    1 ≤ costCredits tokensIn tokensOut promptPriceUsd completionPriceUsd :=
  le_max_right _ _

def CatalogModel.cost (model : CatalogModel F) (tokensIn tokensOut : ℕ) : ℤ :=
  costCredits tokensIn tokensOut model.promptPriceUsd model.completionPriceUsd

/-! ## The clamp -/

/-- The fields of `ChatCompletionRequest` the gateway reads. A message is the
length in bytes of its content, written as JSON unless it is a string. -/
structure ChatCompletionRequest where
  model : Option String
  messages : List ℕ
  maxTokens : Option ℕ
  stream : Option Bool
  deriving DecidableEq, Repr

def promptTokensEstimate (req : ChatCompletionRequest) : ℕ := (req.messages.sum + 3) / 4 + 16

def estimatePromptTokens (req : ChatCompletionRequest) : ℕ := req.messages.sum / 4

def u32Max : ℕ := 2 ^ 32 - 1

def estimateRequiredContext (req : ChatCompletionRequest) : ℕ :=
  min (estimatePromptTokens req + req.maxTokens.getD 4096) u32Max

def u64Max : ℕ := 2 ^ 64 - 1

def affordableOutTokens (model : CatalogModel F) (remainingAfterPrompt : ℤ) : ℕ :=
  if remainingAfterPrompt ≤ 0 then
    1
  else
    let completionPriceCredits :=
      mul model.completionPriceUsd (ofNat 1000000)
    if le completionPriceCredits (ofNat 0) then
      u64Max
    else
      (max (floorToInt (div
        (ofInt remainingAfterPrompt) completionPriceCredits)) 1).toNat

structure ClampDecision where
  effectiveMax : ℕ
  clientMax : ℕ
  clamped : Bool
  deriving DecidableEq, Repr

/-- `compute_clamp`: the error is the least budget that would do. -/
def computeClamp (model : CatalogModel F) (req : ChatCompletionRequest) (effectiveBudget : ℤ) :
    Except ℤ ClampDecision :=
  let promptCost := model.cost (promptTokensEstimate req) 0
  let oneOutCost := model.cost 0 1
  let minRequired := promptCost + oneOutCost
  if effectiveBudget < minRequired then
    .error minRequired
  else
    let catalogMax := model.maxOutputTokens
    let clientMax := max (min (req.maxTokens.getD catalogMax) catalogMax) 1
    let affordableOut := affordableOutTokens model (effectiveBudget - promptCost)
    let effectiveMax := max (min clientMax affordableOut) 1
    .ok { effectiveMax, clientMax, clamped := effectiveMax < clientMax }

theorem two_le_of_computeClamp {model : CatalogModel F} {req : ChatCompletionRequest} {budget : ℤ}
    {decision : ClampDecision}
    (accepted : computeClamp model req budget = .ok decision) : 2 ≤ budget := by
  have prompt := one_le_costCredits (promptTokensEstimate req) 0
    model.promptPriceUsd model.completionPriceUsd
  have token := one_le_costCredits 0 1 model.promptPriceUsd model.completionPriceUsd
  simp only [computeClamp] at accepted
  split at accepted
  case isTrue => exact absurd accepted (by simp)
  case isFalse covered =>
    unfold CatalogModel.cost at covered
    omega

end Pricing

/-! ## What a principal can spend -/

/-- `consumer_principal`: static tokens and account sessions do not settle. -/
def consumerPrincipal : PrincipalKind → Option ConsumerPrincipal
  | .share issuerDeviceId keyId _ => some (.share issuerDeviceId keyId)
  | .apiKey keyId accountUserId _ _ _ => some (.account accountUserId (some keyId))
  | .device deviceId => some (.device deviceId)
  | .static _ | .accountSession _ _ => none

def rejectAccountSession : PrincipalKind → Except GatewayError Unit
  | .accountSession _ _ => .error (.forbidden
      "account sessions cannot run inference; create an API key with /v1/keys")
  | _ => .ok ()

def apiKeyRemainingLimit (db : Db) (keyId : KeyId) : Option ℤ :=
  (db.apiKeys.find? keyId).bind fun row =>
    row.creditLimit.map fun limit => max (limit - row.usageCredits) 0

/-- The spending ceiling of a principal: the wallet of a device, the pool of a
share key, bounded by the wallet of its issuer when it was never funded, and the
wallet of an account bounded by the limit of the key. -/
def effectiveBudget (db : Db) : ConsumerPrincipal → ℤ
  | .share issuerDeviceId keyId =>
    if shareFunded db keyId then keyRemaining db keyId
    else min (keyRemaining db keyId) (db.balanceOf issuerDeviceId)
  | .device deviceId => db.balanceOf deviceId
  | .account accountUserId apiKeyId =>
    min (db.creditsOf accountUserId) ((apiKeyId.bind (apiKeyRemainingLimit db)).getD i64Max)

/-! ## Preparation -/

/-- The answers of the catalogue and the device registry to one request.
`parse` reads the body as a `ChatCompletionRequest`; `resolveVirtual` is
`resolve_auto` with its second pass over all models, which it reports. -/
structure Supply (F : Type) where
  parse : Value F → Except String ChatCompletionRequest
  resolveRequestedModel : String → Option (CatalogModel F)
  warmingUp : Bool
  resolveVirtual : ChatCompletionRequest → List String → Option (CatalogModel F × Bool)
  floorSmall : ℕ
  floorLarge : ℕ
  loadedCount : String → ℕ

/-- `PreparedChatRequest` without the fields only the choice of a device
reads. -/
structure PreparedChatRequest (F : Type) where
  catalogModel : CatalogModel F
  reqBody : Value F
  consumer : Option ConsumerPrincipal
  requiredCtx : ℕ
  promptTokens : ℕ
  streaming : Bool
  toolsLaneFallback : Bool
  wasVirtualResolution : Bool

def unresolvedModelError (supply : Supply F) (requestedModel : String) : GatewayError :=
  if supply.warmingUp then .noEligibleDevice requestedModel
  else .modelNotFound requestedModel

/-- The concrete model of a request, and whether the required parameters were
given up for it. -/
def resolveModel (supply : Supply F) (parsed : ChatCompletionRequest)
    (excludedModels : List String) (model : CatalogModel F) :
    Except GatewayError (CatalogModel F × Bool) :=
  if model.isVirtual then
    match supply.resolveVirtual parsed excludedModels with
    | some resolved => .ok resolved
    | none => .error (.noEligibleDevice
        s!"{model.id} (required_ctx={estimateRequiredContext parsed})")
  else
    .ok (model, false)

def Supply.floor (supply : Supply F) (model : CatalogModel F) : ℕ :=
  if model.isLarge then supply.floorLarge else supply.floorSmall

/-- The budget gate: `max_tokens` is forced onto the request and its body. A
principal that does not settle passes as it is. -/
def clampToBudget [FloatArith F] (db : Db) (consumer : Option ConsumerPrincipal)
    (model : CatalogModel F) (parsed : ChatCompletionRequest) (req : Value F) :
    Except GatewayError (ChatCompletionRequest × Value F) :=
  match consumer with
  | none => .ok (parsed, req)
  | some payer =>
    match computeClamp model parsed (effectiveBudget db payer) with
    | .ok decision =>
      .ok ({ parsed with maxTokens := some decision.effectiveMax },
        req.insert "max_tokens" (.nat decision.effectiveMax))
    | .error required => .error (.insufficientCredits (effectiveBudget db payer) required)

def prepareChatRequestExcluding
    [FloatArith F] (supply : Supply F) (db : Db) (principal : PrincipalKind)
    (req : Value F) (excludedModels : List String) :
    Except GatewayError (PreparedChatRequest F) := do
  let parsed ← (supply.parse req).mapError fun failure =>
    .badRequest ("invalid request body: " ++ failure)
  let requestedModel ← getOr parsed.model
    (.badRequest "`model` is required")
  let requested ← getOr (supply.resolveRequestedModel requestedModel)
    (unresolvedModelError supply requestedModel)
  let resolved ← resolveModel supply parsed excludedModels requested
  failIf (supply.loadedCount resolved.1.id < supply.floor resolved.1)
    (.noEligibleDevice resolved.1.id)
  let consumer := consumerPrincipal principal
  let clamped ← clampToBudget db consumer resolved.1 parsed req
  pure
    { catalogModel := resolved.1
      reqBody := clamped.2
      consumer
      requiredCtx := estimateRequiredContext clamped.1
      promptTokens := estimatePromptTokens clamped.1
      streaming := parsed.stream.getD false
      toolsLaneFallback := resolved.2
      wasVirtualResolution := requested.isVirtual }

/-- A settling principal whose request is prepared can pay for the prompt and
one token. -/
theorem two_le_of_prepareChatRequestExcluding
    [FloatArith F] {supply : Supply F} {db : Db} {principal : PrincipalKind}
    {req : Value F} {excludedModels : List String}
    {prepared : PreparedChatRequest F} {payer : ConsumerPrincipal}
    (settles : consumerPrincipal principal = some payer)
    (ran : prepareChatRequestExcluding supply db principal req excludedModels = .ok prepared) :
    2 ≤ effectiveBudget db payer := by
  simp only [prepareChatRequestExcluding, bind_eq_ok, settles] at ran
  obtain ⟨parsed, -, _, -, _, -, resolved, -, _, -, clamped, gate, -⟩ := ran
  simp only [clampToBudget] at gate
  split at gate
  case h_1 decision accepted => exact two_le_of_computeClamp accepted
  case h_2 => exact absurd gate (by simp)

end Teale.Gateway
