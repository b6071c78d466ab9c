import Teale.Gateway.Inference.Preparation

/-!
# Choosing among centralized providers

The preferences a request carries in its `provider` field, the providers that
pass its filters, and the order in which they and the fleet are tried.
-/

namespace Teale.Gateway

open Floating Serde FloatArith

variable {F : Type}

/-! ## Preferences -/

inductive SortKey
  | price
  | throughput
  | latency
  deriving DecidableEq, Repr

inductive SortPref
  | simple (key : SortKey)
  | detailed (by_ : SortKey) (partition : Option String)
  deriving DecidableEq, Repr

def SortPref.key : SortPref → SortKey
  | simple key => key
  | detailed key _ => key

structure MaxPrice (F : Type) where
  prompt : Option F
  completion : Option F
  request : Option F
  image : Option F

structure PercentilePref (F : Type) where
  p50 : Option F
  p75 : Option F
  p90 : Option F
  p99 : Option F

/-- `ProviderPreferences`; the defaults are those of `Default`. -/
structure ProviderPreferences (F : Type) where
  order : Option (List String) := none
  allowFallbacks : Bool := false
  only : Option (List String) := none
  ignore : Option (List String) := none
  quantizations : Option (List String) := none
  sort : Option SortPref := none
  maxPrice : Option (MaxPrice F) := none
  preferredMinThroughput : Option (PercentilePref F) := none
  preferredMaxLatency : Option (PercentilePref F) := none
  requireParameters : Bool := false
  dataCollection : Option String := none
  zdr : Option Bool := none

/-! ## Reading preferences -/

/-- How a derived `Deserialize` finds the fields of a struct: by name in an
object, by position in an array that has no more items than the struct has
fields. -/
def structFields (count : ℕ) : Value F → Option (ℕ → String → Option (Value F))
  | .object fields => some fun _ name => Fields.get fields name
  | .array items =>
    if items.length ≤ count then some fun index _ => items[index]? else none
  | _ => none

/-- An `Option` field with a default: absent and `null` are `none`. -/
def readOptional {α : Type} (read : Value F → Option α) : Option (Value F) → Option (Option α)
  | none | some .null => some none
  | some value => (read value).map some

def readOr {α : Type} (absent : α) (read : Value F → Option α) : Option (Value F) → Option α
  | none => some absent
  | some value => read value

def readStrings (value : Value F) : Option (List String) :=
  value.asArray.bind fun items => items.mapM Value.asStr

def readFloat [FloatArith F] : Value F → Option F
  | .number (.natural value) => some (ofNat value)
  | .number (.negative value) => some (ofInt value)
  | .number (.float value) => some value
  | _ => none

def readSortKey : Value F → Option SortKey
  | .string "price" => some .price
  | .string "throughput" => some .throughput
  | .string "latency" => some .latency
  | _ => none

def readSortPref (value : Value F) : Option SortPref :=
  ((readSortKey value).map SortPref.simple).or do
    let field ← structFields 2 value
    let key ← (field 0 "by").bind readSortKey
    let part ← readOptional Value.asStr (field 1 "partition")
    pure (.detailed key part)

def readMaxPrice [FloatArith F] (value : Value F) : Option (MaxPrice F) := do
  let field ← structFields 4 value
  let prompt ← readOptional readFloat (field 0 "prompt")
  let completion ← readOptional readFloat (field 1 "completion")
  let request ← readOptional readFloat (field 2 "request")
  let image ← readOptional readFloat (field 3 "image")
  pure ⟨prompt, completion, request, image⟩

def readPercentilePref [FloatArith F] (value : Value F) : Option (PercentilePref F) := do
  let field ← structFields 4 value
  let p50 ← readOptional readFloat (field 0 "p50")
  let p75 ← readOptional readFloat (field 1 "p75")
  let p90 ← readOptional readFloat (field 2 "p90")
  let p99 ← readOptional readFloat (field 3 "p99")
  pure ⟨p50, p75, p90, p99⟩

/-- `Deserialize` of `ProviderPreferences`; `allow_fallbacks` is true when it is
left out of the object. -/
def readPreferences [FloatArith F] (value : Value F) : Option (ProviderPreferences F) := do
  let field ← structFields 12 value
  let order ← readOptional readStrings (field 0 "order")
  let allowFallbacks ← readOr true Value.asBool (field 1 "allow_fallbacks")
  let only ← readOptional readStrings (field 2 "only")
  let ignore ← readOptional readStrings (field 3 "ignore")
  let quantizations ← readOptional readStrings (field 4 "quantizations")
  let sort ← readOptional readSortPref (field 5 "sort")
  let maxPrice ← readOptional readMaxPrice (field 6 "max_price")
  let preferredMinThroughput ←
    readOptional readPercentilePref (field 7 "preferred_min_throughput")
  let preferredMaxLatency ←
    readOptional readPercentilePref (field 8 "preferred_max_latency")
  let requireParameters ←
    readOr false Value.asBool (field 9 "require_parameters")
  let dataCollection ← readOptional Value.asStr (field 10 "data_collection")
  let zdr ← readOptional Value.asBool (field 11 "zdr")
  pure ⟨order, allowFallbacks, only, ignore, quantizations, sort, maxPrice,
    preferredMinThroughput, preferredMaxLatency, requireParameters,
    dataCollection, zdr⟩

/-- `extract_preferences`: the body without its `provider` field, and what the
field says. -/
def extractPreferences [FloatArith F] (body : Value F) : Value F × ProviderPreferences F :=
  match body with
  | .object fields =>
    (.object (Fields.remove fields "provider"),
      match Fields.get fields "provider" with
      | none | some .null => {}
      | some raw => (readPreferences raw).getD {})
  | other => (other, {})

def parseSlugShortcut (model : String) : String × Option SortKey :=
  match RustText.stripSuffix ":nitro" model with
  | some rest => (rest, some .throughput)
  | none =>
    match RustText.stripSuffix ":floor" model with
    | some rest => (rest, some .price)
    | none => (model, none)

/-! ## Candidates -/

inductive ProviderStatus
  | active
  | disabled
  deriving DecidableEq, Repr

inductive ProviderWireFormat
  | openai
  | anthropic
  deriving DecidableEq, Repr

/-- `ProviderRow` without what only the HTTP request uses. -/
structure ProviderRow where
  providerId : ProviderId
  slug : String
  wireFormat : ProviderWireFormat
  authSecretRef : String
  status : ProviderStatus
  dataCollection : String
  zdr : Bool
  quantization : Option String
  deriving DecidableEq, Repr

/-- `ProviderModelRow`, its prices parsed. -/
structure ProviderModelRow (F : Type) where
  modelId : String
  promptPriceUsd : F
  completionPriceUsd : F
  requestPriceUsd : F
  contextLength : ℕ
  supportedFeatures : List String

/-- The fields of `HealthSnapshot` the router reads. -/
structure HealthSnapshot (F : Type) where
  ttftP50Ms : Option ℕ := none
  ttftP90Ms : Option ℕ := none
  ttftP99Ms : Option ℕ := none
  tpsP50 : Option F := none
  tpsP90 : Option F := none
  tpsP99 : Option F := none
  secondsSinceOutage : Option ℕ := none

def HealthSnapshot.recentlyUnstable (health : HealthSnapshot F) : Bool :=
  health.secondsSinceOutage.any fun seconds => seconds < 30

/-- `ProviderCandidate`; its effective prices are those of the model. -/
structure ProviderCandidate (F : Type) where
  provider : ProviderRow
  model : ProviderModelRow F
  health : HealthSnapshot F

inductive Candidate (F : Type)
  | localDistributed
  | centralizedProvider (candidate : ProviderCandidate F)

def Candidate.slug : Candidate F → String
  | localDistributed => "teale-distributed"
  | centralizedProvider candidate => candidate.provider.slug

section Ranking

variable [FloatArith F]

def Candidate.blendedPrice : Candidate F → F
  | localDistributed => div (add (ofNat 0) (ofNat 0))
      (ofNat 2)
  | centralizedProvider candidate => div
      (add candidate.model.promptPriceUsd candidate.model.completionPriceUsd)
      (ofNat 2)

def MaxPrice.admits (cap : MaxPrice F) (model : ProviderModelRow F) : Bool :=
  let million : F := ofNat 1000000
  (cap.prompt.all fun limit =>
    !lt limit (mul model.promptPriceUsd million)) &&
  (cap.completion.all fun limit =>
    !lt limit (mul model.completionPriceUsd million)) &&
  cap.request.all fun limit => !lt limit model.requestPriceUsd

def ProviderPreferences.admits (prefs : ProviderPreferences F) (requestContextTokens : ℕ)
    (requestFeatures : List String) (provider : ProviderRow) (model : ProviderModelRow F) : Bool :=
  provider.status = .active &&
  (prefs.only.all fun only => provider.slug ∈ only) &&
  !(prefs.ignore.getD []).contains provider.slug &&
  (prefs.quantizations.all fun allowed =>
    provider.quantization.any fun quantization => quantization ∈ allowed) &&
  (prefs.zdr.all fun zdr => !zdr || provider.zdr) &&
  (prefs.dataCollection.all fun wanted => wanted ≠ "deny" || provider.dataCollection = "deny") &&
  !(0 < requestContextTokens && model.contextLength < requestContextTokens) &&
  (!(prefs.requireParameters && !requestFeatures.isEmpty) ||
    requestFeatures.all fun feature => feature ∈ model.supportedFeatures) &&
  prefs.maxPrice.all fun cap => cap.admits model

def rankProviderCandidates
    (modelId : String) (requestContextTokens : ℕ) (requestFeatures : List String)
    (prefs : ProviderPreferences F) (health : ProviderId → String → HealthSnapshot F)
    (rows : List (ProviderRow × ProviderModelRow F)) : List (ProviderCandidate F) :=
  (rows.filter fun row =>
    prefs.admits requestContextTokens requestFeatures row.1 row.2).map fun row =>
      { provider := row.1
        model := row.2
        health := health row.1.providerId modelId }

def meetsMinThroughput (health : HealthSnapshot F) (pref : PercentilePref F) : Bool :=
  let check (actual target : Option F) : Bool :=
    target.all fun target => actual.any fun actual => le target actual
  check health.tpsP50 pref.p50 && check health.tpsP90 pref.p90 && check health.tpsP99 pref.p99

def meetsMaxLatency (health : HealthSnapshot F) (pref : PercentilePref F) : Bool :=
  let check (actual : Option ℕ) (target : Option F) : Bool :=
    target.all fun target => actual.any fun actual =>
      le (ofNat actual) (mul target (ofNat 1000))
  check health.ttftP50Ms pref.p50 && check health.ttftP90Ms pref.p90 &&
    check health.ttftP99Ms pref.p99

/-- A stable sort by a comparison; `before` says which pairs are in order. -/
def sortBy {α : Type} (before : α → α → Bool) (items : List α) : List α :=
  items.insertionSort fun left right => before left right = true

def meetingFirst {pref : Type} (meets : HealthSnapshot F → pref → Bool) (wanted : Option pref)
    (providers : List (ProviderCandidate F)) : List (ProviderCandidate F) :=
  match wanted with
  | none => providers
  | some target => sortBy (fun left right =>
    meets left.health target || !meets right.health target) providers

def orderPosition (order : List String) (slug : String) : ℕ :=
  (order.findIdx? fun listed => RustText.eqIgnoreAsciiCase listed slug).getD u64Max

def cheaper (left right : Candidate F) : Bool := !lt right.blendedPrice left.blendedPrice

def throughputOf : Candidate F → F
  | .centralizedProvider candidate => candidate.health.tpsP50.getD (ofNat 0)
  | .localDistributed => ofNat 0

def latencyOf : Candidate F → ℕ
  | .centralizedProvider candidate => candidate.health.ttftP50Ms.getD u64Max
  | .localDistributed => u64Max

def sortByKey (key : SortKey) (all : List (Candidate F)) : List (Candidate F) :=
  match key with
  | .price => sortBy cheaper all
  | .throughput => sortBy (fun left right =>
    !lt (throughputOf left) (throughputOf right)) all
  | .latency => sortBy (fun left right => latencyOf left ≤ latencyOf right) all

def Candidate.isStable : Candidate F → Bool
  | centralizedProvider candidate => !candidate.health.recentlyUnstable
  | localDistributed => true

def orderCandidates (providers : List (ProviderCandidate F)) (fleet : Bool)
    (prefs : ProviderPreferences F) : List (Candidate F) :=
  let providers := meetingFirst meetsMaxLatency prefs.preferredMaxLatency
    (meetingFirst meetsMinThroughput prefs.preferredMinThroughput providers)
  let all := providers.map Candidate.centralizedProvider ++
    if fleet then [.localDistributed] else []
  match prefs.order, prefs.sort with
  | some order, _ => sortBy (fun left right =>
    orderPosition order left.slug ≤ orderPosition order right.slug) all
  | none, some sort => sortByKey sort.key all
  | none, none =>
    sortBy cheaper (all.filter Candidate.isStable) ++
      all.filter fun candidate => !candidate.isStable

end Ranking

end Teale.Gateway
