import Teale.Lib.Transaction

/-!
# Swapping models

A node serves one model at a time. A swap shuts the process of the old model down before it starts
the new one.
-/

namespace Teale.Node

open Transactional

inductive Backend
  | http (process : ℕ) (model : String)
  | liteRt (model : String)
  | unavailable
  deriving DecidableEq

/-- `stopped` are the processes that were shut down, `spawned` is the number of the next one. A
proxy is ready when it is stored, and stays so. -/
structure SwapManager where
  backend : Backend
  supervisor : Option ℕ
  modelId : String
  whitelist : List String
  stopped : List ℕ := []
  spawned : ℕ := 1

/-- Whether the file is there, the requests in flight at the deadline, and why the new process did
not become healthy. -/
structure SwapOutcome where
  fileExists : Bool := true
  inFlight : Option ℕ := none
  unhealthy : Option String := none

inductive SwapCall
  | swap (model : String) (outcome : SwapOutcome)
  | loadLocalModel (model : String) (outcome : SwapOutcome)
  | unloadCurrent

namespace SwapManager

/-- What `start_backend` returns. With `--no-backend` the process has no supervisor. -/
def new (backend : Backend) (noBackend : Bool) (whitelist : List String) : SwapManager :=
  match backend with
  | .http _ model => ⟨.http 0 model, if noBackend then none else some 0, model, whitelist, [], 1⟩
  | .liteRt model => ⟨.liteRt model, none, model, whitelist, [], 1⟩
  | .unavailable => ⟨.unavailable, none, "", whitelist, [], 1⟩

def loadedModels (manager : SwapManager) : List String :=
  match manager.backend with
  | .http _ model | .liteRt model => [model]
  | .unavailable => []

def shutdown (manager : SwapManager) : SwapManager :=
  { manager with supervisor := none, stopped := manager.supervisor.toList ++ manager.stopped }

def swapToPath (manager : SwapManager) (model : String) (outcome : SwapOutcome) :
    SwapManager × Except String Unit :=
  if manager.modelId = model then (manager, .ok ())
  else
    match outcome.inFlight, outcome.unhealthy with
    | some inFlight, _ => (manager, .error s!"drain deadline exceeded ({inFlight} in flight)")
    | none, some failure =>
      ({ manager.shutdown with
          stopped := manager.spawned :: manager.shutdown.stopped
          spawned := manager.spawned + 1 },
        .error s!"new backend health check failed: {failure}")
    | none, none =>
      ({ manager.shutdown with
          backend := .http manager.spawned model
          supervisor := some manager.spawned
          modelId := model
          spawned := manager.spawned + 1 }, .ok ())

def loadLocalModel (manager : SwapManager) (model : String) (outcome : SwapOutcome) :
    SwapManager × Except String Unit :=
  if outcome.fileExists then manager.swapToPath model outcome
  else (manager, .error "gguf_missing: configured GGUF path does not exist on disk")

def call (manager : SwapManager) : SwapCall → SwapManager × Except String Unit
  | .swap model outcome =>
    if model ∈ manager.whitelist then manager.loadLocalModel model outcome
    else (manager, .error "not_swappable: model not in config.swappable_models")
  | .loadLocalModel model outcome => manager.loadLocalModel model outcome
  | .unloadCurrent => ({ manager.shutdown with backend := .unavailable, modelId := "" }, .ok ())

def step (manager : SwapManager) (call : SwapCall) : SwapManager := (manager.call call).1

/-- A backend for the model is in place that has not been shut down. -/
def Serves (manager : SwapManager) (model : String) : Prop :=
  match manager.backend with
  | .http process served => served = model ∧ process ∉ manager.stopped
  | .liteRt served => served = model
  | .unavailable => False

/-- If the call reports that it has loaded its model, the model is served, and so is what is
advertised after the call. -/
def Truthful (manager : SwapManager) (call : SwapCall) : Prop :=
  (match call with
    | .swap model _ | .loadLocalModel model _ =>
      (manager.call call).2 = .ok () → (manager.step call).Serves model
    | .unloadCurrent => True) ∧
  ∀ model ∈ (manager.step call).loadedModels, (manager.step call).Serves model

/-- The empty name is that of no model. A swap that fails has stopped the old process. -/
def Risky (manager : SwapManager) (model : String) (outcome : SwapOutcome) : Prop :=
  outcome.fileExists ∧
    (manager.modelId = model ∧ manager.backend = .unavailable ∨
      manager.modelId ≠ model ∧ outcome.inFlight = none ∧ outcome.unhealthy ≠ none ∧
        manager.supervisor ≠ none)

def Safe (manager : SwapManager) : SwapCall → Prop
  | .swap model outcome => model ∈ manager.whitelist → ¬manager.Risky model outcome
  | .loadLocalModel model outcome => ¬manager.Risky model outcome
  | .unloadCurrent => True

def Sound (manager : SwapManager) : Prop :=
  (∀ process ∈ manager.stopped, process < manager.spawned) ∧
    match manager.backend with
    | .http process model => process < manager.spawned ∧ process ∉ manager.stopped ∧
      manager.modelId = model ∧ ∀ other, manager.supervisor = some other → other = process
    | .liteRt model => manager.modelId = model ∧ manager.supervisor = none
    | .unavailable => manager.modelId = "" ∧ manager.supervisor = none

variable {manager : SwapManager}

theorem Sound.serves (sound : manager.Sound) :
    ∀ model ∈ manager.loadedModels, manager.Serves model := by
  obtain ⟨-, serving⟩ := sound
  unfold loadedModels Serves
  split at serving <;> simp_all

theorem truthful_load (sound : manager.Sound) (model : String) (outcome : SwapOutcome) :
    (manager.Truthful (.loadLocalModel model outcome) ↔ ¬manager.Risky model outcome) ∧
      (¬manager.Risky model outcome → (manager.loadLocalModel model outcome).1.Sound) := by
  have serves := sound.serves
  simp only [Truthful, step, call, loadLocalModel, swapToPath, Risky]
  by_cases isThere : outcome.fileExists
  case neg => simpa [isThere, sound] using serves
  by_cases same : manager.modelId = model
  · have ⟨_, serving⟩ := sound
    simp only [isThere, same, if_true, sound]
    split at serving <;> simp_all [Serves, loadedModels]
  cases deadline : outcome.inFlight with
  | some => simpa [isThere, same, sound] using serves
  | none =>
    obtain ⟨backend, supervisor, modelId, whitelist, stopped, spawned⟩ := manager
    obtain ⟨bounded, serving⟩ := sound
    cases health : outcome.unhealthy <;> cases backend <;> cases supervisor <;>
      simp_all [loadedModels, Serves, Sound, shutdown] <;> grind

theorem truthful_iff (sound : manager.Sound) (call : SwapCall) :
    (manager.Truthful call ↔ manager.Safe call) ∧
      (manager.Safe call → (manager.step call).Sound) := by
  have loads := truthful_load sound
  cases call with
  | loadLocalModel model outcome => exact loads model outcome
  | swap model outcome =>
    by_cases listed : model ∈ manager.whitelist
    · simpa [Truthful, Safe, step, call, listed] using loads model outcome
    · simp only [Truthful, Safe, step, call, listed]
      simpa [sound] using sound.serves
  | unloadCurrent =>
    obtain ⟨bounded, serving⟩ := sound
    simp only [Truthful, Safe, step, call, Sound, loadedModels, shutdown]
    split at serving <;> simp_all
    grind

/-- Every call of a run is truthful just if no call is made that risks it. -/
theorem swaps_truthful_iff (backend : Backend) (noBackend : Bool) (whitelist : List String)
    (calls : List SwapCall) :
    Admissible Truthful step (new backend noBackend whitelist) calls ↔
      Admissible Safe step (new backend noBackend whitelist) calls := by
  refine admissible_congr Sound (fun _ call sound => truthful_iff sound call) ?_ calls
  cases backend <;> simp [new, Sound]

/-- The swap to `b` fails. -/
def failedSwap : SwapManager :=
  (new (.http 0 "a") false []).step (.loadLocalModel "b" ⟨true, none, some "timed out"⟩)

/-- The process of `a` was shut down. Asked for again, `a` is reported as loaded. -/
theorem failedSwap_not_truthful :
    failedSwap.loadedModels = ["a"] ∧
      (failedSwap.call (.loadLocalModel "a" ⟨true, none, none⟩)).2 = .ok () ∧
      ¬failedSwap.Serves "a" := by
  refine ⟨by decide, by decide, ?_⟩
  rintro ⟨-, live⟩
  exact absurd live (by decide)

end SwapManager

end Teale.Node
