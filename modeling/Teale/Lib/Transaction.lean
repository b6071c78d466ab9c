import Mathlib.Data.List.Basic
import Mathlib.Tactic.Common

/-!
# Transactions and runs

A transaction returns the state it commits or fails: the inversion lemmas that take it apart, and
the rules that lift a fact about one step to every run.
-/

namespace Transactional

open List

universe u v w

section Inversion

variable {ε : Type u} {α β : Type v} {first : Except ε α} {next : α → Except ε β}

def failIf (condition : Prop) [Decidable condition] (failure : ε) : Except ε PUnit :=
  if condition then .error failure else .ok ⟨⟩

theorem failIf_eq_ok {condition : Prop} [Decidable condition] {failure : ε} {result : PUnit} :
    failIf condition failure = .ok result ↔ ¬ condition := by
  unfold failIf
  split <;> simp_all

theorem bind_eq_ok {result : β} :
    (first >>= next) = .ok result ↔ ∃ value, first = .ok value ∧ next value = .ok result := by
  cases first <;> simp [bind, Except.bind]

theorem bind_returns
    (begins : ∃ value, first = .ok value) (continues : ∀ value, ∃ result, next value = .ok result) :
    ∃ result, (first >>= next) = .ok result := by
  obtain ⟨value, ran⟩ := begins
  obtain ⟨result, finished⟩ := continues value
  exact ⟨result, bind_eq_ok.mpr ⟨value, ran, finished⟩⟩

theorem pure_eq_ok {value result : α} :
    (pure value : Except ε α) = .ok result ↔ value = result := by
  simp [pure, Except.pure]

theorem map_eq_ok {γ : Type v} {next : α → γ} {result : γ} :
    (next <$> first) = .ok result ↔ ∃ value, first = .ok value ∧ next value = result := by
  cases first <;> simp [Functor.map, Except.map]

theorem map_eq_error {γ : Type v} {next : α → γ} {failure : ε} :
    (next <$> first) = .error failure ↔ first = .error failure := by
  cases first <;> simp [Functor.map, Except.map]

theorem of_map_eq_ok {γ : Type v} {next : α → γ} {result : γ}
    {motive : γ → Prop} (ran : (next <$> first) = .ok result)
    (after : ∀ {value}, first = .ok value → motive (next value)) : motive result := by
  obtain ⟨value, called, rfl⟩ := map_eq_ok.mp ran
  exact after called

def getOr (option : Option α) (failure : ε) : Except ε α :=
  match option with
  | some value => .ok value
  | none => .error failure

theorem getOr_eq_ok {option : Option α} {failure : ε} {value : α} :
    getOr option failure = .ok value ↔ option = some value := by
  cases option <;> simp [getOr]

theorem mapError_eq_ok {δ : Type w} {computation : Except ε α} {translate : ε → δ} {value : α} :
    computation.mapError translate = .ok value ↔ computation = .ok value := by
  cases computation <;> simp [Except.mapError]

/-- The inversion rules, as one set for `simp only`. -/
theorem ok_iff :
    (∀ {ε α β : Type} {first : Except ε α} {next : α → Except ε β} {result : β},
      (first >>= next) = .ok result ↔ ∃ value, first = .ok value ∧ next value = .ok result) ∧
    (∀ {ε α : Type} {value result : α}, (pure value : Except ε α) = .ok result ↔ value = result) ∧
    (∀ {ε : Type} {condition : Prop} [Decidable condition] {failure : ε} {result : PUnit.{1}},
      failIf condition failure = .ok result ↔ ¬ condition) ∧
    (∀ {ε α : Type} {option : Option α} {failure : ε} {value : α},
      getOr option failure = .ok value ↔ option = some value) ∧
    ∀ {claim : Prop}, (∃ _ : PUnit.{1}, claim) ↔ claim :=
  ⟨bind_eq_ok, pure_eq_ok, failIf_eq_ok, getOr_eq_ok, exists_const _⟩

end Inversion

/-! ## Loops -/

section Loops

variable {σ : Type u} {ι : Type v} {ε : Type w} {start finish : σ} {items : List ι}

/-- Peel the first round off a fallible loop. -/
theorem foldlM_cons_eq_ok {ε : Type u} {body : σ → ι → Except ε σ} {head : ι} {tail : List ι}
    : (head :: tail).foldlM body start = .ok finish ↔
      ∃ middle, body start head = .ok middle ∧ tail.foldlM body middle = .ok finish := by
  rw [foldlM_cons, bind_eq_ok]

theorem foldlM_preserves {ε : Type u} {body : σ → ι → Except ε σ} (property : σ → Prop)
    (round : ∀ state item state', item ∈ items → property state →
      body state item = .ok state' → property state') (initially : property start)
    (ran : items.foldlM body start = .ok finish) : property finish := by
  induction items generalizing start with
  | nil =>
    rw [foldlM_nil, pure_eq_ok] at ran
    exact ran ▸ initially
  | cons head tail ih =>
    obtain ⟨middle, first, rest⟩ := foldlM_cons_eq_ok.mp ran
    refine ih ?_ ?_ rest
    · intro state item state' member
      exact round state item state' (mem_cons_of_mem head member)
    · exact round start head middle mem_cons_self initially first

/-- A loop over distinct keys whose rounds each see and change the view of
their own key only: what the rounds make good, and what is good from the start,
is good in the end. -/
theorem foldlM_local {ε : Type u} {κ : Type*} {ν : Type*} {body : σ → ι → Except ε σ}
    (key : ι → κ) (view : σ → κ → ν) (good : κ → ν → Prop)
    (elsewhere : ∀ state item state' other, item ∈ items →
      body state item = .ok state' → other ≠ key item →
      view state' other = view state other)
    (here : ∀ state item state', item ∈ items → view state (key item) = view start (key item) →
      body state item = .ok state' → good (key item) (view state' (key item)))
    (others : ∀ other, other ∉ items.map key → good other (view start other))
    (nodup : (items.map key).Nodup) (ran : items.foldlM body start = .ok finish) (other : κ) :
    good other (view finish other) := by
  induction items generalizing start with
  | nil =>
    rw [foldlM_nil, pure_eq_ok] at ran
    exact ran ▸ others other not_mem_nil
  | cons head tail ih =>
    obtain ⟨middle, first, rest⟩ := foldlM_cons_eq_ok.mp ran
    obtain ⟨headFresh, tailNodup⟩ := nodup_cons.mp nodup
    have untouched : ∀ other, other ≠ key head → view middle other = view start other :=
      fun other => elsewhere start head middle other mem_cons_self first
    refine ih (fun state item state' other member =>
      elsewhere state item state' other (mem_cons_of_mem head member)) ?_ ?_ tailNodup rest
    · intro state item state' member same round
      refine here state item state' (mem_cons_of_mem head member) ?_ round
      rw [same, untouched]
      exact fun equal => headFresh (equal ▸ mem_map_of_mem member)
    · intro other absent
      by_cases isHead : other = key head
      · subst isHead
        exact here start head middle mem_cons_self rfl first
      · rw [untouched other isHead]
        exact others other (not_mem_cons_of_ne_of_not_mem isHead absent)

theorem foldl_preserves (property : σ → Prop)
    (round : ∀ state item, item ∈ items → property state → property (body state item))
    (initially : property start) : property (items.foldl body start) := by
  induction items generalizing start with
  | nil => exact initially
  | cons head tail ih =>
    refine ih ?_ (round start head mem_cons_self initially)
    intro state item member
    exact round state item (mem_cons_of_mem head member)

end Loops

/-! ## Runs -/

section Runs

variable {σ : Type u} {ι : Type v} {ε : Type w} {execute : σ → ι → Except ε σ}
  {allowed : σ → ι → Prop} {step : σ → ι → σ}

def commit (execute : σ → ι → Except ε σ) (state : σ) (call : ι) : σ :=
  match execute state call with
  | .ok state' => state'
  | .error _ => state

theorem commit_of_ok (ran : execute state call = .ok state') :
    commit execute state call = state' := by
  simp [commit, ran]

theorem commit_of_error {failure : ε} (failed : execute state call = .error failure) :
    commit execute state call = state := by
  simp [commit, failed]

@[elab_as_elim]
theorem commit_cases {motive : σ → Prop} {state : σ} {call : ι} (failed : motive state)
    (succeeded : ∀ state', execute state call = .ok state' → motive state') :
    motive (commit execute state call) := by
  cases ran : execute state call with
  | ok state' =>
    rw [commit_of_ok ran]
    exact succeeded state' ran
  | error failure =>
    rw [commit_of_error ran]
    exact failed

def run (step : σ → ι → σ) (start : σ) (calls : List ι) : σ := calls.foldl step start

@[simp] theorem run_nil (step : σ → ι → σ) (start : σ) : run step start [] = start := rfl

@[simp] theorem run_cons (step : σ → ι → σ) (start : σ) (call : ι) (calls : List ι) :
    run step start (call :: calls) = run step (step start call) calls := rfl

theorem run_append (step : σ → ι → σ) (start : σ) (first second : List ι) :
    run step start (first ++ second) = run step (run step start first) second :=
  foldl_append

/-- Every call of the run meets a condition on the state it is made in. -/
def Admissible (allowed : σ → ι → Prop) (step : σ → ι → σ) : σ → List ι → Prop
  | _, [] => True
  | state, call :: calls => allowed state call ∧ Admissible allowed step (step state call) calls

theorem admissible_append : Admissible allowed step start (first ++ second) ↔
      Admissible allowed step start first ∧
        Admissible allowed step (run step start first) second := by
  induction first generalizing start with
  | nil => simp [Admissible]
  | cons head tail ih => simp only [cons_append, Admissible, ih, run_cons, and_assoc]

theorem admissible_of_forall (each : ∀ call ∈ calls, ∀ state, allowed state call) :
    Admissible allowed step start calls := by
  induction calls generalizing start with
  | nil => trivial
  | cons head tail ih =>
    refine ⟨each head mem_cons_self start, ih ?_⟩
    exact (forall_mem_cons.mp each).2

/-- Two conditions that agree wherever an invariant holds admit the same runs. -/
theorem admissible_congr {allowed' : σ → ι → Prop} (invariant : σ → Prop)
    (agree : ∀ state call, invariant state → (allowed state call ↔ allowed' state call) ∧
      (allowed' state call → invariant (step state call)))
    (initially : invariant start) (calls : List ι) :
    Admissible allowed step start calls ↔ Admissible allowed' step start calls := by
  induction calls generalizing start with
  | nil => rfl
  | cons call calls ih =>
    obtain ⟨same, kept⟩ := agree start call initially
    rw [Admissible, Admissible, same]
    exact and_congr_right fun isAllowed => ih (kept isAllowed)

theorem run_invariant (invariant : σ → Prop)
    (preserved : ∀ state call, allowed state call → invariant state → invariant (step state call))
    (initially : invariant start) (admissible : Admissible allowed step start calls) :
    invariant (run step start calls) := by
  induction calls generalizing start with
  | nil => exact initially
  | cons head tail ih => exact ih (preserved start head admissible.1 initially) admissible.2

theorem run_commit_invariant (invariant : σ → Prop)
    (preserved : ∀ state call state', allowed state call → invariant state →
      execute state call = .ok state' → invariant state')
    (initially : invariant start) (admissible : Admissible allowed (commit execute) start calls) :
    invariant (run (commit execute) start calls) := by
  refine run_invariant invariant ?_ initially admissible
  intro state call isAllowed holds
  refine commit_cases holds fun state' ran => ?_
  exact preserved state call state' isAllowed holds ran

end Runs

end Transactional
