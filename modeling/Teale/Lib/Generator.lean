import Mathlib.Data.List.Infix

/-!
# Generators that can be dropped

A generator only runs while its reader asks for the next item: what runs is a part of its steps
that ends in a yield, or all of them.
-/

namespace Generator

open List

universe u v

inductive Step (ι : Type u) (ε : Type v)
  | yield (item : ι)
  | act (effect : ε)

/-- A reader drops the generator at its `n`-th item, or reads to the end. -/
inductive Reader
  | dropsAt (items : ℕ)
  | toEnd
  deriving DecidableEq, Repr

variable {ι : Type u} {ε : Type v} (first second : List (Step ι ε))

/-- The steps that run before the `n`-th item has been handed over. -/
def upTo : ℕ → List (Step ι ε) → List (Step ι ε)
  | 0, _ => []
  | _ + 1, [] => []
  | items + 1, .act effect :: rest => .act effect :: upTo (items + 1) rest
  | items + 1, .yield item :: rest => .yield item :: upTo items rest

def executed (steps : List (Step ι ε)) : Reader → List (Step ι ε)
  | .dropsAt items => upTo items steps
  | .toEnd => steps

def effects (steps : List (Step ι ε)) : List ε := steps.filterMap fun step =>
    match step with
    | .act effect => some effect
    | .yield _ => none

def items (steps : List (Step ι ε)) : List ι := steps.filterMap fun step =>
    match step with
    | .act _ => none
    | .yield item => some item

@[simp] theorem effects_nil : effects ([] : List (Step ι ε)) = [] := rfl

@[simp] theorem effects_append : effects (first ++ second) = effects first ++ effects second :=
  filterMap_append

@[simp] theorem effects_act (effect : ε) (rest : List (Step ι ε)) :
    effects (.act effect :: rest) = effect :: effects rest := rfl

@[simp] theorem effects_yield (item : ι) (rest : List (Step ι ε)) :
    effects (.yield item :: rest) = effects rest := rfl

@[simp] theorem effects_map_yield (handed : List ι) :
    effects (handed.map (Step.yield (ε := ε))) = [] := by
  induction handed with
  | nil => rfl
  | cons head tail ih => exact ih

@[simp] theorem effects_map_act (done : List ε) :
    effects (done.map (Step.act (ι := ι))) = done := by
  induction done with
  | nil => rfl
  | cons head tail ih =>
    rw [map_cons, effects_act, ih]

@[simp] theorem items_nil : items ([] : List (Step ι ε)) = [] := rfl

@[simp] theorem items_append : items (first ++ second) = items first ++ items second :=
  filterMap_append

@[simp] theorem items_act (effect : ε) (rest : List (Step ι ε)) :
    items (.act effect :: rest) = items rest := rfl

@[simp] theorem items_yield (item : ι) (rest : List (Step ι ε)) :
    items (.yield item :: rest) = item :: items rest := rfl

@[simp] theorem items_map_yield (handed : List ι) :
    items (handed.map (Step.yield (ε := ε))) = handed := by
  induction handed with
  | nil => rfl
  | cons head tail ih =>
    rw [map_cons, items_yield, ih]

@[simp] theorem items_map_act (done : List ε) : items (done.map (Step.act (ι := ι))) = [] := by
  induction done with
  | nil => rfl
  | cons head tail ih => exact ih

end Generator
