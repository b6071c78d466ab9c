import Mathlib.Data.Nat.Log
import Mathlib.Data.List.Induction
import Mathlib.Tactic.Common

/-!
# Merkle trees with promoted odd nodes

A tree is built level by level, and a last node without a neighbour moves up unchanged. A value
that climbs to the root along any path is a leaf, as long as no pair hashed for the tree collides
with a pair hashed on the climb.
-/

namespace Merkle

open List Nat

universe u

variable {δ : Type u} (node : δ → δ → δ)

/-! ## Levels -/

/-- The level above: neighbours are hashed, an odd last node is promoted. -/
def levelUp : List δ → List δ
  | left :: right :: rest => node left right :: levelUp rest
  | level => level

theorem length_levelUp : ∀ level : List δ, (levelUp node level).length = (level.length + 1) / 2
  | [] => by simp [levelUp]
  | [_] => by simp [levelUp]
  | _ :: _ :: rest => by
    simp only [levelUp, length_cons, length_levelUp rest]
    omega

theorem getElem?_levelUp : ∀ (level : List δ) (index : ℕ), (levelUp node level)[index]? =
        match level[2 * index]?, level[2 * index + 1]? with
        | some left, some right => some (node left right)
        | some only, none => some only
        | none, _ => none
  | [], _ => by simp [levelUp]
  | [_], 0 => by simp [levelUp]
  | [_], index + 1 => by simp [levelUp, Nat.mul_add]
  | _ :: _ :: _, 0 => by simp [levelUp]
  | left :: right :: rest, index + 1 => by
    have below := getElem?_levelUp rest index
    simpa [levelUp, Nat.mul_add] using below

/-- Go up while a level has more than one node. The length of the level is
enough fuel. -/
def ascend : ℕ → List δ → List δ
  | 0, level => level
  | fuel + 1, level =>
    if 1 < level.length then ascend fuel (levelUp node level) else level

theorem length_ascend (enough : level.length ≤ fuel) (nonempty : level ≠ []) :
    (ascend node fuel level).length = 1 := by
  induction fuel generalizing level with
  | zero => exact absurd (length_eq_zero_iff.mp (le_zero.mp enough)) nonempty
  | succ fuel ih =>
    have positive := length_pos_iff.mpr nonempty
    have shorter := length_levelUp node level
    unfold ascend
    split
    · refine ih (by omega) ?_
      exact length_pos_iff.mp (by omega)
    · omega

/-! ## Paths -/

def sibling (index : ℕ) : ℕ := if index % 2 = 0 then index + 1 else index - 1

/-- The siblings of a node and of the nodes above it, each with whether the
node is on the right of it. -/
def pathFrom : ℕ → List δ → ℕ → List (δ × Bool)
  | 0, _, _ => []
  | fuel + 1, level, index =>
    if 1 < level.length then
      ((level[sibling index]?).map fun other => (other, index % 2 == 1)).toList ++
        pathFrom fuel (levelUp node level) (index / 2)
    else
      []

def hashStep (running : δ) (step : δ × Bool) : δ :=
  if step.2 then node step.1 running else node running step.1

def climb (leaf : δ) (path : List (δ × Bool)) : δ := path.foldl (hashStep node) leaf

theorem getElem?_levelUp_half (stored : level[index]? = some value) :
    (levelUp node level)[index / 2]? =
      some (climb node value ((level[sibling index]?).map fun other =>
          (other, index % 2 == 1)).toList) := by
  rw [getElem?_levelUp]
  rcases mod_two_eq_zero_or_one index with even | odd
  · have same : 2 * (index / 2) = index := by omega
    rw [same, stored, sibling, if_pos even]
    cases level[index + 1]? <;> simp [climb, hashStep, even]
  · have before : 2 * (index / 2) = index - 1 := by omega
    have same : index - 1 + 1 = index := by omega
    obtain ⟨left, found⟩ : ∃ left, level[index - 1]? = some left := by
      have inRange := (List.getElem?_eq_some_iff.mp stored).1
      exact ⟨_, getElem?_eq_getElem (by omega)⟩
    rw [before, same, stored, found, sibling, if_neg (by omega), found]
    simp [climb, hashStep, odd]

theorem climb_pathFrom (enough : level.length ≤ fuel) (stored : level[index]? = some value) :
    (ascend node fuel level).head? = some (climb node value (pathFrom node fuel level index)) := by
  induction fuel generalizing level index value with
  | zero =>
    have empty := length_eq_zero_iff.mp (le_zero.mp enough)
    simp [empty] at stored
  | succ fuel ih =>
    have inRange := (List.getElem?_eq_some_iff.mp stored).1
    have shorter := length_levelUp node level
    unfold ascend pathFrom
    split
    · have above := getElem?_levelUp_half node stored
      rw [ih (by omega) above, climb, climb, climb, foldl_append]
    · have first : index = 0 := by omega
      rw [first] at stored
      rw [head?_eq_getElem?, stored]
      rfl

theorem length_pathFrom (fuel : ℕ) (level : List δ) (index : ℕ) :
    (pathFrom node fuel level index).length ≤ Nat.clog 2 level.length := by
  induction fuel generalizing level index with
  | zero => exact Nat.zero_le _
  | succ fuel ih =>
    unfold pathFrom
    split
    · rename_i several
      have above := ih (levelUp node level) (index / 2)
      have halved : clog 2 level.length = clog 2 ((level.length + 1) / 2) + 1 :=
        clog_of_two_le Nat.one_lt_two several
      rw [length_levelUp] at above
      rw [length_append, halved]
      have atMostOne : ((level[sibling index]?).map fun other =>
          (other, index % 2 == 1)).toList.length ≤ 1 := by
        cases level[sibling index]? <;> simp
      omega
    · exact Nat.zero_le _

/-! ## What a path proves -/

def neighbours : List δ → List (δ × δ)
  | left :: right :: rest => (left, right) :: neighbours rest
  | _ => []

/-- The pairs hashed while going up, as `ascend` does. -/
def hashedPairs : ℕ → List δ → List (δ × δ)
  | 0, _ => []
  | fuel + 1, level =>
    if 1 < level.length then
      neighbours level ++ hashedPairs fuel (levelUp node level)
    else
      []

def stepPair (running : δ) (step : δ × Bool) : δ × δ :=
  if step.2 then (step.1, running) else (running, step.1)

def climbPairs (leaf : δ) : List (δ × Bool) → List (δ × δ)
  | [] => []
  | step :: path => stepPair leaf step :: climbPairs (hashStep node leaf step) path

theorem hashStep_eq (running : δ) (step : δ × Bool) : hashStep node running step =
      node (stepPair running step).1 (stepPair running step).2 := by
  unfold hashStep stepPair
  split <;> rfl

theorem climbPairs_append_singleton (leaf : δ) (path : List (δ × Bool)) (step : δ × Bool) :
    climbPairs node leaf (path ++ [step]) =
      climbPairs node leaf path ++ [stepPair (climb node leaf path) step] := by
  induction path generalizing leaf with
  | nil => rfl
  | cons head tail ih =>
    simp only [cons_append, climbPairs, ih]
    rfl

/-- A value of a tree over the leaves in which the given pairs are hashed. -/
inductive Built (leaves : List δ) (hashed : List (δ × δ)) : δ → Prop
  | leaf {value : δ} (member : value ∈ leaves) : Built leaves hashed value
  | node {left right : δ} (member : (left, right) ∈ hashed) (builtLeft : Built leaves hashed left)
      (builtRight : Built leaves hashed right) :
      Built leaves hashed (node left right)

variable {node} {hashed : List (δ × δ)} {leaves : List δ}

theorem built_levelUp : ∀ {level : List δ}, (∀ value ∈ level, Built node leaves hashed value) →
      neighbours level ⊆ hashed → ∀ value ∈ levelUp node level, Built node leaves hashed value
  | [], _, _ => by simp [levelUp]
  | [_], built, _ => by simpa [levelUp] using built
  | left :: right :: rest, built, contained => by
    intro value member
    simp only [levelUp, mem_cons] at member
    rcases member with rfl | inRest
    · refine .node (contained ?_) (built left ?_) (built right ?_) <;> simp [neighbours]
    · refine built_levelUp (fun other inLevel => built other ?_)
        (fun pair inPairs => contained ?_) value inRest
      · exact mem_cons_of_mem _ (mem_cons_of_mem _ inLevel)
      · exact mem_cons_of_mem _ inPairs

theorem built_ascend (built : ∀ value ∈ level, Built node leaves hashed value)
    (contained : hashedPairs node fuel level ⊆ hashed) :
    ∀ value ∈ ascend node fuel level, Built node leaves hashed value := by
  induction fuel generalizing level with
  | zero => exact built
  | succ fuel ih =>
    unfold ascend
    unfold hashedPairs at contained
    split
    · rename_i several
      rw [if_pos several] at contained
      exact ih (built_levelUp built fun _ member => contained (mem_append_left _ member))
        fun _ member => contained (mem_append_right _ member)
    · exact built

/-- A value that climbs to a value of the tree is a leaf: at every step, from
the last one down, the pair hashed on the climb must be the pair hashed in the
tree. -/
theorem mem_leaves_of_built_climb {leaf : δ}
    {path : List (δ × Bool)} (built : Built node leaves hashed (climb node leaf path))
    (collisionFree : ∀ pair ∈ hashed, ∀ other ∈ climbPairs node leaf path,
      node pair.1 pair.2 = node other.1 other.2 → pair = other)
    (leafIsNoPair : ∀ pair ∈ hashed, leaf ≠ node pair.1 pair.2)
    (leavesAreNoPairs : ∀ value ∈ leaves, ∀ other ∈ climbPairs node leaf path,
      value ≠ node other.1 other.2) : leaf ∈ leaves := by
  induction path using reverseRecOn with
  | nil =>
    generalize reached : climb node leaf [] = value at built
    obtain rfl : leaf = value := reached
    cases built with
    | leaf member => exact member
    | node member _ _ => exact absurd rfl (leafIsNoPair _ member)
  | append_singleton path step ih =>
    rw [climbPairs_append_singleton] at collisionFree leavesAreNoPairs
    have last : stepPair (climb node leaf path) step ∈ climbPairs node leaf path ++
          [stepPair (climb node leaf path) step] :=
      mem_append_right _ (mem_singleton_self _)
    have reached : climb node leaf (path ++ [step]) = node (stepPair (climb node leaf path) step).1
          (stepPair (climb node leaf path) step).2 := by
      rw [climb, foldl_append]
      exact hashStep_eq node _ step
    have before : Built node leaves hashed (climb node leaf path) := by
      rw [reached] at built
      generalize hashedLast : node (stepPair (climb node leaf path) step).1
        (stepPair (climb node leaf path) step).2 = value at built
      cases built with
      | leaf member => exact absurd hashedLast.symm (leavesAreNoPairs _ member _ last)
      | node member builtLeft builtRight =>
        have same := collisionFree _ member _ last hashedLast.symm
        unfold stepPair at same
        split at same <;> cases same
        · exact builtRight
        · exact builtLeft
    refine ih before ?_ ?_
    · exact fun pair member other inPath =>
        collisionFree pair member other (mem_append_left _ inPath)
    · exact fun value member other inPath =>
        leavesAreNoPairs value member other (mem_append_left _ inPath)

end Merkle
