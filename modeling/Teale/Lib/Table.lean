import Mathlib.Algebra.Order.BigOperators.Group.List
import Mathlib.Algebra.Order.Group.Int
import Mathlib.Data.Finsupp.Basic
import Mathlib.Data.List.Nodup
import Mathlib.Data.List.Sort
import Mathlib.Tactic.Abel

/-!
# Keyed tables and append-only logs

A table with a primary key is the list of its rows in insertion order, in which no key occurs
twice. A column is summed with a weight into any commutative monoid. A log is a table that hands
out its own keys.
-/

namespace Relational

open List Function

universe u v w

structure Table (κ : Type u) (α : Type v) where
  rows : List (κ × α)
  keysNodup : (rows.map Prod.fst).Nodup

namespace Table

variable {κ : Type u} {α : Type v}

def empty : Table κ α := ⟨[], nodup_nil⟩

instance : EmptyCollection (Table κ α) := ⟨empty⟩

instance : Inhabited (Table κ α) := ⟨empty⟩

@[simp] theorem rows_empty : (∅ : Table κ α).rows = [] := rfl

@[ext] theorem ext {left right : Table κ α} (sameRows : left.rows = right.rows) : left = right := by
  cases left
  cases right
  simp_all

section Statements

variable [DecidableEq κ] {key : κ} {row : α} {change : α → α} {other : κ}

def find? (table : Table κ α) (key : κ) : Option α :=
  (table.rows.find? fun row => row.1 = key).map Prod.snd

/-- Rewrite every row in place; a row outside the condition of an update is
rewritten to itself. -/
def update (table : Table κ α) (change : κ → α → α) : Table κ α where
  rows := table.rows.map fun row => (row.1, change row.1 row.2)
  keysNodup := by simpa [map_map, Function.comp_def] using table.keysNodup

def modify (table : Table κ α) (key : κ) (change : α → α) : Table κ α :=
  table.update fun other row => if other = key then change row else row

def deleteWhere (table : Table κ α) (condition : κ → α → Bool) : Table κ α where
  rows := table.rows.filter fun row => !condition row.1 row.2
  keysNodup := table.keysNodup.sublist (filter_sublist.map Prod.fst)

theorem mem_rows_iff_find? {table : Table κ α} {key : κ} {row : α} :
    (key, row) ∈ table.rows ↔ table.find? key = some row := by
  obtain ⟨rows, keysNodup⟩ := table
  simp only [find?]
  induction rows with
  | nil => simp
  | cons head tail ih =>
    obtain ⟨headFresh, tailNodup⟩ := nodup_cons.mp keysNodup
    by_cases headKey : head.1 = key
    · have absent : (key, row) ∉ tail := by
        intro member
        exact headFresh (headKey ▸ mem_map_of_mem member)
      subst headKey
      simp [absent, Prod.ext_iff, eq_comm]
    · have differs : (key, row) ≠ head := by
        rintro rfl
        exact headKey rfl
      simp [headKey, differs, ih tailNodup]

theorem find?_eq_none_iff (table : Table κ α) (key : κ) :
    table.find? key = none ↔ key ∉ table.rows.map Prod.fst := by
  simp only [find?, Option.map_eq_none_iff, find?_eq_none,
    decide_eq_true_eq, mem_map, not_exists, not_and]

/-- Append a row under a fresh key; an existing row stays as it is. -/
def insertOrIgnore (table : Table κ α) (key : κ) (row : α) : Table κ α :=
  if fresh : table.find? key = none then
    { rows := table.rows ++ [(key, row)]
      keysNodup := by
        rw [map_append, nodup_append]
        refine ⟨table.keysNodup, nodup_singleton _, ?_⟩
        rintro other member _ (singleton : _ ∈ [key]) rfl
        rw [mem_singleton] at singleton
        subst singleton
        exact (table.find?_eq_none_iff other).mp fresh member }
  else
    table

@[simp] theorem find?_empty (key : κ) : (∅ : Table κ α).find? key = none := rfl

section

variable (table : Table κ α)

include table

@[simp] theorem find?_update (change : κ → α → α) (key : κ) :
    (table.update change).find? key = (table.find? key).map (change key) := by
  obtain ⟨rows, keysNodup⟩ := table
  simp only [find?, update]
  clear keysNodup
  induction rows with
  | nil => rfl
  | cons head tail ih =>
    by_cases headKey : head.1 = key
    · simp [headKey]
    · simpa [headKey] using ih

theorem find?_modify (key other : κ) (change : α → α) : (table.modify key change).find? other =
      if other = key then (table.find? other).map change
      else table.find? other := by
  rw [modify, find?_update]
  by_cases same : other = key <;> simp [same]

@[simp] theorem find?_modify_self (key : κ) (change : α → α) :
    (table.modify key change).find? key = (table.find? key).map change := by
  simp [find?_modify]

theorem find?_modify_of_ne (change : α → α)
    (different : other ≠ key) : (table.modify key change).find? other = table.find? other := by
  simp [find?_modify, different]

theorem modify_modify (key : κ) (change next : α → α) :
    (table.modify key change).modify key next = table.modify key (next ∘ change) := by
  ext1
  simp only [modify, update, map_map]
  refine map_congr_left fun row _ => ?_
  simp only [comp_apply]
  split <;> rfl

theorem modify_eq_self {key : κ} {change : α → α}
    (fixed : ∀ row, table.find? key = some row → change row = row) :
    table.modify key change = table := by
  ext1
  refine (map_congr_left fun entry listed => ?_).trans (map_id _)
  by_cases same : entry.1 = key
  · subst same
    simp [fixed entry.2 (mem_rows_iff_find?.mp listed)]
  · simp [same]

@[simp] theorem isSome_find?_modify (key other : κ) (change : α → α) :
    ((table.modify key change).find? other).isSome = (table.find? other).isSome := by
  rw [find?_modify]
  split <;> simp

theorem rows_insertOrIgnore_of_fresh (row : α) (fresh : table.find? key = none) :
    (table.insertOrIgnore key row).rows = table.rows ++ [(key, row)] := by
  simp [insertOrIgnore, fresh]

theorem insertOrIgnore_of_present {present : α} (row : α)
    (found : table.find? key = some present) : table.insertOrIgnore key row = table := by
  simp [insertOrIgnore, found]

theorem find?_insertOrIgnore (key other : κ) (row : α) :
    (table.insertOrIgnore key row).find? other =
      if other = key then some ((table.find? key).getD row)
      else table.find? other := by
  cases found : table.find? key with
  | some present =>
    rw [insertOrIgnore_of_present table row found]
    split
    case isTrue same => simp [same, found]
    case isFalse => rfl
  | none =>
    simp only [find?, rows_insertOrIgnore_of_fresh table row found, find?_append]
    by_cases same : other = key
    · subst same
      simp only [find?, Option.map_eq_none_iff] at found
      simp [found]
    · have : key ≠ other := fun equal => same equal.symm
      simp [same, this]

@[simp] theorem find?_insertOrIgnore_self (key : κ) (row : α) :
    (table.insertOrIgnore key row).find? key = some ((table.find? key).getD row) := by
  simp [find?_insertOrIgnore]

theorem find?_deleteWhere (condition : κ → α → Bool) (key : κ) :
    (table.deleteWhere condition).find? key =
      (table.find? key).filter fun row => !condition key row := by
  apply Option.ext
  intro row
  rw [Option.filter_eq_some_iff, ← mem_rows_iff_find?, ← mem_rows_iff_find?]
  simp [deleteWhere]

end

def upsert (table : Table κ α) (key : κ) (row : α) : Table κ α :=
  (table.insertOrIgnore key row).modify key fun _ => row

theorem find?_upsert (table : Table κ α) (key other : κ) (row : α) :
    (table.upsert key row).find? other =
      if other = key then some row else table.find? other := by
  rw [upsert, find?_modify, find?_insertOrIgnore]
  split <;> rfl

/-! ## Where a row comes from -/

theorem find?_modify_eq_some {table : Table κ α}
    (found : (table.modify key change).find? other = some row) : table.find? other = some row ∨
      ∃ old, table.find? key = some old ∧ other = key ∧ row = change old := by
  rw [find?_modify] at found
  split at found
  · next same =>
      subst same
      obtain ⟨old, present, rfl⟩ := Option.map_eq_some_iff.mp found
      exact Or.inr ⟨old, present, rfl, rfl⟩
  · exact Or.inl found

theorem find?_deleteWhere_eq_some {table : Table κ α} {condition : κ → α → Bool}
    (found : (table.deleteWhere condition).find? key = some row) : table.find? key = some row := by
  rw [find?_deleteWhere, Option.filter_eq_some_iff] at found
  exact found.1

/-! ## Queries -/

theorem exists_split {table : Table κ α} (found : table.find? key = some row) :
    ∃ before after, table.rows = before ++ (key, row) :: after ∧
      ∀ other ∈ before ++ after, other.1 ≠ key := by
  obtain ⟨before, after, split⟩ := append_of_mem (mem_rows_iff_find?.mpr found)
  refine ⟨before, after, split, fun other member same => ?_⟩
  have distinct := table.keysNodup
  rw [split, map_append, map_cons, nodup_middle, ← map_append] at distinct
  exact (nodup_cons.mp distinct).1 (mem_map.mpr ⟨other, member, same⟩)

theorem filterMap_rows_eq_singleton {table : Table κ α} {pick : κ × α → Option β} {value : β}
    (found : table.find? key = some row) (picked : pick (key, row) = some value)
    (others : ∀ other otherRow, table.find? other = some otherRow →
      other ≠ key → pick (other, otherRow) = none) : table.rows.filterMap pick = [value] := by
  obtain ⟨before, after, split, apart⟩ := exists_split found
  have silent : (before ++ after).filterMap pick = [] := by
    refine filterMap_eq_nil_iff.mpr fun entry listed => ?_
    have stored : entry ∈ table.rows := by
      rw [split]
      grind
    exact others _ _ (mem_rows_iff_find?.mp stored) (apart entry listed)
  rw [filterMap_append, append_eq_nil_iff] at silent
  rw [split, filterMap_append, filterMap_cons_some picked, silent.1, silent.2,
    nil_append]

end Statements

/-! ## Tables read through a view of their rows -/

section Views

variable {β : Type*}

def map (table : Table κ α) (view : α → β) : Table κ β where
  rows := table.rows.map fun row => (row.1, view row.2)
  keysNodup := by simpa [map_map, Function.comp_def] using table.keysNodup

@[simp] theorem map_empty (view : α → β) : (∅ : Table κ α).map view = ∅ := rfl

variable [DecidableEq κ]

@[simp] theorem find?_map (table : Table κ α) (view : α → β) (key : κ) :
    (table.map view).find? key = (table.find? key).map view := by
  simp only [find?, map, List.find?_map, Option.map_map]
  rfl

theorem map_modify (table : Table κ α) (key : κ)
    {shown : β → β} (agrees : ∀ row, view (change row) = shown (view row)) :
    (table.modify key change).map view = (table.map view).modify key shown := by
  ext1
  simp only [map, modify, update, map_map]
  refine map_congr_left fun row _ => ?_
  simp only [comp_apply, Prod.mk.injEq, true_and]
  split
  · exact agrees row.2
  · rfl

theorem map_modify_of_invisible (table : Table κ α) (key : κ)
    (same : ∀ row, view (change row) = view row) :
    (table.modify key change).map view = table.map view := by
  have agrees : ∀ row, view (change row) = id (view row) := same
  rw [map_modify table key agrees]
  exact modify_eq_self _ fun _ _ => rfl

theorem map_insertOrIgnore (table : Table κ α) (view : α → β) (key : κ) (row : α) :
    (table.insertOrIgnore key row).map view = (table.map view).insertOrIgnore key (view row) := by
  cases found : table.find? key with
  | some present =>
    have shown : (table.map view).find? key = some (view present) := by
      rw [find?_map, found, Option.map_some]
    rw [insertOrIgnore_of_present table row found, insertOrIgnore_of_present _ _ shown]
  | none =>
    have hidden : (table.map view).find? key = none := by
      rw [find?_map, found, Option.map_none]
    ext1
    rw [rows_insertOrIgnore_of_fresh _ _ hidden]
    simp [map, rows_insertOrIgnore_of_fresh table row found]

end Views

/-! ## Rows that come from an earlier table -/

section Inherits

variable [DecidableEq κ] {β : Type*} {marked : β → Prop} {view : α → β}
  {origin table : Table κ α}

/-- Every row whose view is marked was there under its key with that view. -/
def Inherits (marked : β → Prop) (view : α → β) (origin table : Table κ α) : Prop :=
  ∀ key row, table.find? key = some row → marked (view row) →
    ∃ old, origin.find? key = some old ∧ view old = view row

theorem Inherits.refl (marked : β → Prop) (view : α → β) (table : Table κ α) :
    Inherits marked view table table :=
  fun _ row found _ => ⟨row, found, rfl⟩

section

variable (inherits : Inherits marked view origin table)

include inherits

theorem Inherits.of_map_eq {γ : Type*} {table' : Table κ α} {shown : α → γ}
    (agrees : ∀ row old, shown row = shown old → view row = view old)
    (same : table'.map shown = table.map shown) : Inherits marked view origin table' := by
  intro key row found isMarked
  have shownBefore : (table.map shown).find? key = some (shown row) := by
    rw [← same, find?_map, found]
    rfl
  rw [find?_map] at shownBefore
  obtain ⟨middle, present, shownSame⟩ := Option.map_eq_some_iff.mp shownBefore
  have viewSame := agrees middle row shownSame
  rw [← viewSame] at isMarked ⊢
  exact inherits key middle present isMarked

theorem Inherits.update {change : κ → α → α}
    (harmless : ∀ key row, view (change key row) = view row ∨ ¬ marked (view (change key row))) :
    Inherits marked view origin (table.update change) := by
  intro key row found isMarked
  rw [find?_update] at found
  rcases Option.map_eq_some_iff.mp found with ⟨old, foundOld, rfl⟩
  rcases harmless key old with same | unmarked
  · rw [same] at isMarked ⊢
    exact inherits key old foundOld isMarked
  · exact absurd isMarked unmarked

theorem Inherits.modify
    (harmless : ∀ row, view (change row) = view row ∨ ¬ marked (view (change row))) :
    Inherits marked view origin (table.modify key change) := by
  apply inherits.update
  intro other row
  split
  · exact harmless row
  · exact .inl rfl

theorem Inherits.insertOrIgnore (unmarked : ¬ marked (view row)) :
    Inherits marked view origin (table.insertOrIgnore key row) := by
  intro other later found isMarked
  rw [find?_insertOrIgnore] at found
  by_cases same : other = key
  · rw [if_pos same] at found
    cases foundOld : table.find? key with
    | none =>
      rw [foundOld, Option.getD_none] at found
      rw [← Option.some.inj found] at isMarked
      exact absurd isMarked unmarked
    | some old =>
      rw [foundOld, Option.getD_some] at found
      rw [same]
      rw [← Option.some.inj found] at isMarked ⊢
      exact inherits key old foundOld isMarked
  · rw [if_neg same] at found
    exact inherits other later found isMarked

theorem Inherits.deleteWhere
    (condition : κ → α → Bool) : Inherits marked view origin (table.deleteWhere condition) := by
  intro key row found isMarked
  rw [find?_deleteWhere, Option.filter_eq_some_iff] at found
  exact inherits key row found.1 isMarked

end

end Inherits

/-! ## Sums of a column -/

section Sums

variable {M : Type w} {weight : κ → α → ℤ}

def sum [AddCommMonoid M] (table : Table κ α) (weight : κ → α → M) : M :=
  (table.rows.map fun row => weight row.1 row.2).sum

@[simp] theorem sum_empty [AddCommMonoid M] (weight : κ → α → M) :
    (∅ : Table κ α).sum weight = 0 := rfl

theorem map_sum [AddCommMonoid M] {N : Type*} [AddCommMonoid N]
    (hom : M →+ N) (table : Table κ α) (weight : κ → α → M) :
    hom (table.sum weight) = table.sum fun key row => hom (weight key row) := by
  simp [sum, map_list_sum, map_map, comp_def]

theorem sum_nonneg {table : Table κ α}
    (nonneg : ∀ key row, (key, row) ∈ table.rows → 0 ≤ weight key row) : 0 ≤ table.sum weight := by
  refine List.sum_nonneg ?_
  simp only [List.mem_map, forall_exists_index, and_imp]
  rintro _ row member rfl
  exact nonneg row.1 row.2 member

theorem weight_le_sum {table : Table κ α}
    (nonneg : ∀ key row, (key, row) ∈ table.rows → 0 ≤ weight key row)
    (member : (key, row) ∈ table.rows) : weight key row ≤ table.sum weight := by
  refine single_le_sum ?_ _ (mem_map_of_mem (f := fun row => weight row.1 row.2) member)
  simp only [mem_map, forall_exists_index, and_imp]
  rintro _ row member rfl
  exact nonneg row.1 row.2 member

theorem sum_neg [AddCommGroup M] (table : Table κ α) (weight : κ → α → M) :
    (table.sum fun key row => -weight key row) = -table.sum weight :=
  (map_sum negAddMonoidHom table weight).symm

theorem sum_mul (table : Table κ α) (weight : κ → α → ℤ) (factor : ℤ) :
    (table.sum fun key row => weight key row * factor) = table.sum weight * factor :=
  (map_sum (AddMonoidHom.mulRight factor) table weight).symm

theorem sum_apply (table : Table κ α) (weight : κ → α → β →₀ ℤ) (point : β) :
    table.sum weight point = table.sum fun key row => weight key row point :=
  table.map_sum (Finsupp.applyAddHom point) weight

section

variable [AddCommMonoid M] (table : Table κ α)

theorem sum_congr {left right : κ → α → M}
    (same : ∀ key row, (key, row) ∈ table.rows → left key row = right key row) :
    table.sum left = table.sum right := by
  simp only [sum]
  congr 1
  exact map_congr_left fun row member => same row.1 row.2 member

@[simp] theorem sum_update (change : κ → α → α) (weight : κ → α → M) :
    (table.update change).sum weight =
      table.sum fun key row => weight key (change key row) := by
  simp [sum, update, map_map, comp_def]

@[simp] theorem sum_zero : (table.sum fun _ _ => (0 : M)) = 0 := by
  simp [sum]

theorem sum_add (first second : κ → α → M) :
    (table.sum fun key row => first key row + second key row) =
      table.sum first + table.sum second := by
  exact sum_map_add

variable [DecidableEq κ]

theorem sum_insertOrIgnore_of_fresh (row : α) (weight : κ → α → M)
    (fresh : table.find? key = none) :
    (table.insertOrIgnore key row).sum weight = table.sum weight + weight key row := by
  simp [sum, rows_insertOrIgnore_of_fresh table row fresh]

theorem sum_insertOrIgnore_of_weightless (row : α) (weight : κ → α → M)
    (weightless : weight key row = 0) :
    (table.insertOrIgnore key row).sum weight = table.sum weight := by
  cases found : table.find? key with
  | none =>
    rw [sum_insertOrIgnore_of_fresh table row weight found, weightless, add_zero]
  | some present => rw [insertOrIgnore_of_present table row found]

variable {table} in
theorem exists_rest (found : table.find? key = some row) :
    ∃ others : List (κ × α), (∀ other ∈ others, other.1 ≠ key) ∧ ∀ weight : κ → α → M,
      table.sum weight = weight key row + (others.map fun other => weight other.1 other.2).sum := by
  obtain ⟨before, after, split, apart⟩ := exists_split found
  refine ⟨before ++ after, apart, fun weight => ?_⟩
  simp only [sum, split, map_append, map_cons, sum_append, sum_cons]
  abel

theorem sum_modify_of_invisible (key : κ) (change : α → α) (weight : κ → α → M)
    (invisible : ∀ row, weight key (change row) = weight key row) :
    (table.modify key change).sum weight = table.sum weight := by
  rw [modify, sum_update]
  refine table.sum_congr fun other row _ => ?_
  split
  case isTrue same => subst same; exact invisible row
  case isFalse => rfl

theorem sum_ite_key (key : κ) (amount : α → M) :
    (table.sum fun other row => if other = key then amount row else 0) =
      ((table.find? key).map amount).getD 0 := by
  cases found : table.find? key with
  | none =>
    refine (table.sum_congr fun other row member => if_neg ?_).trans (by simp [sum])
    rintro rfl
    exact (table.find?_eq_none_iff other).mp found (mem_map_of_mem member)
  | some row =>
    obtain ⟨others, apart, sums⟩ := exists_rest (M := M) found
    rw [sums, if_pos rfl, map_congr_left fun other member => if_neg (apart other member)]
    simp

end

variable [DecidableEq κ] [AddCommGroup M] (table : Table κ α)

theorem sum_modify (change : α → α) (weight : κ → α → M) (found : table.find? key = some row) :
    (table.modify key change).sum weight =
      table.sum weight + (weight key (change row) - weight key row) := by
  obtain ⟨others, apart, sums⟩ := exists_rest (M := M) found
  rw [modify, sum_update, sums, sums weight, if_pos rfl,
    map_congr_left fun other member => by rw [if_neg (apart other member)]]
  abel

theorem sum_deleteKey (weight : κ → α → M) (found : table.find? key = some row) :
    (table.deleteWhere fun other _ => other = key).sum weight =
      table.sum weight - weight key row := by
  obtain ⟨before, after, split, apart⟩ := exists_split found
  have kept : (before ++ after).filter (fun other => !decide (other.1 = key)) = before ++ after :=
    filter_eq_self.mpr (by simpa using apart)
  simp only [sum, deleteWhere, split]
  rw [filter_append, filter_cons_of_neg (by simp), ← filter_append, kept]
  simp only [map_append, map_cons, sum_append, sum_cons]
  abel

end Sums

end Table

/-! ## Append-only logs -/

/-- Rows numbered in the order they were written. Numbers are never reused,
also not those of rows that have been deleted. -/
structure Log (α : Type v) where
  rows : List (ℕ × α)
  lastId : ℕ
  increasing : rows.Pairwise fun earlier later => earlier.1 < later.1
  bounded : ∀ row ∈ rows, row.1 ≤ lastId

namespace Log

variable {α : Type v} (log : Log α)

instance : EmptyCollection (Log α) :=
  ⟨⟨[], 0, List.Pairwise.nil, by simp⟩⟩

instance : Inhabited (Log α) := ⟨∅⟩

def append (log : Log α) (row : α) : Log α where
  rows := log.rows ++ [(log.lastId + 1, row)]
  lastId := log.lastId + 1
  increasing := by
    refine pairwise_append.mpr ⟨log.increasing, by simp, ?_⟩
    intro earlier earlierMember later laterMember
    rw [mem_singleton] at laterMember
    subst laterMember
    exact Nat.lt_succ_of_le (log.bounded earlier earlierMember)
  bounded := by
    intro row member
    rcases mem_append.mp member with old | new
    · exact Nat.le_succ_of_le (log.bounded row old)
    · rw [mem_singleton.mp new]

def update (log : Log α) (change : ℕ → α → α) : Log α where
  rows := log.rows.map fun row => (row.1, change row.1 row.2)
  lastId := log.lastId
  increasing := by
    rw [pairwise_map]
    exact log.increasing
  bounded := by
    intro row member
    obtain ⟨old, oldMember, rfl⟩ := mem_map.mp member
    exact log.bounded old oldMember

@[simp] theorem rows_empty : (∅ : Log α).rows = [] := rfl

@[simp] theorem rows_append (row : α) :
    (log.append row).rows = log.rows ++ [(log.lastId + 1, row)] := rfl

def appendAll (log : Log α) (rows : List α) : Log α := rows.foldl append log

theorem appendAll_append (first second : List α) :
    log.appendAll (first ++ second) = (log.appendAll first).appendAll second :=
  foldl_append

theorem rows_prefix_appendAll (rows : List α) : log.rows <+: (log.appendAll rows).rows := by
  induction rows generalizing log with
  | nil => exact prefix_refl _
  | cons row rest ih => exact (prefix_append _ _).trans (ih (log.append row))

def Numbered (log : Log α) : Prop := log.rows.map Prod.fst = range' 1 log.lastId

theorem numbered_empty : (∅ : Log α).Numbered := rfl

theorem Numbered.append {log : Log α} (numbered : log.Numbered) (row : α) :
    (log.append row).Numbered := by
  have ids : log.rows.map Prod.fst = range' 1 log.lastId := numbered
  rw [Numbered, rows_append, map_append, ids]
  simp [Log.append, range'_concat, Nat.add_comm]

theorem Numbered.appendAll {log : Log α} (numbered : log.Numbered)
    (rows : List α) : (log.appendAll rows).Numbered := by
  induction rows generalizing log with
  | nil => exact numbered
  | cons row rest ih => exact ih (numbered.append row)

def sum {M : Type w} [AddCommMonoid M] (log : Log α) (weight : α → M) : M :=
  (log.rows.map fun row => weight row.2).sum

variable {M : Type w} [AddCommMonoid M]

@[simp] theorem sum_empty (weight : α → M) : (∅ : Log α).sum weight = 0 := rfl

@[simp] theorem sum_append (row : α) (weight : α → M) :
    (log.append row).sum weight = log.sum weight + weight row := by
  simp [sum]

theorem map_sum {N : Type*} [AddCommMonoid N] (hom : M →+ N) (log : Log α) (weight : α → M) :
    hom (log.sum weight) = log.sum fun row => hom (weight row) := by
  simp [sum, map_list_sum, map_map, comp_def]

@[simp] theorem sum_zero : (log.sum fun _ => (0 : M)) = 0 := by
  simp [sum]

theorem sum_add (first second : α → M) : (log.sum fun row => first row + second row) =
      log.sum first + log.sum second := by
  exact sum_map_add

theorem sum_apply (weight : α → β →₀ ℤ) (point : β) :
    log.sum weight point = log.sum fun row => weight row point :=
  log.map_sum (Finsupp.applyAddHom point) weight

end Log

/-! ## Ordered queries -/

/-- What the first row of a sorted query is. -/
theorem head?_insertionSort_filter {α : Type*} {rows : List α} {pick : α → Bool}
    {before : α → α → Prop} [DecidableRel before] {entry : α}
    (headed : ((rows.filter pick).insertionSort before).head? = some entry)
    (total : ∀ left right, before left right ∨ before right left)
    (trans : ∀ first second third, before first second → before second third →
      before first third) :
    (entry ∈ rows ∧ pick entry = true) ∧
      ∀ other ∈ rows, pick other = true → before entry other := by
  have isTotal : Std.Total before := ⟨total⟩
  have isTrans : IsTrans α before := ⟨trans⟩
  obtain ⟨rest, sorted⟩ := head?_eq_some_iff.mp headed
  have listed : ∀ other, other ∈ entry :: rest ↔ other ∈ rows ∧ pick other = true := by
    intro other
    rw [← sorted, mem_insertionSort, mem_filter]
  have ordered := pairwise_insertionSort before (rows.filter pick)
  rw [sorted] at ordered
  refine ⟨(listed entry).mp mem_cons_self, ?_⟩
  intro other stored picked
  rcases mem_cons.mp ((listed other).mpr ⟨stored, picked⟩) with rfl | later
  · exact (total other other).elim id id
  · exact (pairwise_cons.mp ordered).1 other later

end Relational
