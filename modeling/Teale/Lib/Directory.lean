import Teale.Lib.Table

/-!
# Directories

A table whose rows may carry a label, read from the label to the key: a label leads to the first
row that carries it and, while no row does, to the key that is its home.
-/

namespace Relational

open List Option Relational.Table

namespace Directory

universe u v

variable {κ : Type u} {β : Type v} [DecidableEq κ] [DecidableEq β] {key : κ}
  {change : Option β → Option β}

def holder (directory : Table κ (Option β)) (label : β) : Option κ :=
  (directory.rows.find? fun row => row.2 = some label).map Prod.fst

def resolve (home : β → κ) (directory : Table κ (Option β)) (label : β) : κ :=
  (holder directory label).getD (home label)

def settle (home : β → κ) (directory : Table κ (Option β)) (label : β) : Table κ (Option β) :=
  match holder directory label with
  | some _ => directory
  | none => directory.insertOrIgnore (home label) (some label)

/-- Put a label on a row, which is created if need be; without a label the row
keeps its own. -/
def assign (directory : Table κ (Option β)) (key : κ) (label : Option β) : Table κ (Option β) :=
  match directory.find? key with
  | some _ => directory.modify key fun carried => label.or carried
  | none => directory.insertOrIgnore key label

/-! ## The first row that carries a label -/

theorem carries_of_holder {label : β}
    (found : holder directory label = some key) : directory.find? key = some (some label) := by
  obtain ⟨row, first, rfl⟩ := map_eq_some_iff.mp found
  have carries : row.2 = some label := by simpa using find?_some first
  rw [← carries]
  exact mem_rows_iff_find?.mp (mem_of_find?_eq_some first)

theorem holder_insertOrIgnore (fresh : directory.find? key = none) (label : β) :
    holder (directory.insertOrIgnore key carried) label = (holder directory label).or
        (if carried = some label then some key else none) := by
  simp only [holder, rows_insertOrIgnore_of_fresh directory carried fresh,
    find?_append, find?_cons, find?_nil]
  cases directory.rows.find? fun row => decide (row.2 = some label) with
  | some row => simp
  | none => by_cases carries : carried = some label <;> simp [carries]

theorem holder_modify_of_ne (another : ∀ carried, change carried ≠ some label)
    (elsewhere : holder directory label ≠ some key) :
    holder (directory.modify key change) label = holder directory label := by
  obtain ⟨rows, keysNodup⟩ := directory
  simp only [holder, Table.modify, update] at elsewhere ⊢
  clear keysNodup
  induction rows with
  | nil => rfl
  | cons head tail ih =>
    by_cases isRow : head.1 = key
    · have silent : head.2 ≠ some label := by
        intro carries
        simp [carries, isRow] at elsewhere
      simp only [find?_cons, silent, decide_false] at elsewhere
      simpa [find?_cons, isRow, silent, another head.2] using ih elsewhere
    · by_cases carries : head.2 = some label
      · simp [isRow, carries]
      · simp only [find?_cons, carries, decide_false] at elsewhere
        simpa [find?_cons, isRow, carries] using ih elsewhere

theorem holder_modify_of_eq (present : directory.find? key = some old)
    (labelled : ∀ carried, change carried = some label)
    (free : ∀ other, holder directory label = some other → other = key) :
    holder (directory.modify key change) label = some key := by
  have stored := mem_rows_iff_find?.mpr present
  obtain ⟨rows, keysNodup⟩ := directory
  simp only [holder, Table.modify, update] at stored free ⊢
  clear keysNodup present
  induction rows with
  | nil => simp at stored
  | cons head tail ih =>
    by_cases isRow : head.1 = key
    · simp [isRow, labelled]
    · have silent : head.2 ≠ some label := by
        intro carries
        exact isRow (free head.1 (by simp [carries]))
      have later : (key, old) ∈ tail := by
        refine (mem_cons.mp stored).resolve_left ?_
        rintro rfl
        exact isRow rfl
      simp only [find?_cons, silent, decide_false] at free
      simpa [find?_cons, isRow, silent] using ih free later

/-! ## What the statements do to where a label leads -/

variable (home : β → κ)

omit [DecidableEq κ] in
@[simp] theorem resolve_empty (label : β) :
    resolve home (∅ : Table κ (Option β)) label = home label := rfl

theorem resolve_settle (directory : Table κ (Option β)) (settled label : β) :
    resolve home (settle home directory settled) label = resolve home directory label := by
  unfold settle
  split
  case h_1 => rfl
  case h_2 unheld =>
    cases found : directory.find? (home settled) with
    | some carried =>
      rw [insertOrIgnore_of_present directory _ found]
    | none =>
      unfold resolve
      rw [holder_insertOrIgnore found]
      by_cases same : settled = label
      · subst same
        simp [unheld]
      · simp [same]

theorem resolve_assign_none (directory : Table κ (Option β)) (key : κ) (label : β) :
    resolve home (assign directory key none) label = resolve home directory label := by
  unfold assign
  split
  case h_1 =>
    have same : directory.modify key (fun carried => none.or carried) = directory := by
      simp [Table.modify, update]
    rw [same]
  case h_2 fresh =>
    unfold resolve
    rw [holder_insertOrIgnore fresh]
    simp

theorem resolve_assign_some (agrees : resolve home directory label = key ↔ named = label) :
    resolve home (assign directory key (some named)) label = resolve home directory label := by
  have elsewhere : named ≠ label → holder directory label ≠ some key := by
    intro different held
    exact different (agrees.mp (by simp [resolve, held]))
  have free : named = label → ∀ other, holder directory label = some other → other = key := by
    intro same other held
    have leads := agrees.mpr same
    rwa [resolve, held, getD_some] at leads
  unfold assign
  split
  case h_1 old present =>
    by_cases same : named = label
    · have held : holder (directory.modify key fun carried => (some named).or carried) label =
            some key :=
        holder_modify_of_eq present (by simp [same]) (free same)
      rw [agrees.mpr same, resolve, held, getD_some]
    · rw [resolve, holder_modify_of_ne (by simp [same]) (elsewhere same)]
      rfl
  case h_2 fresh =>
    unfold resolve at agrees ⊢
    rw [holder_insertOrIgnore fresh]
    by_cases same : named = label
    · cases held : holder directory label with
      | some other => simp
      | none =>
        rw [held] at agrees
        simpa [same] using (agrees.mpr same).symm
    · simp [same]

/-! ## Homes that are kept for their label -/

def Reserved (proper : β → Prop) (directory : Table κ (Option β)) : Prop :=
  ∀ label carried, proper label →
    directory.find? (home label) = some (some carried) → carried = label

variable {home} {proper : β → Prop} {directory : Table κ (Option β)}

omit [DecidableEq β] in
theorem reserved_empty : Reserved home proper ∅ := fun _ _ _ found => by simp at found

section

variable (reserved : Reserved home proper directory)

include reserved

theorem Reserved.settle (injective : Function.Injective home) (settled : β) :
    Reserved home proper (settle home directory settled) := by
  unfold Directory.settle
  split
  case h_1 => exact reserved
  case h_2 =>
    intro label carried isProper found
    rw [find?_insertOrIgnore] at found
    by_cases isHome : home label = home settled
    · have same : label = settled := injective isHome
      subst same
      rw [if_pos rfl] at found
      cases present : directory.find? (home label) with
      | none => simpa [present, eq_comm] using found
      | some old =>
        rw [present, getD_some] at found
        refine reserved label carried isProper ?_
        rw [present, some.inj found]
    · rw [if_neg isHome] at found
      exact reserved label carried isProper found

theorem Reserved.assign
    (own : ∀ label, proper label → home label = key → named.all fun name => name = label) :
    Reserved home proper (assign directory key named) := by
  have labelled : ∀ label carried, proper label → home label = key →
      named = some carried → carried = label := by
    intro label carried isProper isHome isNamed
    have agrees := own label isProper isHome
    rw [isNamed] at agrees
    simpa using agrees
  unfold Directory.assign
  split
  case h_1 old present =>
    intro label carried isProper found
    rw [find?_modify] at found
    by_cases isHome : home label = key
    · rw [if_pos isHome, isHome, present, map_some] at found
      cases isNamed : named with
      | none =>
        rw [isNamed, none_or] at found
        refine reserved label carried isProper ?_
        rw [isHome, present, some.inj found]
      | some name =>
        rw [isNamed, some_or] at found
        refine labelled label carried isProper isHome ?_
        rw [isNamed, some.inj found]
    · rw [if_neg isHome] at found
      exact reserved label carried isProper found
  case h_2 fresh =>
    intro label carried isProper found
    rw [find?_insertOrIgnore] at found
    by_cases isHome : home label = key
    · rw [if_pos isHome, fresh, getD_none] at found
      exact labelled label carried isProper isHome (some.inj found)
    · rw [if_neg isHome] at found
      exact reserved label carried isProper found

/-- Two proper labels never lead to the same key while homes are kept. -/
theorem Reserved.resolve_injective (injective : Function.Injective home) {first second : β}
    (firstProper : proper first) (secondProper : proper second)
    (same : resolve home directory first = resolve home directory second) : first = second := by
  unfold resolve at same
  cases heldFirst : holder directory first with
  | some key =>
    have carriesFirst := carries_of_holder heldFirst
    cases heldSecond : holder directory second with
    | some other =>
      have carriesSecond := carries_of_holder heldSecond
      rw [heldFirst, heldSecond, getD_some, getD_some] at same
      rw [same, carriesSecond] at carriesFirst
      simpa [eq_comm] using carriesFirst
    | none =>
      rw [heldFirst, heldSecond, getD_some, getD_none] at same
      rw [same] at carriesFirst
      exact reserved second first secondProper carriesFirst
  | none =>
    cases heldSecond : holder directory second with
    | some other =>
      have carriesSecond := carries_of_holder heldSecond
      rw [heldFirst, heldSecond, getD_none, getD_some] at same
      rw [← same] at carriesSecond
      exact (reserved first second firstProper carriesSecond).symm
    | none =>
      rw [heldFirst, heldSecond, getD_none, getD_none] at same
      exact injective same

end

end Directory

end Relational
