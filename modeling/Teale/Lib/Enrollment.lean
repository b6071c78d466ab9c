import Teale.Lib.Table

/-!
# Enrolling names

A program may write a name down the first time it meets it and leave it alone from then on. A
window is a list of names that are dropped again some time later, with a bound on how many it
holds at once.
-/

namespace Enrollment

open Relational List Option Relational.Table

universe u

section Names

variable {ν : Type u} {allowed : ν → Prop} {names middle names' : List ν}

/-- The second list is the first one with further names behind it, each of them
allowed, new and written once. -/
def Enrolls (allowed : ν → Prop) (names names' : List ν) : Prop :=
  ∃ added, names' = names ++ added ∧ added.Nodup ∧ ∀ name ∈ added, name ∉ names ∧ allowed name

namespace Enrolls

theorem refl (allowed : ν → Prop) (names : List ν) : Enrolls allowed names names :=
  ⟨[], (append_nil names).symm, nodup_nil, by simp⟩

variable {name : ν}

theorem single (fresh : name ∉ names) (permitted : allowed name) :
    Enrolls allowed names (names ++ [name]) := by
  refine ⟨[name], rfl, nodup_singleton name, ?_⟩
  intro other member
  rw [mem_singleton.mp member]
  exact ⟨fresh, permitted⟩

theorem subset (enrolls : Enrolls allowed names names') : names ⊆ names' := by
  obtain ⟨added, rfl, -⟩ := enrolls
  exact subset_append_left names added

theorem trans (first : Enrolls allowed names middle) (second : Enrolls allowed middle names') :
    Enrolls allowed names names' := by
  obtain ⟨added, rfl, nodup, isNew⟩ := first
  obtain ⟨more, rfl, moreNodup, moreNew⟩ := second
  refine ⟨added ++ more, append_assoc names added more, ?_, ?_⟩
  · refine List.Nodup.append nodup moreNodup ?_
    intro name inAdded inMore
    exact (moreNew name inMore).1 (mem_append_right names inAdded)
  · intro name member
    rcases mem_append.mp member with inAdded | inMore
    · exact isNew name inAdded
    · have unseen := (moreNew name inMore).1
      exact ⟨fun inNames => unseen (mem_append_left added inNames), (moreNew name inMore).2⟩

theorem mono {wider : ν → Prop} (implied : ∀ name, allowed name → wider name)
    (enrolls : Enrolls allowed names names') : Enrolls wider names names' := by
  obtain ⟨added, isAppended, nodup, isNew⟩ := enrolls
  refine ⟨added, isAppended, nodup, ?_⟩
  exact fun name member => ⟨(isNew name member).1, implied name (isNew name member).2⟩

theorem of_present (enrolls : Enrolls (fun name => allowed name ∨ name ∈ names) names names') :
    Enrolls allowed names names' := by
  obtain ⟨added, isAppended, nodup, isNew⟩ := enrolls
  refine ⟨added, isAppended, nodup, ?_⟩
  intro name member
  obtain ⟨unseen, permitted⟩ := isNew name member
  exact ⟨unseen, permitted.resolve_right unseen⟩

end Enrolls

theorem countP_le_one {meant : ν → Bool} (nodup : names.Nodup)
    (agree : ∀ name ∈ names, ∀ other ∈ names, meant name = true →
      meant other = true → name = other) : names.countP meant ≤ 1 := by
  rw [countP_eq_length_filter]
  cases found : names.filter meant with
  | nil => exact Nat.zero_le 1
  | cons head tail =>
    have isFirst : head ∈ names.filter meant := by simp [found]
    have same : ∀ name ∈ names.filter meant, name = head := by
      intro name member
      exact agree name (mem_filter.mp member).1 head
        (mem_filter.mp isFirst).1 (mem_filter.mp member).2
        (mem_filter.mp isFirst).2
    have repeated := eq_replicate_of_mem same
    have filtered := nodup.filter meant
    rw [repeated, nodup_replicate] at filtered
    rwa [← found]

theorem Enrolls.countP_le_one {meant : ν → Bool} (enrolls : Enrolls allowed names names')
    (agree : ∀ name other, allowed name → allowed other → meant name = true →
      meant other = true → name = other) :
    ∃ added, names' = names ++ added ∧ added.countP meant ≤ 1 := by
  obtain ⟨added, isAppended, nodup, isNew⟩ := enrolls
  refine ⟨added, isAppended, Enrollment.countP_le_one nodup ?_⟩
  intro name member other otherMember
  exact agree name other (isNew name member).2 (isNew other otherMember).2

end Names

/-! ## Windows -/

inductive Verdict
  | fresh
  | repeated
  | full
  deriving DecidableEq, Repr

section Window

variable {ν : Type u} [DecidableEq ν] {limit : ℕ} {width : ℤ} {window : Table ν ℤ}
  {visits : List (ν × ℤ)}

/-- The names that were written down less than `width` ago. -/
def current (width : ℤ) (window : Table ν ℤ) (now : ℤ) : Table ν ℤ :=
  window.deleteWhere fun _ since => ! decide (now - since < width)

/-- A visit under a name, at a time: old names are dropped, and the name is
written down unless it is there or the window is full. -/
def visit (limit : ℕ) (width : ℤ) (window : Table ν ℤ) (name : ν) (now : ℤ) : Verdict × Table ν ℤ :=
  let window := current width window now
  if (window.find? name).isSome then
    (.repeated, window)
  else if limit ≤ window.rows.length then
    (.full, window)
  else
    (.fresh, window.insertOrIgnore name now)

def places (limit : ℕ) (width : ℤ) : Table ν ℤ → List (ν × ℤ) → List (ν × ℤ)
  | _, [] => []
  | window, (name, now) :: visits =>
    let visited := visit limit width window name now
    let later := places limit width visited.2 visits
    if visited.1 = .fresh then (name, now) :: later else later

theorem find?_current (window : Table ν ℤ) (now : ℤ) (name : ν) :
    (current width window now).find? name =
      (window.find? name).filter fun since => decide (now - since < width) := by
  rw [current, find?_deleteWhere]
  simp only [Bool.not_not]

theorem find?_visit_of_current {other name : ν} {since now : ℤ}
    (found : window.find? name = some since) (recent : now - since < width) :
    (visit limit width window other now).2.find? name = some since := by
  have kept : (current width window now).find? name = some since := by
    rw [find?_current, found]
    simp [recent]
  simp only [visit]
  split_ifs with isSeen isFull
  · exact kept
  · exact kept
  · rw [find?_insertOrIgnore, if_neg, kept]
    rintro rfl
    rw [kept] at isSeen
    exact isSeen rfl

theorem find?_visit_of_fresh (isFresh : (visit limit width window name now).1 = .fresh) :
    (visit limit width window name now).2.find? name = some now := by
  simp only [visit] at isFresh ⊢
  split_ifs at isFresh ⊢ with isSeen isFull
  rw [not_isSome_iff_eq_none] at isSeen
  rw [find?_insertOrIgnore_self, isSeen, getD_none]

theorem visit_ne_fresh_of_current {since now : ℤ}
    (found : window.find? name = some since) (recent : now - since < width) :
    (visit limit width window name now).1 ≠ .fresh := by
  have kept : (current width window now).find? name = some since := by
    rw [find?_current, found]
    simp [recent]
  simp [visit, kept]

theorem name_of_visit (member : ((visit limit width window visitor now).2.find? name).isSome) :
    (window.find? name).isSome ∨ name = visitor := by
  have older : ((current width window now).find? name).isSome → (window.find? name).isSome := by
    rw [find?_current, isSome_filter]
    exact isSome_of_any
  simp only [visit] at member
  split_ifs at member
  · exact .inl (older member)
  · exact .inl (older member)
  · rw [find?_insertOrIgnore] at member
    split_ifs at member with same
    · exact .inr same
    · exact .inl (older member)

theorem mem_visits_of_mem_places {place : ν × ℤ}
    (member : place ∈ places limit width window visits) : place ∈ visits := by
  induction visits generalizing window with
  | nil => exact member
  | cons head tail ih =>
    simp only [places] at member
    split_ifs at member
    · rcases mem_cons.mp member with rfl | later
      · exact mem_cons_self
      · exact mem_cons_of_mem head (ih later)
    · exact mem_cons_of_mem head (ih member)

section

variable (ordered : visits.Pairwise fun first second => first.2 ≤ second.2)

include ordered

theorem width_le_of_mem_places {since now : ℤ} (found : window.find? name = some since)
    (member : (name, now) ∈ places limit width window visits) : since + width ≤ now := by
  induction visits generalizing window with
  | nil => simp [places] at member
  | cons head tail ih =>
    obtain ⟨headFirst, tailOrdered⟩ := pairwise_cons.mp ordered
    by_cases recent : head.2 - since < width
    · -- the visit neither drops the name nor gives it a place
      have kept := @find?_visit_of_current ν _ limit width window head.1 name
        since head.2 found recent
      refine ih tailOrdered kept ?_
      simp only [places] at member
      split_ifs at member with isFresh
      · rcases mem_cons.mp member with same | later
        · have refused := @visit_ne_fresh_of_current ν _ limit width window
            name since head.2 found recent
          rw [← congrArg Prod.fst same] at isFresh
          exact absurd isFresh refused
        · exact later
      · exact member
    · have late : head.2 ≤ now := by
        rcases mem_cons.mp (mem_visits_of_mem_places member) with
          same | later
        · exact le_of_eq (congrArg Prod.snd same).symm
        · exact headFirst _ later
      omega

theorem places_apart : (places limit width window visits).Pairwise fun first second =>
      first.1 = second.1 → first.2 + width ≤ second.2 := by
  induction visits generalizing window with
  | nil => exact List.Pairwise.nil
  | cons head tail ih =>
    obtain ⟨-, tailOrdered⟩ := pairwise_cons.mp ordered
    simp only [places]
    split_ifs with isFresh
    · refine pairwise_cons.mpr ⟨?_, ih tailOrdered⟩
      rintro ⟨name, now⟩ member rfl
      exact width_le_of_mem_places tailOrdered (find?_visit_of_fresh isFresh) member
    · exact ih tailOrdered

end

end Window

end Enrollment
