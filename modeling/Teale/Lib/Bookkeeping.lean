import Mathlib.Algebra.Order.BigOperators.Group.List
import Mathlib.LinearAlgebra.Finsupp.LinearCombination

/-!
# Bookkeeping

Books are a finitely supported function to the integers, and a transaction posts a journal.
Whatever is linear in the books moves by the same functional of the journal. Books that start at
zero or above stay there when every debit is covered.
-/

namespace Bookkeeping

open List Finsupp

universe u

variable {β : Type u} {guarded : β → Prop} (weight : β → ℤ)

abbrev Books (β : Type u) := β →₀ ℤ

abbrev Journal (β : Type u) := List (β × ℤ)

noncomputable def post (journal : Journal β) : Books β :=
  (journal.map fun entry => single entry.1 entry.2).sum

@[simp] theorem post_nil : post ([] : Journal β) = 0 := rfl

@[simp] theorem post_cons (entry : β × ℤ) (journal : Journal β) : post (entry :: journal) =
      single entry.1 entry.2 + post journal := by
  simp [post]

variable (first second : Journal β)

@[simp] theorem post_append : post (first ++ second) = post first + post second := by
  simp [post]

/-! ## Linear readings -/

/-- A reading of the books that is linear in them: every book counts with its
weight. -/
noncomputable def weigh (weight : β → ℤ) : Books β →+ ℤ :=
  (linearCombination ℤ weight).toAddMonoidHom

@[simp] theorem weigh_single (book : β) (amount : ℤ) :
    weigh weight (single book amount) = amount * weight book := by
  simp [weigh]

theorem weigh_eq_of_single {weight : β → ℤ} (reading : Books β →+ ℤ)
    (same : ∀ book amount, reading (single book amount) = amount * weight book)
    (books : Books β) : weigh weight books = reading books := by
  have agree : weigh weight = reading := by
    apply addHom_ext
    intro book amount
    rw [weigh_single, same]
  rw [agree]

theorem weigh_book [DecidableEq β] (book : β) (books : Books β) :
    weigh (fun other => if other = book then 1 else 0) books = books book := by
  apply weigh_eq_of_single (applyAddHom book)
  simp [single_apply]

theorem weigh_nonneg {weight : β → ℤ}
    (nonneg : ∀ book, 0 ≤ books book * weight book) : 0 ≤ weigh weight books := by
  have sums : weigh weight books = books.sum fun book amount => amount * weight book := by
    simp [weigh, linearCombination_apply]
  exact Finset.sum_nonneg fun book _ => nonneg book

def Journal.total (weight : β → ℤ) (journal : Journal β) : ℤ :=
  (journal.map fun entry => entry.2 * weight entry.1).sum

@[simp] theorem Journal.total_nil : Journal.total weight ([] : Journal β) = 0 := rfl

@[simp] theorem Journal.total_cons (entry : β × ℤ) (journal : Journal β) :
    Journal.total weight (entry :: journal) =
      entry.2 * weight entry.1 + Journal.total weight journal := by
  simp [Journal.total]

@[simp] theorem Journal.total_append : Journal.total weight (first ++ second) =
      Journal.total weight first + Journal.total weight second := by
  simp [Journal.total]

theorem weigh_post (journal : Journal β) : weigh weight (post journal) = journal.total weight := by
  induction journal with
  | nil => simp
  | cons entry rest ih => simp [ih]

/-! ## Covered debits -/

/-- No posting takes a guarded book below zero, starting from the given
books and following the journal in order. -/
def Covered (guarded : β → Prop) : Books β → Journal β → Prop
  | _, [] => True
  | books, entry :: rest =>
    (guarded entry.1 → 0 ≤ books entry.1 + entry.2) ∧
      Covered guarded (books + single entry.1 entry.2) rest

theorem Covered.nonneg (covered : Covered guarded books journal)
    (before : ∀ book, guarded book → 0 ≤ books book) :
    ∀ book, guarded book → 0 ≤ (books + post journal) book := by
  classical
  induction journal generalizing books with
  | nil => simpa using before
  | cons entry rest ih =>
    have after : ∀ book, guarded book → 0 ≤ (books + single entry.1 entry.2) book := by
      intro book isGuarded
      by_cases same : entry.1 = book
      · subst same
        simpa using covered.1 isGuarded
      · simpa [same] using before book isGuarded
    simpa [add_assoc] using ih covered.2 after

theorem covered_of_credits (before : ∀ book, guarded book → 0 ≤ books book)
    (credits : ∀ entry ∈ journal, guarded entry.1 → 0 ≤ entry.2) :
    Covered guarded books journal := by
  classical
  induction journal generalizing books with
  | nil => trivial
  | cons entry rest ih =>
    have headCredit := credits entry mem_cons_self
    refine ⟨fun isGuarded => add_nonneg (before _ isGuarded) (headCredit isGuarded),
      ih ?_ (forall_mem_cons.mp credits).2⟩
    intro book isGuarded
    by_cases same : entry.1 = book
    · subst same
      simpa using add_nonneg (before _ isGuarded) (headCredit isGuarded)
    · simpa [same] using before book isGuarded

theorem covered_payment (before : ∀ book, guarded book → 0 ≤ books book)
    (afford : guarded payer → amount ≤ books payer)
    (areCredits : ∀ entry ∈ credits, guarded entry.1 → 0 ≤ entry.2) :
    Covered guarded books ((payer, -amount) :: credits) := by
  classical
  refine ⟨fun isGuarded => by have := afford isGuarded; simp only; omega, ?_⟩
  refine covered_of_credits ?_ areCredits
  intro book isGuarded
  by_cases same : payer = book
  · subst same
    have := afford isGuarded
    simp only [Finsupp.add_apply, single_eq_same]
    omega
  · simpa [same] using before book isGuarded

/-! ## Entries

A kind of entry has a journal and a condition on the books it may be posted
to. A transaction posts a list of entries, each on the books the ones before it
leave. -/

structure Rules (β : Type u) (ε : Type*) where
  journal : ε → Journal β
  Allowed : Books β → ε → Prop

namespace Rules

variable {ε : Type*} {rules : Rules β ε} {books after : Books β} {entries : List ε}

inductive Posted (rules : Rules β ε) : Books β → List ε → Books β → Prop
  | nil (books : Books β) : Posted rules books [] books
  | cons {books after : Books β} {entry : ε} {entries : List ε}
      (allowed : rules.Allowed books entry)
      (rest : Posted rules (books + post (rules.journal entry)) entries after) :
      Posted rules books (entry :: entries) after

theorem Posted.single (allowed : rules.Allowed books entry)
    (moved : after = books + post (rules.journal entry)) : rules.Posted books [entry] after :=
  .cons allowed (moved ▸ .nil _)

theorem Posted.eq_of_nil (posted : rules.Posted books [] after) : after = books := by
  cases posted
  rfl

theorem Posted.append {first middle last : Books β} {early late : List ε}
    (before : rules.Posted first early middle) (after : rules.Posted middle late last) :
    rules.Posted first (early ++ late) last := by
  induction before with
  | nil => exact after
  | cons allowed _ ih => exact .cons allowed (ih after)

section

variable (posted : rules.Posted books entries after)

include posted

theorem Posted.weigh_eq : weigh weight after = weigh weight books +
      (entries.map fun entry => (rules.journal entry).total weight).sum := by
  induction posted with
  | nil => simp
  | cons _ _ ih =>
    rw [ih, map_add, weigh_post, map_cons, List.sum_cons, add_assoc]

theorem Posted.weigh_unchanged (each : ∀ entry ∈ entries, (rules.journal entry).total weight = 0) :
    weigh weight after = weigh weight books := by
  have silent : (entries.map fun entry => (rules.journal entry).total weight).sum = 0 := by
    refine sum_eq_zero ?_
    simp only [mem_map, forall_exists_index, and_imp]
    rintro _ entry member rfl
    exact each entry member
  rw [posted.weigh_eq weight, silent, add_zero]

theorem Posted.weigh_mono (each : ∀ entry ∈ entries, ∀ current, rules.Allowed current entry →
      0 ≤ (rules.journal entry).total weight) : weigh weight books ≤ weigh weight after := by
  induction posted with
  | nil => exact le_refl _
  | cons allowed _ ih =>
    have head := each _ mem_cons_self _ allowed
    have rest := ih (forall_mem_cons.mp each).2
    rw [map_add, weigh_post] at rest
    omega

theorem Posted.nonneg
    (covered : ∀ entry ∈ entries, ∀ current, (∀ book, guarded book → 0 ≤ current book) →
      rules.Allowed current entry →
      Covered guarded current (rules.journal entry))
    (before : ∀ book, guarded book → 0 ≤ books book) : ∀ book, guarded book → 0 ≤ after book := by
  induction posted with
  | nil => exact before
  | cons allowed _ ih =>
    refine ih ?_ ?_
    · exact (forall_mem_cons.mp covered).2
    · exact (covered _ mem_cons_self _ before allowed).nonneg before

end

end Rules

end Bookkeeping
