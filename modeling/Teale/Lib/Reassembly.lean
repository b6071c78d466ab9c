import Mathlib.Data.List.Nodup
import Mathlib.Data.List.Perm.Subperm
import Mathlib.Logic.Function.Basic
import Mathlib.Order.Nat
import Teale.Lib.Transaction

/-!
# Reassembly

Items arrive in numbered parts, in any order and mixed with others. When no part comes twice and
no two items of one tag are pending at a time, no item is completed twice, and an item whose parts
all come within the lifetime is completed.
-/

namespace Reassembly

open Transactional List Option Function

/-! ## Cutting a list -/

section Chunks

variable {α : Type*} {size : ℕ}

theorem toChunks_go (xs : List α) (chunk : Array α) (chunks : Array (List α))
    (started : 0 < chunk.size) (short : chunk.size ≤ size) :
    (List.toChunks.go size xs chunk chunks).flatten = chunks.toList.flatten ++ chunk.toList ++ xs ∧
      ∃ count, (List.toChunks.go size xs chunk chunks).length = chunks.size + (count + 1) ∧
        chunk.size + xs.length ≤ count * size + size ∧ count * size < chunk.size + xs.length := by
  fun_induction toChunks.go size xs chunk chunks with
  | case1 chunk chunks => exact ⟨by simp, 0, by simp, by simpa using short, by simpa using started⟩
  | case2 x xs chunk chunks full ih =>
    rw [beq_iff_eq] at full
    obtain ⟨flat, count, cutLength, upper, lower⟩ := ih (by simp) (by simp; omega)
    rw [Array.size_push] at cutLength
    simp only [Array.size_push, Array.mkEmpty_eq, Array.size_empty] at upper lower
    refine ⟨by simpa using flat, count + 1, by omega, ?_⟩
    rw [length_cons, Nat.succ_mul]
    omega
  | case3 x xs chunk chunks full ih =>
    rw [beq_iff_eq] at full
    obtain ⟨flat, count, cutLength, upper, lower⟩ := ih (by simp) (by simp; omega)
    simp only [Array.size_push] at upper lower
    refine ⟨by simpa using flat, count, cutLength, ?_⟩
    rw [length_cons]
    omega

theorem toChunks_spec (positive : 0 < size) (x : α) (xs : List α) :
    ((x :: xs).toChunks size).flatten = x :: xs ∧
      ∃ count, ((x :: xs).toChunks size).length = count + 1 ∧
        xs.length + 1 ≤ count * size + size ∧ count * size < xs.length + 1 := by
  have cut : (x :: xs).toChunks size = toChunks.go size xs #[x] #[] := by
    match size, positive with
    | _ + 1, _ => rfl
  obtain ⟨flat, cuts, cutLength, upper, lower⟩ := toChunks_go xs #[x] #[] (by simp) positive
  rw [cut]
  refine ⟨by simpa using flat, cuts, by simpa using cutLength, ?_, ?_⟩
  · simpa [Nat.add_comm] using upper
  · simpa [Nat.add_comm] using lower

end Chunks

structure Layout (ι τ : Type*) where
  tag : ι → Option τ
  total : ι → ℕ
  lifetime : ℕ
  whole : ∀ item, tag item = none → total item = 1

structure Part (ι : Type*) where
  now : ℕ
  item : ι
  number : ℕ

structure Pending (ι : Type*) where
  item : ι
  parts : List ℕ
  created : ℕ

abbrev Shelf (ι τ : Type*) := τ → Option (Pending ι)

structure Collection (ι τ : Type*) where
  shelf : Shelf ι τ := fun _ => none
  completed : List ι := []

namespace Layout

variable {ι τ : Type*} (layout : Layout ι τ)

def retained (shelf : Shelf ι τ) (now : ℕ) : Shelf ι τ := fun tag =>
  (shelf tag).filter fun pending => now - pending.created < layout.lifetime

def extended (shelf : Shelf ι τ) (tag : τ) (part : Part ι) : Pending ι :=
  let pending := (layout.retained shelf part.now tag).getD
    ⟨part.item, [], part.now⟩
  { pending with parts := part.number :: pending.parts }

def Undisturbed (collection : Collection ι τ) (part : Part ι) : Prop :=
  ∀ tag, layout.tag part.item = some tag → ∀ pending,
    layout.retained collection.shelf part.now tag = some pending → pending.item = part.item

section Collect

variable [DecidableEq τ]

/-- Put a part with the others, and take the item out when it is complete. -/
def put (shelf : Shelf ι τ) (part : Part ι) : Shelf ι τ × Option ι :=
  match layout.tag part.item with
  | none => (shelf, some part.item)
  | some tag =>
    let pending := layout.extended shelf tag part
    if pending.parts.length = layout.total pending.item then
      (update (layout.retained shelf part.now) tag none, some pending.item)
    else
      (update (layout.retained shelf part.now) tag (some pending), none)

def collect (collection : Collection ι τ) (part : Part ι) : Collection ι τ where
  shelf := (layout.put collection.shelf part).1
  completed := collection.completed ++ (layout.put collection.shelf part).2.toList

theorem collect_cases (collection : Collection ι τ) (part : Part ι) :
    (layout.tag part.item = none ∧ layout.collect collection part =
      ⟨collection.shelf, collection.completed ++ [part.item]⟩) ∨
    ∃ tag pending, layout.tag part.item = some tag ∧
      layout.extended collection.shelf tag part = pending ∧
      ((pending.parts.length = layout.total pending.item ∧ layout.collect collection part =
        ⟨update (layout.retained collection.shelf part.now) tag none,
          collection.completed ++ [pending.item]⟩) ∨
      (pending.parts.length ≠ layout.total pending.item ∧ layout.collect collection part =
        ⟨update (layout.retained collection.shelf part.now) tag (some pending),
          collection.completed⟩)) := by
  cases tagged : layout.tag part.item with
  | none => exact .inl ⟨rfl, by simp [collect, put, tagged]⟩
  | some tag =>
    refine .inr ⟨tag, _, rfl, rfl, ?_⟩
    rw [collect, put, tagged]
    dsimp only
    split
    case isTrue complete => exact .inl ⟨complete, rfl⟩
    case isFalse missing => exact .inr ⟨missing, congrArg _ (append_nil _)⟩

end Collect

/-! ## What is on the shelf -/

/-- A pending item, of which some of the parts that came are there. -/
structure Incomplete (fed : List (ι × ℕ)) (tag : τ) (pending : Pending ι) :
    Prop where
  tagged : layout.tag pending.item = some tag
  nonempty : pending.parts ≠ []
  nodup : pending.parts.Nodup
  missing : pending.parts.length ≠ layout.total pending.item
  parts : ∀ number ∈ pending.parts,
    number < layout.total pending.item ∧ (pending.item, number) ∈ fed

/-- The state after some parts: a completed item had all of its parts. -/
structure Sound (fed : List (ι × ℕ)) (collection : Collection ι τ) : Prop where
  shelved : ∀ tag pending, collection.shelf tag = some pending → layout.Incomplete fed tag pending
  completed : ∀ item ∈ collection.completed, ∀ number < layout.total item, (item, number) ∈ fed
  nodup : collection.completed.Nodup

variable {layout} {fed : List (ι × ℕ)} {collection : Collection ι τ}
  {part : Part ι} {item : ι} {pending : Pending ι} {start : ℕ}

theorem sound_empty : layout.Sound [] ({} : Collection ι τ) where
  shelved _ _ found := nomatch found
  completed _ listed := nomatch listed
  nodup := List.nodup_nil

theorem Incomplete.weaken {tag : τ} (incomplete : layout.Incomplete fed tag pending)
    (newest : ι × ℕ) : layout.Incomplete (newest :: fed) tag pending where
  tagged := incomplete.tagged
  nonempty := incomplete.nonempty
  nodup := incomplete.nodup
  missing := incomplete.missing
  parts number listed :=
    ⟨(incomplete.parts number listed).1, mem_cons_of_mem _ (incomplete.parts number listed).2⟩

theorem retained_eq_some {shelf : Shelf ι τ} {now : ℕ} {tag : τ}
    (kept : layout.retained shelf now tag = some pending) : shelf tag = some pending :=
  (filter_eq_some_iff.mp kept).1

theorem retained_of_young {shelf : Shelf ι τ} {now : ℕ} {tag : τ}
    (found : shelf tag = some pending) (young : now - pending.created < layout.lifetime) :
    layout.retained shelf now tag = some pending := by
  rw [retained, found, filter_some, if_pos (by simpa using young)]

theorem mem_of_length_eq {numbers : List ℕ} {bound : ℕ} (nodup : numbers.Nodup)
    (below : ∀ number ∈ numbers, number < bound) (enough : bound ≤ numbers.length) :
    ∀ number < bound, number ∈ numbers := by
  intro number isBelow
  have subset : numbers ⊆ range bound := by
    intro other listed
    exact mem_range.mpr (below other listed)
  have permuted : numbers.Perm (range bound) := by
    apply (subperm_of_subset nodup subset).perm_of_length_le
    rw [length_range]
    exact enough
  rw [permuted.mem_iff]
  exact mem_range.mpr isBelow

structure Grown (layout : Layout ι τ) (fed : List (ι × ℕ)) (part : Part ι)
    (pending : Pending ι) : Prop where
  item : pending.item = part.item
  nodup : pending.parts.Nodup
  parts : ∀ number ∈ pending.parts, number < layout.total part.item ∧
      (part.item, number) ∈ (part.item, part.number) :: fed

section

variable (sound : layout.Sound fed collection)

include sound

theorem Sound.extended (undisturbed : layout.Undisturbed collection part) {tag : τ}
    (tagged : layout.tag part.item = some tag) (fresh : (part.item, part.number) ∉ fed)
    (valid : part.number < layout.total part.item) :
    Grown layout fed part (layout.extended collection.shelf tag part) := by
  rw [Layout.extended]
  cases kept : layout.retained collection.shelf part.now tag with
  | none =>
    refine ⟨rfl, nodup_singleton _, ?_⟩
    intro number listed
    cases mem_singleton.mp listed
    exact ⟨valid, mem_cons_self⟩
  | some pending =>
    have sameItem := undisturbed tag tagged pending kept
    have incomplete := sound.shelved tag pending (retained_eq_some kept)
    refine ⟨sameItem, nodup_cons.mpr ⟨?_, incomplete.nodup⟩, ?_⟩
    · intro listed
      apply fresh
      rw [← sameItem]
      exact (incomplete.parts _ listed).2
    · intro number listed
      rcases mem_cons.mp listed with rfl | old
      · exact ⟨valid, mem_cons_self⟩
      · have stored := incomplete.parts number old
        rw [sameItem] at stored
        exact ⟨stored.1, mem_cons_of_mem _ stored.2⟩

theorem Sound.completed_concat
    (fresh : (part.item, part.number) ∉ fed) (valid : part.number < layout.total part.item)
    (all : ∀ number < layout.total part.item,
      (part.item, number) ∈ (part.item, part.number) :: fed) :
    (∀ item ∈ collection.completed ++ [part.item], ∀ number < layout.total item,
        (item, number) ∈ (part.item, part.number) :: fed) ∧
    (collection.completed ++ [part.item]).Nodup := by
  constructor
  · intro item listed
    rcases mem_append.mp listed with old | new
    · intro number isBelow
      exact mem_cons_of_mem _ (sound.completed item old number isBelow)
    · cases mem_singleton.mp new
      exact all
  · rw [nodup_append]
    refine ⟨sound.nodup, nodup_singleton _, ?_⟩
    intro item listed other isNew same
    cases mem_singleton.mp isNew
    exact fresh (sound.completed part.item (same ▸ listed) part.number valid)

theorem Sound.collect [DecidableEq τ]
    (undisturbed : layout.Undisturbed collection part) (fresh : (part.item, part.number) ∉ fed)
    (valid : part.number < layout.total part.item) : layout.Sound ((part.item, part.number) :: fed)
      (layout.collect collection part) := by
  rcases layout.collect_cases collection part with
    ⟨tagged, result⟩ | ⟨tag, extended, tagged, rfl, outcome⟩
  · have single := layout.whole part.item tagged
    have all : ∀ number < layout.total part.item,
        (part.item, number) ∈ (part.item, part.number) :: fed := by
      intro number isBelow
      have same : number = part.number := by omega
      rw [same]
      exact mem_cons_self
    have added := sound.completed_concat fresh valid all
    rw [result]
    refine ⟨?_, added.1, added.2⟩
    intro tag pending found
    exact (sound.shelved tag pending found).weaken _
  · have grown := sound.extended undisturbed tagged fresh valid
    have others : ∀ other pending, layout.retained collection.shelf part.now other = some pending →
        layout.Incomplete ((part.item, part.number) :: fed) other pending := by
      intro other pending kept
      exact (sound.shelved other pending (retained_eq_some kept)).weaken _
    rcases outcome with ⟨complete, result⟩ | ⟨missing, result⟩
    · have all : ∀ number < layout.total part.item,
          (part.item, number) ∈ (part.item, part.number) :: fed := by
        intro number isBelow
        rw [grown.item] at complete
        have listed := mem_of_length_eq grown.nodup
          (fun number listed => (grown.parts number listed).1)
          (le_of_eq complete.symm) number isBelow
        exact (grown.parts number listed).2
      have added := sound.completed_concat fresh valid all
      rw [result, grown.item]
      refine ⟨?_, added.1, added.2⟩
      intro other pending found
      change update (layout.retained collection.shelf part.now) tag none other = _ at found
      by_cases same : other = tag
      · rw [same, update_self] at found
        cases found
      · rw [update_of_ne same] at found
        exact others other pending found
    · rw [result]
      refine ⟨?_, ?_, sound.nodup⟩
      · intro other pending found
        change update _ tag _ other = _ at found
        by_cases same : other = tag
        · rw [same, update_self] at found
          cases found
          refine ⟨?_, cons_ne_nil _ _, grown.nodup, missing, ?_⟩
          · rw [same, grown.item, tagged]
          · rw [grown.item]
            exact grown.parts
        · rw [update_of_ne same] at found
          exact others other pending found
      · intro item listed number isBelow
        exact mem_cons_of_mem _ (sound.completed item listed number isBelow)

end

/-! ## Items whose parts come in time -/

def InHand (layout : Layout ι τ) (start : ℕ) (fed : List (ι × ℕ)) (item : ι)
    (collection : Collection ι τ) : Prop :=
  item ∈ collection.completed ∨ (∀ number, (item, number) ∉ fed) ∨
    ∃ tag pending, layout.tag item = some tag ∧
      collection.shelf tag = some pending ∧ pending.item = item ∧
      start ≤ pending.created ∧
      ∀ number, (item, number) ∈ fed → number ∈ pending.parts

theorem mem_completed_collect [DecidableEq τ] (listed : item ∈ collection.completed) :
    item ∈ (layout.collect collection part).completed :=
  mem_append_left _ listed

theorem InHand.completed (inHand : InHand layout start fed item collection)
    (sound : layout.Sound fed collection) (positive : 0 < layout.total item)
    (all : ∀ number < layout.total item, (item, number) ∈ fed) : item ∈ collection.completed := by
  rcases inHand with completed | nothing | ⟨tag, pending, _, found, rfl, _, kept⟩
  · exact completed
  · exact absurd (all 0 positive) (nothing 0)
  · have incomplete := sound.shelved tag pending found
    have isAll : range (layout.total pending.item) ⊆ pending.parts := by
      intro number isBelow
      exact kept number (all number (mem_range.mp isBelow))
    have atLeast := (subperm_of_subset nodup_range isAll).length_le
    have subset : pending.parts ⊆ range (layout.total pending.item) := by
      intro number listed
      exact mem_range.mpr (incomplete.parts number listed).1
    have atMost := (subperm_of_subset incomplete.nodup subset).length_le
    rw [length_range] at atLeast atMost
    exact absurd (le_antisymm atMost atLeast) incomplete.missing

theorem InHand.collect_own [DecidableEq τ]
    (inHand : InHand layout start fed part.item collection) (sound : layout.Sound fed collection)
    (undisturbed : layout.Undisturbed collection part)
    (early : start ≤ part.now) (late : part.now < start + layout.lifetime) :
    InHand layout start ((part.item, part.number) :: fed) part.item
      (layout.collect collection part) := by
  rcases inHand with completed | inHand
  · exact Or.inl (mem_completed_collect completed)
  rcases layout.collect_cases collection part with
    ⟨-, result⟩ | ⟨tag, extended, tagged, isExtended, outcome⟩
  · left
    rw [result]
    exact mem_append_right _ (mem_singleton_self _)
  · -- The pending item with the new part holds all that came.
    have holds : extended.item = part.item ∧ start ≤ extended.created ∧
        ∀ number, (part.item, number) ∈ (part.item, part.number) :: fed →
          number ∈ extended.parts := by
      subst isExtended
      rcases inHand with nothing | ⟨tag', pending, tagged', found, sameItem, since, kept⟩
      · have free : layout.retained collection.shelf part.now tag = none := by
          by_contra occupied
          obtain ⟨pending, kept⟩ := ne_none_iff_exists'.mp occupied
          have sameItem := undisturbed tag tagged pending kept
          have incomplete := sound.shelved tag pending (retained_eq_some kept)
          obtain ⟨number, listed⟩ := exists_mem_of_ne_nil _ incomplete.nonempty
          apply nothing number
          rw [← sameItem]
          exact (incomplete.parts number listed).2
        rw [Layout.extended, free]
        refine ⟨rfl, early, ?_⟩
        intro number listed
        rcases mem_cons.mp listed with new | old
        · cases new
          exact mem_cons_self
        · exact absurd old (nothing number)
      · cases tagged.symm.trans tagged'
        have kept' : layout.retained collection.shelf part.now tag =
            some pending := retained_of_young found (by omega)
        rw [Layout.extended, kept', getD_some]
        refine ⟨sameItem, since, ?_⟩
        intro number listed
        rcases mem_cons.mp listed with new | old
        · cases new
          exact mem_cons_self
        · exact mem_cons_of_mem _ (kept number old)
    obtain ⟨sameItem, since, kept⟩ := holds
    rcases outcome with ⟨-, result⟩ | ⟨-, result⟩ <;> rw [result]
    · left
      rw [sameItem]
      exact mem_append_right _ (mem_singleton_self _)
    · right
      right
      exact ⟨tag, extended, tagged, update_self _ _ _, sameItem, since, kept⟩

theorem InHand.collect_other [DecidableEq τ] (inHand : InHand layout start fed item collection)
    (undisturbed : layout.Undisturbed collection part)
    (other : part.item ≠ item) (lasting : 0 < layout.lifetime)
    (late : part.now < start + layout.lifetime) :
    InHand layout start ((part.item, part.number) :: fed) item
      (layout.collect collection part) := by
  have sameParts : ∀ number, (item, number) ∈ (part.item, part.number) :: fed →
        (item, number) ∈ fed := by
    intro number listed
    rcases mem_cons.mp listed with new | old
    · exact absurd (congrArg Prod.fst new).symm other
    · exact old
  rcases inHand with completed | nothing | ⟨tag, pending, tagged, found, sameItem, since, kept⟩
  · exact Or.inl (mem_completed_collect completed)
  · refine Or.inr (Or.inl fun number listed => ?_)
    exact nothing number (sameParts number listed)
  · refine Or.inr (Or.inr ⟨tag, pending, tagged, ?_, sameItem, since,
      fun number listed => kept number (sameParts number listed)⟩)
    have young : layout.retained collection.shelf part.now tag =
        some pending := retained_of_young found (by omega)
    rcases layout.collect_cases collection part with
      ⟨-, result⟩ | ⟨tag', extended, tagged', -, outcome⟩
    · rw [result]
      exact found
    · have differ : tag ≠ tag' := by
        rintro rfl
        have same := undisturbed tag tagged' pending young
        exact other (same.symm.trans sameItem)
      rcases outcome with ⟨-, result⟩ | ⟨-, result⟩ <;> rw [result] <;>
        exact (update_of_ne differ _ _).trans young

/-! ## Runs -/

section Runs

variable [DecidableEq τ] {parts : List (Part ι)}

structure Fresh (layout : Layout ι τ) (fed : List (ι × ℕ))
    (parts : List (Part ι)) : Prop where
  new : ∀ part ∈ parts, (part.item, part.number) ∉ fed
  distinct : parts.Pairwise fun part later =>
    (part.item, part.number) ≠ (later.item, later.number)
  valid : ∀ part ∈ parts, part.number < layout.total part.item

omit [DecidableEq τ] in
theorem Fresh.tail (fresh : Fresh layout fed (part :: parts)) :
    Fresh layout ((part.item, part.number) :: fed) parts where
  new later listed := by
    rw [mem_cons, not_or]
    exact ⟨(rel_of_pairwise_cons fresh.distinct listed).symm,
      fresh.new later (mem_cons_of_mem _ listed)⟩
  distinct := fresh.distinct.of_cons
  valid later listed := fresh.valid later (mem_cons_of_mem _ listed)

omit [DecidableEq τ] in
theorem Fresh.cons (new : (part.item, part.number) ∉ fed)
    (valid : part.number < layout.total part.item)
    (rest : Fresh layout ((part.item, part.number) :: fed) parts) :
    Fresh layout fed (part :: parts) where
  new later listed := by
    rcases mem_cons.mp listed with rfl | inRest
    · exact new
    · exact fun old => rest.new later inRest (mem_cons_of_mem _ old)
  distinct := by
    refine List.Pairwise.cons ?_ rest.distinct
    intro later inRest same
    exact rest.new later inRest (same ▸ mem_cons_self)
  valid later listed := by
    rcases mem_cons.mp listed with rfl | inRest
    · exact valid
    · exact rest.valid later inRest

theorem Sound.run (sound : layout.Sound fed collection) (fresh : Fresh layout fed parts)
    (undisturbed : Admissible layout.Undisturbed layout.collect collection parts) : layout.Sound
      ((parts.map fun part => (part.item, part.number)).reverse ++ fed)
      (run layout.collect collection parts) := by
  induction parts generalizing fed collection with
  | nil => exact sound
  | cons part rest ih =>
    have next := sound.collect undisturbed.1
      (fresh.new part mem_cons_self) (fresh.valid part mem_cons_self)
    rw [map_cons, reverse_cons, append_assoc]
    exact ih next fresh.tail undisturbed.2

theorem mem_completed_run (parts : List (Part ι)) (listed : item ∈ collection.completed) :
    item ∈ (run layout.collect collection parts).completed := by
  induction parts generalizing collection with
  | nil => exact listed
  | cons part rest ih => exact ih (mem_completed_collect listed)

/-- An item is completed when all of its parts come, each of them less than the
lifetime after a start. -/
theorem InHand.run (inHand : InHand layout start fed item collection)
    (sound : layout.Sound fed collection) (fresh : Fresh layout fed parts)
    (undisturbed : Admissible layout.Undisturbed layout.collect collection parts)
    (ordered : parts.Pairwise fun part later => part.now ≤ later.now)
    (inTime : ∀ part ∈ parts, part.item = item →
      start ≤ part.now ∧ part.now < start + layout.lifetime) (positive : 0 < layout.total item)
    (all : ∀ number < layout.total item, (item, number) ∈ fed ∨
      ∃ part ∈ parts, part.item = item ∧ part.number = number) :
    item ∈ (run layout.collect collection parts).completed := by
  induction parts generalizing fed collection with
  | nil =>
    apply inHand.completed sound positive
    intro number isBelow
    rcases all number isBelow with came | ⟨_, listed, _⟩
    · exact came
    · cases listed
  | cons part rest ih =>
    by_cases came : ∀ number < layout.total item, (item, number) ∈ fed
    · exact mem_completed_run _ (inHand.completed sound positive came)
    · -- A part is still to come, so this one is not too late.
      simp only [not_forall] at came
      obtain ⟨number, isBelow, notYet⟩ := came
      obtain ⟨later, listed, ofItem, _⟩ := (all number isBelow).resolve_left notYet
      have lasting : 0 < layout.lifetime := by
        have bounds := inTime later listed ofItem
        omega
      have late : part.now < start + layout.lifetime := by
        have bound := (inTime later listed ofItem).2
        rcases mem_cons.mp listed with rfl | inRest
        · exact bound
        · exact lt_of_le_of_lt (rel_of_pairwise_cons ordered inRest) bound
      have next : InHand layout start ((part.item, part.number) :: fed) item
          (layout.collect collection part) := by
        by_cases own : part.item = item
        · subst own
          exact inHand.collect_own sound undisturbed.1 (inTime part mem_cons_self rfl).1 late
        · exact inHand.collect_other undisturbed.1 own lasting late
      apply ih next (sound.collect undisturbed.1 (fresh.new part mem_cons_self)
          (fresh.valid part mem_cons_self)) fresh.tail undisturbed.2
        ordered.of_cons
        (forall_mem_cons.mp inTime).2
      intro number isBelow
      rcases all number isBelow with came | ⟨arrived, listed, ofItem, rfl⟩
      · exact Or.inl (mem_cons_of_mem _ came)
      · rcases mem_cons.mp listed with rfl | inRest
        · rw [ofItem]
          exact Or.inl mem_cons_self
        · exact Or.inr ⟨arrived, inRest, ofItem, rfl⟩

end Runs

end Layout

end Reassembly
