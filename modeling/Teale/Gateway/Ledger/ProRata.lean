import Teale.Gateway.Ledger.ShareKeys
import Teale.Lib.Apportionment

/-!
# The pro-rata spend is exact

The reductions of a spend the contributions can cover add up to the spend, and
none of them exceeds the contribution it is taken from.
-/

namespace Teale.Gateway

open Relational Apportionment List Option Reduction

/-! ## The order of the leftover -/

theorem Reduction.precedes_total (left right : Reduction) :
    left.precedes right ∨ right.precedes left := by
  unfold precedes
  rcases lt_trichotomy left.remainder right.remainder with less | same | more
  · exact .inr (.inl less)
  · rcases lt_trichotomy left.createdAt right.createdAt with
      older | sameAge | younger
    · exact .inl (.inr ⟨same, .inl older⟩)
    · rcases String.le_total left.contributionId right.contributionId with
        smaller | larger
      · exact .inl (.inr ⟨same, .inr ⟨sameAge, smaller⟩⟩)
      · exact .inr (.inr ⟨same.symm, .inr ⟨sameAge.symm, larger⟩⟩)
    · exact .inr (.inr ⟨same.symm, .inl younger⟩)
  · exact .inl (.inl more)

theorem Reduction.precedes_trans {first second third : Reduction}
    (before : first.precedes second) (after : second.precedes third) : first.precedes third := by
  unfold precedes at *
  rcases before with more | ⟨same, tie⟩
  · rcases after with more' | ⟨same', -⟩
    · exact .inl (more'.trans more)
    · exact .inl (same' ▸ more)
  · rcases after with more' | ⟨same', tie'⟩
    · exact .inl (same ▸ more')
    · refine .inr ⟨same.trans same', ?_⟩
      rcases tie with older | ⟨sameAge, smaller⟩
      · rcases tie' with older' | ⟨sameAge', -⟩
        · exact .inl (older.trans older')
        · exact .inl (sameAge' ▸ older)
      · rcases tie' with older' | ⟨sameAge', smaller'⟩
        · exact .inl (sameAge ▸ older')
        · exact .inr ⟨sameAge.trans sameAge', String.le_trans smaller smaller'⟩

theorem Reduction.remainder_le_of_precedes {left right : Reduction} (before : left.precedes right) :
    right.remainder ≤ left.remainder := by
  rcases before with more | ⟨same, -⟩
  · exact more.le
  · exact same.ge

def sortedReductions (reductions : List Reduction) : List (Reduction × ℕ) :=
  reductions.zipIdx.insertionSort fun left right => left.1.precedes right.1

variable (reductions : List Reduction)

theorem leftoverOrder_eq :
    leftoverOrder reductions = (sortedReductions reductions).map Prod.snd := rfl

theorem sortedReductions_sorted : (sortedReductions reductions).Pairwise fun left right =>
      right.1.remainder ≤ left.1.remainder := by
  have total : Std.Total fun left right : Reduction × ℕ =>
      left.1.precedes right.1 :=
    ⟨fun left right => left.1.precedes_total right.1⟩
  have trans : IsTrans (Reduction × ℕ) fun left right =>
      left.1.precedes right.1 :=
    ⟨fun _ _ _ before after => precedes_trans before after⟩
  exact (pairwise_insertionSort _ _).imp remainder_le_of_precedes

theorem leftoverOrder_perm : (leftoverOrder reductions).Perm (List.range reductions.length) := by
  have perm := (perm_insertionSort (fun left right : Reduction × ℕ => left.1.precedes right.1)
    reductions.zipIdx).map Prod.snd
  rw [zipIdx_map_snd] at perm
  rwa [leftoverOrder, range_eq_range']

theorem leftoverOrder_nodup : (leftoverOrder reductions).Nodup :=
  (leftoverOrder_perm reductions).nodup_iff.mpr nodup_range

theorem lt_length_of_mem_leftoverOrder {reductions : List Reduction} {position : ℕ}
    (member : position ∈ leftoverOrder reductions) : position < reductions.length :=
  mem_range.mp ((leftoverOrder_perm reductions).mem_iff.mp member)

/-! ## Handing out the leftover -/

def Reduction.increment (reduction : Reduction) (units : ℤ) : Reduction :=
  { reduction with amount := reduction.amount + units }

theorem getElem?_spreadLeftover (nodup : order.Nodup) (nonneg : 0 ≤ leftover)
    (reductions : List Reduction) (position : ℕ) :
    (spreadLeftover leftover order reductions)[position]? =
      reductions[position]?.map fun reduction =>
        reduction.increment (if position ∈ order.take leftover.toNat then 1 else 0) := by
  induction order generalizing leftover reductions with
  | nil => simp [spreadLeftover, increment]
  | cons first rest ih =>
    obtain ⟨fresh, restNodup⟩ := nodup_cons.mp nodup
    by_cases done : leftover = 0
    · simp [spreadLeftover, done, increment]
    · have positive : leftover.toNat = (leftover - 1).toNat + 1 := by omega
      rw [spreadLeftover, if_neg done, ih restNodup (by omega), getElem?_modify,
        positive, take_succ_cons]
      generalize (leftover - 1).toNat = count
      by_cases here : first = position
      · have notLater : position ∉ rest.take count :=
          fun later => fresh (here ▸ mem_of_mem_take later)
        cases reductions[position]? <;> simp [here, notLater, increment]
      · have other : position ≠ first := fun equal => here equal.symm
        cases reductions[position]? <;> simp [here, other, increment]

theorem length_spreadLeftover (leftover : ℤ) (order : List ℕ) (reductions : List Reduction) :
    (spreadLeftover leftover order reductions).length = reductions.length := by
  induction order generalizing leftover reductions with
  | nil => rfl
  | cons first rest ih =>
    rw [spreadLeftover]
    split
    · rfl
    · rw [ih, length_modify]

theorem sum_amount_modify (inside : position < reductions.length) :
    ((reductions.modify position fun reduction =>
        { reduction with amount := reduction.amount + 1 }).map amount).sum =
      (reductions.map amount).sum + 1 := by
  induction reductions generalizing position with
  | nil => simp at inside
  | cons head tail ih =>
    cases position with
    | zero =>
      simp only [modify_zero_cons, map_cons, sum_cons]
      omega
    | succ position =>
      rw [length_cons, Nat.succ_lt_succ_iff] at inside
      rw [modify_succ_cons, map_cons, sum_cons,
        ih inside, map_cons, sum_cons]
      omega

theorem sum_amount_spreadLeftover {order : List ℕ} {leftover : ℤ} (nonneg : 0 ≤ leftover)
    (enough : leftover ≤ order.length) (reductions : List Reduction)
    (inside : ∀ position ∈ order, position < reductions.length) :
    ((spreadLeftover leftover order reductions).map amount).sum =
      (reductions.map amount).sum + leftover := by
  induction order generalizing leftover reductions with
  | nil =>
    have : leftover = 0 := by
      simp only [length_nil, Nat.cast_zero] at enough
      omega
    simp [spreadLeftover, this]
  | cons first rest ih =>
    by_cases done : leftover = 0
    · simp [spreadLeftover, done]
    · have firstInside := inside first mem_cons_self
      rw [length_cons] at enough
      push_cast at enough
      rw [spreadLeftover, if_neg done, ih (by omega)
        (by omega), sum_amount_modify reductions firstInside]
      · omega
      · intro position member
        rw [length_modify]
        exact inside position (mem_cons_of_mem first member)

/-! ## The reductions of a covered spend -/

section Covered

variable {spend : ℤ} {contributions : List (String × ContributionRow)}

def weights (contributions : List (String × ContributionRow)) : List ℤ :=
  contributions.map fun row => row.2.remainingCredits

theorem map_amount_floorReductions (spend total : ℤ) :
    (floorReductions spend total contributions).map amount =
      (weights contributions).map (floorShare spend total) := by
  simp [floorReductions, weights, floorShare, Function.comp_def]

theorem getElem?_floorReductions (spend total : ℤ) (position : ℕ) :
    (floorReductions spend total contributions)[position]? = contributions[position]?.map fun row =>
        { contributionId := row.1
          amount := floorShare spend total row.2.remainingCredits
          remainder := residue spend total row.2.remainingCredits
          createdAt := row.2.createdAt } := by
  simp [floorReductions, floorShare, residue]

def leftover (spend : ℤ) (contributions : List (String × ContributionRow)) : ℤ :=
  spend - ((weights contributions).map (floorShare spend (weights contributions).sum)).sum

theorem proRataReductions_eq_spreadLeftover (totalPos : 0 < (weights contributions).sum) :
    proRataReductions spend contributions = spreadLeftover (leftover spend contributions)
        (leftoverOrder (floorReductions spend (weights contributions).sum contributions))
        (floorReductions spend (weights contributions).sum contributions) := by
  have nonneg : 0 ≤ leftover spend contributions := leftover_nonneg totalPos rfl
  have sameLeftover : spend - ((floorReductions spend (weights contributions).sum
        contributions).map amount).sum =
        leftover spend contributions := by
    rw [map_amount_floorReductions, leftover]
  unfold proRataReductions
  rw [show (contributions.map fun row => row.2.remainingCredits) = weights contributions from rfl]
  simp only [sameLeftover]
  split
  case isTrue => rfl
  case isFalse none =>
    have zero : leftover spend contributions = 0 := by omega
    rw [zero]
    cases leftoverOrder (floorReductions spend (weights contributions).sum
      contributions) <;> simp [spreadLeftover]

theorem leftover_le_countP_remainder (spend : ℤ) (totalPos : 0 < (weights contributions).sum) :
    (leftover spend contributions).toNat ≤
      (sortedReductions (floorReductions spend (weights contributions).sum
        contributions)).countP fun item => 0 < item.1.remainder := by
  have bound := leftover_le_countP spend totalPos rfl
  have sameCount : (sortedReductions (floorReductions spend (weights contributions).sum
        contributions)).countP (fun item => 0 < item.1.remainder) =
      (weights contributions).countP fun weight =>
        0 < residue spend (weights contributions).sum weight := by
    rw [sortedReductions, (perm_insertionSort _ _).countP_eq]
    have unindexed := countP_map (p := fun reduction : Reduction =>
      decide (0 < reduction.remainder)) (f := Prod.fst) (l :=
        (floorReductions spend (weights contributions).sum contributions).zipIdx)
    rw [zipIdx_map_fst] at unindexed
    rw [show (fun item : Reduction × ℕ => decide (0 < item.1.remainder)) =
      (fun reduction : Reduction => decide (0 < reduction.remainder)) ∘ Prod.fst
        from rfl, ← unindexed, floorReductions, countP_map]
    conv_rhs => rw [weights, countP_map]
    rfl
  simp only [leftover] at bound ⊢
  omega

theorem sum_amount_proRataReductions (totalPos : 0 < (weights contributions).sum) :
    ((proRataReductions spend contributions).map Reduction.amount).sum = spend := by
  have nonneg : 0 ≤ leftover spend contributions := leftover_nonneg totalPos rfl
  have enough : leftover spend contributions ≤ (leftoverOrder
      (floorReductions spend (weights contributions).sum contributions)).length := by
    have counted := leftover_le_countP_remainder spend totalPos
    have := counted.trans countP_le_length
    rw [leftoverOrder_eq, length_map]
    omega
  rw [proRataReductions_eq_spreadLeftover totalPos, sum_amount_spreadLeftover nonneg enough _
      fun position => lt_length_of_mem_leftoverOrder,
    map_amount_floorReductions, leftover]
  omega

theorem length_proRataReductions (spend : ℤ) (totalPos : 0 < (weights contributions).sum) :
    (proRataReductions spend contributions).length = contributions.length := by
  rw [proRataReductions_eq_spreadLeftover totalPos, length_spreadLeftover,
    floorReductions, length_map]

theorem amount_mem_proRataReductions (totalPos : 0 < (weights contributions).sum)
    (spendNonneg : 0 ≤ spend) (spendLe : spend ≤ (weights contributions).sum)
    (member : entry ∈ contributions.zip (proRataReductions spend contributions)) :
    let share := floorShare spend (weights contributions).sum entry.1.2.remainingCredits
    0 ≤ entry.2.amount ∧ entry.2.amount ≤ entry.1.2.remainingCredits ∧
      share ≤ entry.2.amount ∧ entry.2.amount ≤ share + 1 := by
  obtain ⟨position, atPosition⟩ := mem_iff_getElem?.mp member
  obtain ⟨atContribution, atReduction⟩ := getElem?_zip_eq_some.mp atPosition
  have nonneg : 0 ≤ leftover spend contributions := leftover_nonneg totalPos rfl
  rw [proRataReductions_eq_spreadLeftover totalPos,
    getElem?_spreadLeftover (leftoverOrder_nodup _) nonneg,
    getElem?_floorReductions, atContribution] at atReduction
  simp only [map_some, some.injEq] at atReduction
  have remainingNonneg := entry.1.2.remainingNonneg
  have floorNonneg := floorShare_nonneg spendNonneg totalPos remainingNonneg
  rw [← atReduction]
  simp only [increment]
  split
  case isFalse =>
    have := floorShare_le_weight spendLe totalPos remainingNonneg
    omega
  case isTrue chosen =>
    rw [leftoverOrder_eq, ← map_take] at chosen
    obtain ⟨item, itemChosen, itemPosition⟩ := mem_map.mp chosen
    have cut := pos_of_mem_take_of_sorted (sortedReductions_sorted _)
      (leftover_le_countP_remainder spend totalPos) itemChosen
    have itemMember : item ∈ (floorReductions spend (weights contributions).sum
        contributions).zipIdx :=
      (perm_insertionSort _ _).mem_iff.mp (mem_of_mem_take itemChosen)
    rw [mem_zipIdx_iff_getElem?, itemPosition, getElem?_floorReductions,
      atContribution] at itemMember
    simp only [map_some, some.injEq] at itemMember
    rw [← itemMember] at cut
    have := floorShare_lt_weight spendLe totalPos remainingNonneg cut
    omega

end Covered

end Teale.Gateway
