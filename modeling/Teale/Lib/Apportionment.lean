import Mathlib.Algebra.Order.BigOperators.Group.List
import Mathlib.Data.Int.Order.Basic
import Mathlib.Data.List.Sort
import Mathlib.Tactic.Linarith

/-!
# Largest-remainder apportionment

Every weight first takes its exact share rounded down, and the units left over go, one each, to
the largest remainders. When the spend does not exceed the total weight, no weight is asked for
more than itself.
-/

namespace Apportionment

open List

def floorShare (spend total weight : ℤ) : ℤ := spend * weight / total

def residue (spend total weight : ℤ) : ℤ := spend * weight % total

variable {spend total : ℤ} {weight : ℤ}

theorem floorShare_nonneg (spendNonneg : 0 ≤ spend) (totalPos : 0 < total)
    (weightNonneg : 0 ≤ weight) : 0 ≤ floorShare spend total weight :=
  Int.ediv_nonneg (mul_nonneg spendNonneg weightNonneg) totalPos.le

theorem residue_nonneg (totalPos : 0 < total) (weight : ℤ) : 0 ≤ residue spend total weight :=
  Int.emod_nonneg _ totalPos.ne'

theorem residue_lt (spend : ℤ) (totalPos : 0 < total) (weight : ℤ) :
    residue spend total weight < total :=
  Int.emod_lt_of_pos _ totalPos

theorem floorShare_le_weight (spendLe : spend ≤ total) (totalPos : 0 < total)
    (weightNonneg : 0 ≤ weight) : floorShare spend total weight ≤ weight := by
  have product : spend * weight ≤ weight * total := by
    rw [mul_comm weight total]
    exact mul_le_mul_of_nonneg_right spendLe weightNonneg
  exact Int.ediv_le_of_le_mul totalPos product

theorem floorShare_lt_weight (spendLe : spend ≤ total) (totalPos : 0 < total)
    (weightNonneg : 0 ≤ weight) (cut : 0 < residue spend total weight) :
    floorShare spend total weight < weight := by
  have division : total * floorShare spend total weight +
      residue spend total weight = spend * weight :=
    Int.mul_ediv_add_emod _ _
  have product : spend * weight ≤ total * weight := mul_le_mul_of_nonneg_right spendLe weightNonneg
  have below : total * floorShare spend total weight < total * weight := by linarith
  exact lt_of_mul_lt_mul_left below totalPos.le

/-- Numbers of a limited size hold the share and the remainder, and those of twice its width the
product. -/
theorem fits (limit : ℤ) (spendNonneg : 0 ≤ spend) (spendLe : spend ≤ total) (totalPos : 0 < total)
    (weightNonneg : 0 ≤ weight) (weightLe : weight ≤ total) (small : total < limit) :
    spend * weight < limit * limit ∧ 0 ≤ floorShare spend total weight ∧
      floorShare spend total weight < limit ∧ 0 ≤ residue spend total weight ∧
      residue spend total weight < limit := by
  have share := floorShare_le_weight spendLe totalPos weightNonneg
  refine ⟨?_, floorShare_nonneg spendNonneg totalPos weightNonneg, by omega,
    residue_nonneg totalPos weight, (residue_lt spend totalPos weight).trans small⟩
  exact mul_lt_mul'' (by omega) (by omega) spendNonneg weightNonneg

/-! ## What is left over -/

theorem sum_residue (spend total : ℤ) (weights : List ℤ) :
    total * (weights.map (floorShare spend total)).sum + (weights.map (residue spend total)).sum =
      spend * weights.sum := by
  induction weights with
  | nil => simp
  | cons weight rest ih =>
    have division : total * floorShare spend total weight +
        residue spend total weight = spend * weight :=
      Int.mul_ediv_add_emod _ _
    simp only [map_cons, sum_cons, mul_add]
    linarith

theorem leftover_nonneg {weights : List ℤ} (totalPos : 0 < total) (isTotal : weights.sum = total) :
    0 ≤ spend - (weights.map (floorShare spend total)).sum := by
  have residues := sum_residue spend total weights
  have residuesNonneg : 0 ≤ (weights.map (residue spend total)).sum := by
    refine sum_nonneg ?_
    simp only [mem_map, forall_exists_index, and_imp]
    rintro _ weight _ rfl
    exact residue_nonneg totalPos weight
  have scaled : 0 ≤ total * (spend - (weights.map (floorShare spend total)).sum) := by
    rw [isTotal] at residues
    linarith [mul_comm spend total]
  exact nonneg_of_mul_nonneg_right scaled totalPos

theorem sum_residue_le_countP (spend : ℤ) (totalPos : 0 < total) (weights : List ℤ) :
    (weights.map (residue spend total)).sum ≤
      total * weights.countP fun weight => 0 < residue spend total weight := by
  induction weights with
  | nil => simp
  | cons weight rest ih =>
    have upper := residue_lt spend totalPos weight
    rw [map_cons, sum_cons, countP_cons]
    by_cases positive : 0 < residue spend total weight
    · simp only [positive, decide_true, if_true]
      push_cast
      linarith
    · simp only [positive, decide_false]
      push_cast
      linarith

theorem leftover_le_countP
    (spend : ℤ) {weights : List ℤ} (totalPos : 0 < total) (isTotal : weights.sum = total) :
    spend - (weights.map (floorShare spend total)).sum ≤
      weights.countP fun weight => 0 < residue spend total weight := by
  have residues := sum_residue spend total weights
  have bound := sum_residue_le_countP spend totalPos weights
  rw [isTotal] at residues
  refine le_of_mul_le_mul_left ?_ totalPos
  linarith [mul_comm spend total]

theorem pos_of_mem_take_of_sorted {α : Type*} {value : α → ℤ} {items : List α}
    (sorted : items.Pairwise fun left right => value right ≤ value left)
    {count : ℕ} (enough : count ≤ items.countP fun item => 0 < value item)
    {item : α} (chosen : item ∈ items.take count) : 0 < value item := by
  rw [← take_append_drop count items] at sorted enough
  by_contra notPos
  have nonePos : (items.drop count).countP (fun item => 0 < value item) = 0 := by
    rw [countP_eq_zero]
    intro other later
    have := (pairwise_append.mp sorted).2.2 item chosen other later
    simp only [decide_eq_true_eq]
    omega
  rw [countP_append, nonePos, add_zero] at enough
  have allPos := countP_eq_length.mp
    (Nat.le_antisymm countP_le_length ((length_take_le count items).trans enough))
  simpa [notPos] using allPos item chosen

end Apportionment
