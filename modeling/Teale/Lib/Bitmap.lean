import Mathlib.Algebra.Order.Ring.Nat
import Mathlib.Tactic.Common

/-!
# Bitmaps

A set of positions stored in an array of machine words: position `p` is bit `p % w` of word `p /
w`. The whole set is moved up in two parts, by words and by bits.
-/

namespace Bitmap

open Option Nat Vector

variable {position bit last : ℕ}

variable {w n : ℕ}

/-- `n` words of `w` bits. -/
abbrev Words (w n : ℕ) := Vector (BitVec w) n

def has (words : Words w n) (position : ℕ) : Bool :=
  ((words[position / w]?).getD 0).getLsbD (position % w)

variable (words : Words w n)

theorem has_eq_getLsbD (fits : position / w < n) :
    has words position = words[position / w].getLsbD (position % w) := by
  rw [has, getElem?_eq_getElem fits, getD_some]

theorem has_of_word_ge (beyond : n ≤ position / w) : has words position = false := by
  rw [has, getElem?_eq_none beyond, getD_none]
  exact BitVec.getLsbD_zero

@[simp] theorem has_zero (position : ℕ) :
    has (replicate n (0 : BitVec w)) position = false := by
  by_cases fits : position / w < n
  · rw [has_eq_getLsbD _ fits, getElem_replicate]
    exact BitVec.getLsbD_zero
  · exact has_of_word_ge _ (Nat.le_of_not_lt fits)

/-! ## Single bits -/

theorem getLsbD_mask (fits : bit < w) (other : ℕ) :
    ((1 : BitVec w) <<< bit).getLsbD other = decide (other = bit) := by
  by_cases same : other = bit
  · subst same
    simp [fits]
  · by_cases below : other < bit
    · simp [below, same]
    · have above : other - bit ≠ 0 := by omega
      simp [same, above]

theorem and_mask_ne_zero_iff (word : BitVec w) (fits : bit < w) :
    word &&& (1 : BitVec w) <<< bit ≠ 0 ↔ word.getLsbD bit = true := by
  constructor
  · intro overlaps
    by_contra unset
    apply overlaps
    apply BitVec.eq_of_getLsbD_eq
    intro other _
    rw [BitVec.getLsbD_and, getLsbD_mask fits]
    by_cases same : other = bit
    · rw [same, Bool.eq_false_iff.mpr unset, Bool.false_and]
      exact BitVec.getLsbD_zero.symm
    · simp [same]
  · intro isSet vanishes
    have masked := congrArg (fun bits => bits.getLsbD bit) vanishes
    rw [BitVec.getLsbD_and, getLsbD_mask fits] at masked
    simp [isSet] at masked

def test (words : Words w n) (word bit : ℕ) : Bool :=
  (words[word]?).getD 0 &&& (1 : BitVec w) <<< bit ≠ 0

def mark (words : Words w n) (word bit : ℕ) : Words w n :=
  words.setIfInBounds word ((words[word]?).getD 0 ||| (1 : BitVec w) <<< bit)

theorem test_eq_has (positive : 0 < w) (words : Words w n) (position : ℕ) :
    test words (position / w) (position % w) = has words position := by
  rw [test, has, Bool.eq_iff_iff, decide_eq_true_iff]
  exact and_mask_ne_zero_iff _ (mod_lt _ positive)

theorem has_mark (fits : added < n * w) (position : ℕ) :
    has (mark words (added / w) (added % w)) position =
      (decide (position = added) || has words position) := by
  have positive : 0 < w := by
    rcases Nat.eq_zero_or_pos w with none | positive
    · rw [none, Nat.mul_zero] at fits
      omega
    · exact positive
  have wordFits : added / w < n := Nat.div_lt_of_lt_mul (by rwa [Nat.mul_comm])
  have bitFits : added % w < w := mod_lt _ positive
  have whole := div_add_mod' position w
  have addedWhole := div_add_mod' added w
  rw [mark, has, has, getElem?_setIfInBounds]
  by_cases sameWord : added / w = position / w
  · have located : position = added ↔ position % w = added % w := by
      rw [sameWord] at addedWhole
      omega
    rw [if_pos sameWord, if_pos wordFits, getD_some, sameWord,
      BitVec.getLsbD_or, getLsbD_mask bitFits, Bool.or_comm]
    simp only [located]
  · have different : position ≠ added := by
      rintro rfl
      exact sameWord rfl
    rw [if_neg sameWord, decide_eq_false different, Bool.false_or]

/-! ## Loops that move words -/

section Sweep

variable {α : Type}

/-- `for i in (first..last).rev()`, with a round that stores in slot `i`. -/
def sweepDown (first : ℕ) (value : Vector α n → Fin n → α) :
    (last : ℕ) → last ≤ n → Vector α n → Vector α n
  | 0, _, slots => slots
  | last + 1, fits, slots =>
    if first ≤ last then
      sweepDown first value last (Nat.le_of_succ_le fits)
        (slots.set last (value slots ⟨last, fits⟩))
    else
      slots

theorem get_set (slots : Vector α n) (fits : last < n) (stored : α) (index : Fin n) :
    (slots.set last stored).get index =
      if last = index then stored else slots.get index :=
  getElem_set fits index.isLt

theorem get_sweepDown (first : ℕ) (value : Vector α n → Fin n → α)
    (readsBelow : ∀ (slots slots' : Vector α n) (index : Fin n),
      (∀ lower ≤ index, slots.get lower = slots'.get lower) →
        value slots index = value slots' index)
    (fits : last ≤ n) (slots : Vector α n) (index : Fin n) :
    (sweepDown first value last fits slots).get index =
      if first ≤ index ∧ index < last then value slots index
      else slots.get index := by
  induction last generalizing slots with
  | zero => simp [sweepDown]
  | succ last ih =>
    rw [sweepDown]
    by_cases inside : first ≤ last
    · rw [if_pos inside, ih]
      by_cases below : (index : ℕ) < last
      · -- The slot just stored lies above the ones still to be read.
        have unread : value (slots.set last (value slots ⟨last, fits⟩)) index =
            value slots index := by
          apply readsBelow
          intro lower isLower
          have apart : last ≠ lower := by
            omega
          rw [get_set _ fits, if_neg apart]
        have apart : last ≠ index := by omega
        have same : (first ≤ index ∧ (index : ℕ) < last + 1) ↔
            (first ≤ index ∧ (index : ℕ) < last) := by omega
        rw [unread, get_set _ fits, if_neg apart]
        simp only [same]
      · have done : ¬ (first ≤ index ∧ (index : ℕ) < last) := by omega
        rw [if_neg done, get_set _ fits]
        by_cases here : last = index
        · have reached : first ≤ index ∧ (index : ℕ) < last + 1 := by omega
          rw [if_pos here, if_pos reached]
          congr 1
          exact Fin.ext here
        · have above : ¬ (first ≤ index ∧ (index : ℕ) < last + 1) := by omega
          rw [if_neg here, if_neg above]
    · have outside : ¬ (first ≤ index ∧ (index : ℕ) < last + 1) := by omega
      rw [if_neg inside, if_neg outside]

end Sweep

/-! ## Moving the set up -/

theorem has_eq_get (fits : position / w < n) :
    has words position = (words.get ⟨position / w, fits⟩).getLsbD (position % w) :=
  has_eq_getLsbD words fits

theorem has_at (index : Fin n) (fits : bit < w) :
    has words (index * w + bit) = (words.get index).getLsbD bit := by
  have word : (index * w + bit) / w = index := by
    rw [Nat.add_comm, add_mul_div_right _ _ (by omega), div_eq_of_lt fits, Nat.zero_add]
  have remainder : (index * w + bit) % w = bit := by
    rw [Nat.add_comm, add_mul_mod_self_right, mod_eq_of_lt fits]
  have wordFits : (index * w + bit) / w < n := by
    rw [word]
    exact index.isLt
  rw [has_eq_get words wordFits, remainder]
  congr 2
  exact Fin.ext word

/-- Move every word up by `shift` slots and clear the slots below. -/
def moveWords (words : Words w n) (shift : ℕ) : Words w n :=
  (sweepDown shift (fun slots index => slots.get ⟨index - shift, by omega⟩) n le_rfl words).mapIdx
      fun index slot => if index < min shift n then 0 else slot

theorem get_moveWords (shift : ℕ) (index : Fin n) : (moveWords words shift).get index =
      if index < shift then 0 else words.get ⟨index - shift, by omega⟩ := by
  have swept := get_sweepDown shift
    (fun (slots : Words w n) index => slots.get ⟨index - shift, by omega⟩)
    (fun _ _ _ agree => agree _ (Fin.le_def.mpr (sub_le _ _)))
    (le_refl n) words index
  refine (getElem_mapIdx index.isLt).trans ?_
  by_cases below : (index : ℕ) < shift
  · rw [if_pos (by omega), if_pos below]
  · rw [if_neg (by omega), if_neg below]
    refine swept.trans (if_pos ?_)
    omega

theorem has_moveWords (positive : 0 < w) (words : Words w n) (shift : ℕ)
    (fits : position < n * w) : has (moveWords words shift) position =
      (decide (shift * w ≤ position) && has words (position - shift * w)) := by
  have wordFits : position / w < n := Nat.div_lt_of_lt_mul (by rwa [Nat.mul_comm])
  have reaches : shift * w ≤ position ↔ shift ≤ position / w :=
    (Nat.le_div_iff_mul_le positive).symm
  rw [has_eq_get _ wordFits, get_moveWords]
  by_cases inside : shift ≤ position / w
  · have word : (position - shift * w) / w = position / w - shift := by
      rw [Nat.mul_comm, sub_mul_div]
    have bit : (position - shift * w) % w = position % w := by
      rw [Nat.mul_comm, sub_mul_mod (by rwa [Nat.mul_comm, reaches])]
    have sourceFits : (position - shift * w) / w < n := by omega
    have source : (⟨position / w - shift, by omega⟩ : Fin n) =
        ⟨(position - shift * w) / w, sourceFits⟩ := Fin.ext word.symm
    rw [has_eq_get words sourceFits, bit, if_neg (by simp only; omega), source]
    simp [reaches, inside]
  · rw [if_pos (by simp only; omega)]
    simp [reaches, inside]

/-- Move the bits of every word up, those that leave the word below coming
in. -/
def moveBits (words : Words w n) (shift : ℕ) : Words w n :=
  let moved : Words w n := sweepDown 1 (fun slots index =>
    slots.get index <<< shift ||| slots.get ⟨index - 1, by omega⟩ >>> (w - shift)) n le_rfl words
  moved.setIfInBounds 0 (((moved[0]?).getD 0 : BitVec w) <<< shift)

theorem get_moveBits (shift : ℕ) (index : Fin n) : (moveBits words shift).get index =
      if (index : ℕ) = 0 then words.get index <<< shift
      else words.get index <<< shift ||| words.get ⟨index - 1, by omega⟩ >>> (w - shift) := by
  have swept := get_sweepDown 1 (fun (slots : Words w n) index => slots.get index <<< shift |||
      slots.get ⟨index - 1, by omega⟩ >>> (w - shift))
    (fun slots slots' index agree => by
      rw [agree index (Fin.le_def.mpr le_rfl), agree _ (Fin.le_def.mpr (sub_le _ _))])
    (le_refl n) words index
  refine (getElem_setIfInBounds index.isLt).trans ?_
  by_cases lowest : (index : ℕ) = 0
  · have kept := swept.trans (if_neg (by omega))
    rw [if_pos lowest.symm, if_pos lowest, getElem?_eq_getElem (by omega), getD_some]
    simp only [← lowest]
    exact congrArg (fun word : BitVec w => word <<< shift) kept
  · rw [if_neg (by omega), if_neg lowest]
    refine swept.trans (if_pos ?_)
    omega

theorem has_moveBits (fits : shift < w) (inside : position < n * w) :
    has (moveBits words shift) position =
      (decide (shift ≤ position) && has words (position - shift)) := by
  have wordFits : position / w < n := Nat.div_lt_of_lt_mul (by rwa [Nat.mul_comm])
  have bitFits : position % w < w := mod_lt _ (by omega)
  have whole := div_add_mod' position w
  rw [has_eq_get _ wordFits, get_moveBits]
  by_cases stays : shift ≤ position % w
  · -- The bit comes from the same word.
    have target : position - shift = position / w * w + (position % w - shift) := by omega
    have within : shift ≤ position := by omega
    rw [target, has_at words ⟨position / w, wordFits⟩ (by omega)]
    rcases Nat.eq_zero_or_pos (position / w) with low | high
    · rw [if_pos low, BitVec.getLsbD_shiftLeft]
      simp only [bitFits, within, Nat.not_lt.mpr stays, decide_true,
        decide_false, Bool.not_false, Bool.true_and]
    · have gone : w ≤ w - shift + position % w := by omega
      rw [if_neg (Nat.ne_of_gt high), BitVec.getLsbD_or,
        BitVec.getLsbD_shiftLeft, BitVec.getLsbD_ushiftRight,
        BitVec.getLsbD_of_ge _ _ gone]
      simp only [bitFits, within, Nat.not_lt.mpr stays, decide_true,
        decide_false, Bool.not_false, Bool.true_and, Bool.or_false]
  · rcases Nat.eq_zero_or_pos (position / w) with low | high
    · have early : ¬ shift ≤ position := by
        rw [low] at whole
        omega
      rw [if_pos low]
      simp [early, Nat.lt_of_not_le stays]
    · -- The bit has left the word below.
      have source : position / w - 1 < n := by omega
      have wordBelow : position / w * w = (position / w - 1) * w + w := by
        rw [← succ_mul, succ_eq_add_one, Nat.sub_add_cancel high]
      have target : position - shift =
          (position / w - 1) * w + (w - shift + position % w) := by omega
      have within : shift ≤ position := by omega
      rw [target, has_at words ⟨position / w - 1, source⟩ (by omega), if_neg (Nat.ne_of_gt high)]
      simp [within, Nat.lt_of_not_le stays]

end Bitmap
