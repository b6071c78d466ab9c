import Mathlib.Data.Nat.Digits.Lemmas
import Mathlib.Tactic.Ring

/-!
# Numerals in two bases

Digits stand with the most significant first. A change of base keeps the leading zeros, one zero
of the new base for each of the old.
-/

namespace Radix

open List

def numeral (base value : ℕ) : List ℕ := (Nat.digits base value).reverse

def value (base : ℕ) (digits : List ℕ) : ℕ := Nat.ofDigits base digits.reverse

def leadingZeros (digits : List ℕ) : ℕ := (digits.takeWhile (· = 0)).length

def convert (source target : ℕ) (digits : List ℕ) : List ℕ :=
  replicate (leadingZeros digits) 0 ++ numeral target (value source digits)

variable {source target : ℕ} {digits : List ℕ}

@[simp] theorem numeral_zero (base : ℕ) : numeral base 0 = [] := by
  simp [numeral]

theorem numeral_eq_concat (isBase : 1 < base) (positive : 0 < number) :
    numeral base number = numeral base (number / base) ++ [number % base] := by
  simp [numeral, Nat.digits_def' isBase positive]

@[simp] theorem value_nil (base : ℕ) : value base [] = 0 := rfl

theorem value_concat (base : ℕ) (digits : List ℕ) (digit : ℕ) :
    value base (digits ++ [digit]) = base * value base digits + digit := by
  simp [value, Nat.ofDigits_cons, add_comm]

@[simp] theorem value_numeral (base number : ℕ) : value base (numeral base number) = number := by
  simp [value, numeral, Nat.ofDigits_digits]

@[simp] theorem value_replicate_append (base count : ℕ) (digits : List ℕ) :
    value base (replicate count 0 ++ digits) = value base digits := by
  simp [value, Nat.ofDigits_append]

theorem head_numeral_ne_zero {base number head : ℕ} {rest : List ℕ}
    (shape : numeral base number = head :: rest) : head ≠ 0 := by
  have isSome : number ≠ 0 := by
    rintro rfl
    simp at shape
  have last := Nat.getLast_digit_ne_zero base isSome
  simpa [reverse_eq_iff.mp shape] using last

theorem leadingZeros_replicate_append (base count number : ℕ) :
    leadingZeros (replicate count 0 ++ numeral base number) = count := by
  induction count with
  | zero =>
    cases shape : numeral base number with
    | nil => rfl
    | cons head rest => simp [leadingZeros, head_numeral_ne_zero shape]
  | succ count ih => simpa [leadingZeros, replicate_succ] using ih

/-- Digits are their leading zeros and the numeral of their value. -/
theorem eq_replicate_append_numeral (isBase : 1 < source)
    (small : ∀ digit ∈ digits, digit < source) :
    digits = replicate (leadingZeros digits) 0 ++ numeral source (value source digits) := by
  induction digits with
  | nil => simp [leadingZeros]
  | cons digit rest ih =>
    by_cases isZero : digit = 0
    · subst isZero
      have same : value source (0 :: rest) = value source rest := value_replicate_append source 1 rest
      rw [same, leadingZeros, takeWhile_cons_of_pos (by simp), length_cons, replicate_succ]
      exact congrArg (0 :: ·) (ih (forall_mem_cons.mp small).2)
    · have whole := Nat.digits_ofDigits source isBase (digit :: rest).reverse
        (fun _ member => small _ (mem_reverse.mp member)) (by simpa using isZero)
      simp only [leadingZeros, takeWhile_cons, isZero, decide_false, numeral, value, whole,
        reverse_reverse]
      rfl

theorem convert_convert (isBase : 1 < source) (small : ∀ digit ∈ digits, digit < source) :
    convert target source (convert source target digits) = digits := by
  rw [convert, convert, leadingZeros_replicate_append, value_replicate_append, value_numeral]
  exact (eq_replicate_append_numeral isBase small).symm

theorem convert_small (isBase : 1 < target) :
    ∀ digit ∈ convert source target digits, digit < target := by
  intro digit member
  rcases mem_append.mp member with zero | digit
  · rw [eq_of_mem_replicate zero]
    omega
  · exact Nat.digits_lt_base isBase (mem_reverse.mp digit)

end Radix
