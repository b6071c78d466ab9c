import Mathlib.Data.Rat.Floor

/-!
# Floating-point arithmetic

Programs over any type with these operations. No law is asked of them, so what is proved holds of
binary64 as of exact numbers.
-/

namespace Floating

class FloatArith (F : Type) where
  ofNat : ℕ → F
  ofInt : ℤ → F
  add : F → F → F
  mul : F → F → F
  div : F → F → F
  /-- The larger of two numbers; of a number and a NaN, the number. -/
  max : F → F → F
  lt : F → F → Bool
  le : F → F → Bool
  /-- Round half away from zero, then convert. -/
  roundToInt : F → ℤ
  /-- Round down, then convert. -/
  floorToInt : F → ℤ

instance : FloatArith ℚ where
  ofNat n := n
  ofInt n := n
  add := (· + ·)
  mul := (· * ·)
  div := (· / ·)
  max left right := if left < right then right else left
  lt left right := left < right
  le left right := left ≤ right
  roundToInt x :=
    if 0 ≤ x then (x + mkRat 1 2).floor else -((-x + mkRat 1 2).floor)
  floorToInt x := x.floor

/-- Binary64. The conversions to integers saturate and send NaN to 0. -/
instance : FloatArith Float where
  ofNat := Float.ofNat
  ofInt := Float.ofInt
  add := (· + ·)
  mul := (· * ·)
  div := (· / ·)
  max left right :=
    if left.isNaN then right
    else if right.isNaN then left
    else if left < right then right
    else left
  lt left right := left < right
  le left right := left ≤ right
  roundToInt x := x.round.toInt64.toInt
  floorToInt x := x.floor.toInt64.toInt

end Floating
