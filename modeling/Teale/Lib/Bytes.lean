import Mathlib.Algebra.Order.Ring.Nat
import Mathlib.Data.List.Basic
import Mathlib.Tactic.Common

/-!
# Bytes

Byte strings as lists of `UInt8`: little-endian numbers, UTF-8 and hexadecimal, each with the
lemma that reads it back.
-/

namespace Bytes

open List

/-! ## Little-endian numbers -/

def littleEndian : ℕ → ℕ → List UInt8
  | 0, _ => []
  | width + 1, value => UInt8.ofNat value :: littleEndian width (value / 256)

@[simp] theorem length_littleEndian (width value : ℕ) :
    (littleEndian width value).length = width := by
  induction width generalizing value with
  | zero => rfl
  | succ width ih =>
    rw [littleEndian, length_cons, ih]

def ofLittleEndian : List UInt8 → ℕ
  | [] => 0
  | byte :: bytes => byte.toNat + 256 * ofLittleEndian bytes

theorem ofLittleEndian_littleEndian (fits : value < 256 ^ width) :
    ofLittleEndian (littleEndian width value) = value := by
  induction width generalizing value with
  | zero =>
    rw [Nat.pow_zero, Nat.lt_one_iff] at fits
    rw [fits]
    rfl
  | succ width ih =>
    have quotient : value / 256 < 256 ^ width :=
      Nat.div_lt_of_lt_mul (by rwa [mul_comm, ← pow_succ])
    rw [littleEndian, ofLittleEndian, ih quotient, UInt8.toNat_ofNat']
    omega

theorem littleEndian_injective (leftFits : left < 256 ^ width) (rightFits : right < 256 ^ width)
    (same : littleEndian width left = littleEndian width right) : left = right := by
  rw [← ofLittleEndian_littleEndian leftFits, same, ofLittleEndian_littleEndian rightFits]

/-! ## Big-endian numbers -/

def bigEndian (width value : ℕ) : List UInt8 := (littleEndian width value).reverse

def ofBigEndian (bytes : List UInt8) : ℕ := ofLittleEndian bytes.reverse

@[simp] theorem length_bigEndian (width value : ℕ) : (bigEndian width value).length = width := by
  rw [bigEndian, length_reverse, length_littleEndian]

theorem ofBigEndian_bigEndian (fits : value < 256 ^ width) :
    ofBigEndian (bigEndian width value) = value := by
  rw [ofBigEndian, bigEndian, reverse_reverse, ofLittleEndian_littleEndian fits]

/-! ## Text -/

def ofText (text : String) : List UInt8 := text.toByteArray.data.toList

theorem length_ofText (text : String) : (ofText text).length = text.utf8ByteSize := rfl

theorem ofText_injective (same : ofText left = ofText right) : left = right :=
  String.toByteArray_inj.mp (ByteArray.ext (Array.toList_inj.mp same))

/-! ## Hexadecimal -/

def hexDigit (value : ℕ) : Char := "0123456789abcdef".toList.getD value '0'

def hexValue (char : Char) : Option ℕ :=
  if '0' ≤ char ∧ char ≤ '9' then some (char.toNat - '0'.toNat)
  else if 'a' ≤ char ∧ char ≤ 'f' then some (char.toNat - 'a'.toNat + 10)
  else if 'A' ≤ char ∧ char ≤ 'F' then some (char.toNat - 'A'.toNat + 10)
  else none

theorem hexValue_hexDigit : ∀ value < 16, hexValue (hexDigit value) = some value := by
  decide

def hexDigits : List UInt8 → List Char
  | [] => []
  | byte :: bytes => hexDigit (byte.toNat / 16) :: hexDigit (byte.toNat % 16) :: hexDigits bytes

def fromHexDigits : List Char → Option (List UInt8)
  | [] => some []
  | [_] => none
  | high :: low :: rest => do
    let high ← hexValue high
    let low ← hexValue low
    let bytes ← fromHexDigits rest
    pure (UInt8.ofNat (high * 16 + low) :: bytes)

def hexEncode (bytes : List UInt8) : String := String.ofList (hexDigits bytes)

def hexDecode (text : String) : Option (List UInt8) := fromHexDigits text.toList

theorem fromHexDigits_hexDigits (bytes : List UInt8) :
    fromHexDigits (hexDigits bytes) = some bytes := by
  induction bytes with
  | nil => rfl
  | cons byte rest ih =>
    have small : byte.toNat < 256 := byte.toNat_lt
    have high := hexValue_hexDigit (byte.toNat / 16) (by omega)
    have low := hexValue_hexDigit (byte.toNat % 16) (by omega)
    have whole : UInt8.ofNat (byte.toNat / 16 * 16 + byte.toNat % 16) = byte := by
      rw [Nat.div_add_mod', UInt8.ofNat_toNat]
    simp only [hexDigits, fromHexDigits, high, low, ih,
      Option.bind_eq_bind, Option.bind_some, Option.pure_def, whole]

@[simp] theorem hexDecode_hexEncode (bytes : List UInt8) :
    hexDecode (hexEncode bytes) = some bytes := by
  rw [hexDecode, hexEncode, String.toList_ofList, fromHexDigits_hexDigits]

end Bytes
