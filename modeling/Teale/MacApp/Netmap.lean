import Mathlib.Data.Int.ModEq
import Teale.Gateway.Pins.Store

/-!
# Netmaps in the Mac app

`mac-app/Sources/PINKit/PINManager.swift` prints a netmap in a canonical form of its own. The two
texts are the same, except that Swift has no short escape for the backspace and the form feed.
-/

namespace Teale.MacApp

open Serde Protocol List Bytes RustText
open Teale.Gateway.Pins (GatewayIdentity signNetmap)

/-! ## `canonicalJSON` -/

/-- The escapes of `encodeString`. -/
def encodeScalar (scalar : Char) : List Char :=
  if scalar = '"' then ['\\', '"']
  else if scalar = '\\' then ['\\', '\\']
  else if scalar = '\n' then ['\\', 'n']
  else if scalar = '\r' then ['\\', 'r']
  else if scalar = '\t' then ['\\', 't']
  else if scalar.toNat < 0x20 then unicodeEscape scalar
  else [scalar]

def encodeString : String → List Char := quoteWith encodeScalar

def truncateToInt64 (value : ℤ) : ℤ := Int.bmod value (2 ^ 64)

def int64Value : Number Empty → ℤ
  | .natural value => truncateToInt64 value
  | .negative value => truncateToInt64 value

def encodeNumber (number : Number Empty) : List Char :=
  (toString (int64Value number)).toList

def sortedKeys (fields : List (String × List Char)) : List (String × List Char) :=
  fields.insertionSort fun left right => left.1 ≤ right.1

mutual

/-- `canonicalize`; a dictionary is a list of fields in some order. -/
def canonicalize : Json → List Char
  | .object fields => braces encodeString (sortedKeys (canonicalizeFields fields))
  | .array items => '[' :: commas (canonicalizeItems items) ++ [']']
  | .string text => encodeString text
  | .bool value => (if value then "true" else "false").toList
  | .number number => encodeNumber number
  | .null => "null".toList

def canonicalizeItems : List Json → List (List Char)
  | [] => []
  | item :: rest => canonicalize item :: canonicalizeItems rest

def canonicalizeFields : List (String × Json) → List (String × List Char)
  | [] => []
  | (key, value) :: rest => (key, canonicalize value) :: canonicalizeFields rest

end

def canonicalJSON (object : Json) : List UInt8 :=
  ofText (String.ofList (canonicalize object))

/-- What `PINNetmap.verify` reads of a `SignedPinNetmap`. -/
structure SignedPinNetmap where
  gatewayPubkey : String
  signature : String
  rawNetmapObject : Json

/-- `PINNetmap.verify`; `Data(hexString:)` reads the same texts as
`hex::decode`. -/
def verify (check : SignatureCheck) (signed : SignedPinNetmap) (pinnedGatewayKey : String) : Bool :=
  if RustText.eqIgnoreAsciiCase signed.gatewayPubkey pinnedGatewayKey then
    match hexDecode signed.gatewayPubkey,
        hexDecode signed.signature with
    | some key, some signature =>
      key.length = 32 && signature.length = 64 &&
        check key (canonicalJSON signed.rawNetmapObject) signature
    | _, _ => false
  else
    false

/-! ## The two canonical forms -/

theorem canonicalizeItems_eq (items : List Json) :
    canonicalizeItems items = items.map canonicalize := by
  induction items with
  | nil => rfl
  | cons item rest ih =>
    rw [canonicalizeItems, ih, map_cons]

theorem canonicalizeFields_eq (fields : List (String × Json)) : canonicalizeFields fields =
      fields.map fun field => (field.1, canonicalize field.2) := by
  induction fields with
  | nil => rfl
  | cons field rest ih =>
    rw [canonicalizeFields, ih, map_cons]

theorem canonicalize_eq_render (value : Json) :
    canonicalize value = value.sortKeys.render encodeString encodeNumber := by
  induction value using Value.induction with
  | null | bool | number | string => rfl
  | array items ih =>
    have same : items.map canonicalize = (items.map Value.sortKeys).map
          (Value.render encodeString encodeNumber) := by
      rw [map_map]
      exact map_congr_left ih
    rw [canonicalize, canonicalizeItems_eq, Value.sortKeys_array, Value.render_array, same]
  | object fields ih =>
    have same : fields.map (fun field => (field.1, canonicalize field.2)) =
        (fields.map fun field => (field.1, field.2.sortKeys)).map fun field =>
          (field.1, field.2.render encodeString encodeNumber) := by
      rw [map_map]
      refine map_congr_left fun field member => ?_
      simp only [Function.comp_apply, ih field member]
    rw [canonicalize, canonicalizeFields_eq, Value.sortKeys_object,
      Value.render_object, same, sortedKeys]
    congr 1
    symm
    apply map_insertionSort
    intro left _ right _
    exact Iff.rfl

def shortEscapes : List Char := ['\x08', '\x0c']

theorem encodeScalar_eq (common : char ∉ shortEscapes) : encodeScalar char = escapeChar char := by
  simp only [shortEscapes, mem_cons, not_mem_nil, or_false, not_or] at common
  simp [encodeScalar, escapeChar, common]

/-- A backspace or form feed takes four characters more in Swift. -/
theorem length_encodeScalar (char : Char) : (encodeScalar char).length =
      (escapeChar char).length + if char ∈ shortEscapes then 4 else 0 := by
  by_cases short : char ∈ shortEscapes
  · simp only [shortEscapes, mem_cons, not_mem_nil, or_false] at short
    rcases short with rfl | rfl <;> rfl
  · rw [encodeScalar_eq short, if_neg short, Nat.add_zero]

def swiftExcess (text : String) : ℕ :=
  (text.toList.map fun char => if char ∈ shortEscapes then 4 else 0).sum

theorem length_encodeString (text : String) : (encodeString text).length =
      (quoteWith escapeChar text).length + swiftExcess text := by
  have escaped : (text.toList.flatMap encodeScalar).length =
      (text.toList.flatMap escapeChar).length + swiftExcess text := by
    rw [swiftExcess]
    induction text.toList with
    | nil => rfl
    | cons char rest ih =>
      simp only [flatMap_cons, length_append, ih,
        length_encodeScalar, map_cons, sum_cons]
      omega
  simp only [encodeString, quoteWith, length_append, length_cons, escaped]
  omega

/-! ## Numbers -/

def InI64 (value : ℤ) : Prop := -2 ^ 63 ≤ value ∧ value < 2 ^ 63

/-- A JSON number that an `i64` was written as. -/
def NumberInI64 : Number Empty → Prop
  | .natural value => value < 2 ^ 63
  | .negative value => InI64 value

theorem InI64.truncateToInt64_eq (fits : InI64 value) : truncateToInt64 value = value := by
  obtain ⟨low, high⟩ := fits
  apply Int.bmod_eq_of_le_mul_two
  · push_cast
    omega
  · push_cast
    omega

theorem encodeNumber_eq (fits : NumberInI64 number) :
    encodeNumber number = printNumber number := by
  cases number with
  | natural value =>
    have inRange : InI64 value := by
      have small : value < 2 ^ 63 := fits
      constructor <;> omega
    rw [encodeNumber, int64Value, inRange.truncateToInt64_eq]
    rfl
  | negative value =>
    have inRange : InI64 value := fits
    rw [encodeNumber, int64Value, inRange.truncateToInt64_eq]
    rfl
  | float value => cases value

theorem hasNumber_jsonInt {value : ℤ} (fits : InI64 value)
    (occurs : (jsonInt value).HasNumber number) : NumberInI64 number := by
  obtain ⟨low, high⟩ := fits
  rw [jsonInt] at occurs
  split at occurs
  · cases occurs
    exact ⟨low, high⟩
  · cases occurs
    change value.toNat < 2 ^ 63
    omega

/-- The numbers of a netmap are `i64`. -/
structure FitsI64 (netmap : PinNetmap) : Prop where
  generation : InI64 netmap.generation
  issuedAt : InI64 netmap.issuedAt
  lastSeen : ∀ member ∈ netmap.members, ∀ time, member.lastSeen = some time → InI64 time

section Numbers

variable {number : Number Empty}

theorem not_hasNumber_string {text : String} : ¬ (Value.string text : Json).HasNumber number := by
  intro occurs
  cases occurs

theorem not_hasNumber_bool {value : Bool} : ¬ (Value.bool value : Json).HasNumber number := by
  intro occurs
  cases occurs

theorem not_hasNumber_array {items : List Json} (silent : ∀ item ∈ items, ¬ item.HasNumber number) :
    ¬ (Value.array items).HasNumber number := by
  intro occurs
  cases occurs with
  | item listed inItem => exact silent _ listed inItem

theorem hasNumber_member {member : PinNetmapMember}
    (fits : ∀ time, member.lastSeen = some time → InI64 time)
    (occurs : member.toValue.HasNumber number) : NumberInI64 number := by
  cases occurs with
  | field listed inField =>
    simp only [mem_append, mem_cons, not_mem_nil, or_false,
      Option.mem_toList, Option.map_eq_some_iff, mem_ite_nil_right]
      at listed
    rcases listed with
      (((((rfl | rfl | rfl) | ⟨_, _, rfl⟩) | rfl) | ⟨_, rfl⟩) |
        (rfl | rfl | rfl)) | ⟨time, seen, rfl⟩
    iterate 4 exact absurd inField not_hasNumber_string
    iterate 3 exact absurd inField not_hasNumber_bool
    · refine absurd inField (not_hasNumber_array fun item inItems => ?_)
      obtain ⟨endpoint, _, rfl⟩ := mem_map.mp inItems
      intro occurs
      cases occurs with
      | field listed inField =>
        simp only [mem_cons, not_mem_nil, or_false] at listed
        rcases listed with rfl | rfl <;> exact not_hasNumber_string inField
    · refine absurd inField (not_hasNumber_array fun item inItems => ?_)
      obtain ⟨model, _, rfl⟩ := mem_map.mp inItems
      exact not_hasNumber_string
    · exact hasNumber_jsonInt (fits time seen) inField

theorem hasNumber_netmap {netmap : PinNetmap} (fits : FitsI64 netmap)
    (occurs : netmap.toValue.HasNumber number) : NumberInI64 number := by
  cases occurs with
  | field listed inField =>
    simp only [mem_cons, not_mem_nil, or_false] at listed
    rcases listed with rfl | rfl | rfl | rfl | rfl
    · exact absurd inField not_hasNumber_string
    · exact absurd inField not_hasNumber_string
    · exact hasNumber_jsonInt fits.generation inField
    · exact hasNumber_jsonInt fits.issuedAt inField
    · cases inField with
      | item inItems inItem =>
        obtain ⟨member, isMember, rfl⟩ := mem_map.mp inItems
        exact hasNumber_member (fits.lastSeen member isMember) inItem

end Numbers

/-! ## Fields -/

theorem distinct_jsonInt (value : ℤ) : (jsonInt value).Distinct := by
  rw [jsonInt]
  split <;> exact .number _

theorem distinct_member (member : PinNetmapMember) : member.toValue.Distinct := by
  refine .object _ ?_ ?_
  · cases member.displayName <;> cases member.lastSeen <;> cases member.offersExit <;> simp
  · intro field listed
    simp only [mem_append, mem_cons, not_mem_nil, or_false,
      Option.mem_toList, Option.map_eq_some_iff, mem_ite_nil_right]
      at listed
    rcases listed with
      (((((rfl | rfl | rfl) | ⟨_, _, rfl⟩) | rfl) | ⟨_, rfl⟩) |
        (rfl | rfl | rfl)) | ⟨time, seen, rfl⟩
    · exact .string _
    · exact .string _
    · exact .string _
    · exact .string _
    · exact .bool _
    · exact .bool _
    · exact .bool _
    · refine .array _ fun item inItems => ?_
      obtain ⟨endpoint, _, rfl⟩ := mem_map.mp inItems
      refine .object _ (by simp) ?_
      intro field listed
      simp only [mem_cons, not_mem_nil, or_false] at listed
      rcases listed with rfl | rfl <;> exact .string _
    · refine .array _ fun item inItems => ?_
      obtain ⟨model, _, rfl⟩ := mem_map.mp inItems
      exact .string model
    · exact distinct_jsonInt time

theorem distinct_netmap (netmap : PinNetmap) : netmap.toValue.Distinct := by
  refine .object _ (by simp) ?_
  intro field listed
  simp only [mem_cons, not_mem_nil, or_false] at listed
  rcases listed with rfl | rfl | rfl | rfl | rfl
  · exact .string _
  · exact .string _
  · exact distinct_jsonInt _
  · exact distinct_jsonInt _
  · refine .array _ fun item inItems => ?_
    obtain ⟨member, _, rfl⟩ := mem_map.mp inItems
    exact distinct_member member

/-! ## Agreement -/

def Plain (netmap : PinNetmap) : Prop :=
  ∀ text ∈ netmap.toValue.strings, ∀ char ∈ text.toList, char ∉ shortEscapes

def Genuine (check : SignatureCheck) (identity : GatewayIdentity) : Prop :=
  ∃ key, hexDecode identity.publicKeyHex = some key ∧ key.length = 32 ∧
    ∀ message, ∃ signature, hexDecode (identity.signHex message) = some signature ∧
        signature.length = 64 ∧ check key message signature = true

/-- What the app makes of a signed netmap whose subtree it received. -/
def received (signed : Protocol.SignedPinNetmap) (rawNetmapObject : Json) : SignedPinNetmap where
  gatewayPubkey := signed.gatewayPubkey
  signature := signed.signature
  rawNetmapObject

theorem canonicalJSON_eq_iff (fits : FitsI64 netmap)
    (reordered : Value.Reordered netmap.toValue object) :
    canonicalJSON object = canonicalJson netmap ↔ Plain netmap := by
  have sorted := (reordered.sortKeys_eq (distinct_netmap netmap)).1
  have numbers : netmap.toValue.sortKeys.render encodeString encodeNumber =
      netmap.toValue.sortKeys.render encodeString printNumber := by
    apply Value.render_congr
    · intro _ _
      rfl
    · intro number occurs
      exact encodeNumber_eq (hasNumber_netmap fits occurs.of_sortKeys)
  have strings := Value.strings_sortKeys netmap.toValue
  have swift : canonicalize object = netmap.toValue.sortKeys.render encodeString printNumber := by
    rw [canonicalize_eq_render, ← sorted, numbers]
  constructor
  · intro same
    have sameText := String.ofList_injective (ofText_injective same)
    rw [swift] at sameText
    have lengths := Value.length_render printNumber length_encodeString netmap.toValue.sortKeys
    rw [sameText] at lengths
    have noExcess : (netmap.toValue.sortKeys.strings.map swiftExcess).sum = 0 := by omega
    intro text occurs
    simpa [swiftExcess, sum_eq_zero_iff] using
      sum_eq_zero_iff.mp noExcess _ (mem_map_of_mem (strings.mem_iff.mpr occurs))
  · intro plain
    have quoted : netmap.toValue.sortKeys.render encodeString printNumber =
        netmap.toValue.sortKeys.render (quoteWith escapeChar) printNumber := by
      apply Value.render_congr
      · intro text occurs
        have escaped : text.toList.flatMap encodeScalar = text.toList.flatMap escapeChar := by
          simp only [flatMap_def]
          rw [map_congr_left fun char listed =>
            encodeScalar_eq ((plain text (strings.mem_iff.mp occurs)) char listed)]
        rw [encodeString, quoteWith, quoteWith, escaped]
      · intro _ _
        rfl
    rw [canonicalJSON, swift, quoted]
    rfl

/-- The app recomputes the bytes that the gateway signed exactly when no string
of the netmap has a backspace or a form feed, and it then takes the signature. -/
theorem swift_verifies_iff_plain (netmap : PinNetmap) (fits : FitsI64 netmap) (object : Json)
    (reordered : Value.Reordered netmap.toValue object) :
    (canonicalJSON object = canonicalJson netmap ↔ Plain netmap) ∧
    (Plain netmap → ∀ check identity, Genuine check identity →
      verify check (received (signNetmap netmap identity) object)
        identity.publicKeyHex = true) := by
  have agree := canonicalJSON_eq_iff fits reordered
  refine ⟨agree, fun plain check identity genuine => ?_⟩
  obtain ⟨key, isKey, keyLength, signs⟩ := genuine
  obtain ⟨signature, isSignature, signatureLength, passes⟩ := signs (canonicalJson netmap)
  rw [verify, received, signNetmap, if_pos (by simp [eqIgnoreAsciiCase])]
  simp only [isKey, isSignature, keyLength, signatureLength, agree.mpr plain,
    passes, decide_true, Bool.and_self]

def emptyNetmap (name : String) : PinNetmap where
  pinId := "n"
  name
  generation := 1
  issuedAt := 100
  members := []

theorem fits_emptyNetmap (name : String) : FitsI64 (emptyNetmap name) where
  generation := by constructor <;> simp [emptyNetmap]
  issuedAt := by constructor <;> simp [emptyNetmap]
  lastSeen _ listed := nomatch listed

def markOf (marked message : List UInt8) : List UInt8 :=
  List.replicate 64 (if message = marked then 1 else 0)

def markCheck (marked : List UInt8) : SignatureCheck :=
  fun _ message signature => signature = markOf marked message

def markIdentity (marked : List UInt8) : GatewayIdentity where
  publicKeyHex := hexEncode (List.replicate 32 7)
  signHex message := hexEncode (markOf marked message)

theorem genuine_mark (marked : List UInt8) : Genuine (markCheck marked) (markIdentity marked) := by
  refine ⟨replicate 32 7, hexDecode_hexEncode _, rfl, ?_⟩
  intro message
  exact ⟨markOf marked message, hexDecode_hexEncode _,
    length_replicate, by simp [markCheck]⟩

theorem swift_verifies_lab : verify (markCheck (canonicalJson (emptyNetmap "lab")))
      (received (signNetmap (emptyNetmap "lab") (markIdentity (canonicalJson (emptyNetmap "lab"))))
        (.object [("members", .array []), ("issuedAt", jsonInt 100),
          ("generation", jsonInt 1), ("name", .string "lab"),
          ("pinId", .string "n")]))
      (markIdentity (canonicalJson (emptyNetmap "lab"))).publicKeyHex = true := by
  apply (swift_verifies_iff_plain (emptyNetmap "lab") (fits_emptyNetmap "lab") _
    (.fields (reverse_perm _).symm)).2
  · simp only [Plain, ← forall_iff_forall_mem]
    decide +kernel
  · exact genuine_mark _

/-- A network may have a backspace in its name. The app then computes other
bytes than the gateway signed, and refuses a netmap that the nodes accept. -/
theorem swift_refuses_backspace : canonicalJSON (emptyNetmap "\x08").toValue ≠
      canonicalJson (emptyNetmap "\x08") ∧ ∃ check identity, Genuine check identity ∧
      (signNetmap (emptyNetmap "\x08") identity).verify check identity.publicKeyHex = true ∧
      verify check
        (received (signNetmap (emptyNetmap "\x08") identity)
          (emptyNetmap "\x08").toValue) identity.publicKeyHex = false := by
  have notPlain : ¬ Plain (emptyNetmap "\x08") := by
    simp only [Plain, ← forall_iff_forall_mem]
    decide +kernel
  have differ : canonicalJSON (emptyNetmap "\x08").toValue ≠
      canonicalJson (emptyNetmap "\x08") := by
    intro same
    exact notPlain ((canonicalJSON_eq_iff (fits_emptyNetmap "\x08") (.refl _)).mp same)
  refine ⟨differ, markCheck (canonicalJson (emptyNetmap "\x08")),
    markIdentity (canonicalJson (emptyNetmap "\x08")), genuine_mark _, ?_, ?_⟩
  · simp [Protocol.SignedPinNetmap.verify, signNetmap, markIdentity, markCheck,
      markOf, eqIgnoreAsciiCase]
  · simp [verify, received, signNetmap, markIdentity, markCheck, markOf,
      eqIgnoreAsciiCase, differ]

end Teale.MacApp
