import Mathlib.Data.Set.Basic
import Mathlib.Data.Vector.Defs
import Mathlib.Order.Lattice
import Mathlib.Tactic.Common

/-!
# Symbolic cryptography

A byte is a plain one or a byte of a public key, of the output of a one-way function, of a shared
value, or of a ciphertext. A ciphertext under a key that the members of an exchange keep to
themselves was first sent by one of them.
-/

namespace Symbolic

variable {nonce : List UInt8} {other : ℕ} {keys : Set ℕ}

variable {α : Type}

/-- Bytes, with the byte they have been combined with; `α` names the one-way
functions and private keys are numbers. -/
inductive Byte (α : Type) where
  | raw (value : UInt8)
  | publicKey (secret index : ℕ) (mask : UInt8)
  | digest (function : α) (data : List (Byte α)) (index : ℕ) (mask : UInt8)
  | shared (first second index : ℕ) (mask : UInt8)
  | sharedWith (secret : ℕ) (remote : List (Byte α)) (index : ℕ) (mask : UInt8)
  | cipher (key : List (Byte α)) (nonce : List UInt8)
      (ad plaintext : List (Byte α)) (index : ℕ) (mask : UInt8)

abbrev Block (α : Type) := Vector (Byte α) 32

/-! ## Operations -/

def xor : Byte α → UInt8 → Byte α
  | .raw value, other => .raw (value ^^^ other)
  | .publicKey secret index mask, other => .publicKey secret index (mask ^^^ other)
  | .digest function data index mask, other => .digest function data index (mask ^^^ other)
  | .shared first second index mask, other => .shared first second index (mask ^^^ other)
  | .sharedWith secret remote index mask, other => .sharedWith secret remote index (mask ^^^ other)
  | .cipher key nonce ad plaintext index mask, other =>
    .cipher key nonce ad plaintext index (mask ^^^ other)

theorem xor_xor (byte : Byte α) (mask : UInt8) : xor (xor byte mask) mask = byte := by
  cases byte <;> simp [xor, UInt8.xor_assoc]

def publicKey (secret : ℕ) : Block α := .ofFn fun index => .publicKey secret index 0

def digest (function : α) (data : List (Byte α)) : Block α :=
  .ofFn fun index => .digest function data index 0

open Classical in
/-- A byte of the value that a private key shares with a key: the same from
both sides when that key is the public key of somebody. -/
noncomputable def exchange (secret : ℕ) (remote : Block α) (index : ℕ) (mask : UInt8) : Byte α :=
  if known : ∃ other, remote = publicKey other then
    .shared (min secret known.choose) (max secret known.choose) index mask
  else
    .sharedWith secret remote.toList index mask

noncomputable def agree (secret : ℕ) (remote : Block α) : Block α :=
  .ofFn fun index => exchange secret remote index 0

def encipher (key : Block α) (nonce : List UInt8) (ad plaintext : List (Byte α)) : List (Byte α) :=
  (List.range (plaintext.length + 16)).map fun index =>
    .cipher key.toList nonce ad plaintext index 0

open Classical in
noncomputable def decipher (key : Block α) (nonce : List UInt8)
    (ad ciphertext : List (Byte α)) : Option (List (Byte α)) :=
  if made : ∃ plaintext, ciphertext = encipher key nonce ad plaintext then
    some made.choose
  else
    none

theorem mem_toList_ofFn (bytes : ℕ → Byte α) :
    byte ∈ (Vector.ofFn fun index : Fin n => bytes index).toList ↔
      ∃ index < n, byte = bytes index := by
  rw [Vector.toList_ofFn, List.mem_ofFn]
  constructor
  · rintro ⟨index, rfl⟩
    exact ⟨index, index.isLt, rfl⟩
  · rintro ⟨index, fits, rfl⟩
    exact ⟨⟨index, fits⟩, rfl⟩

theorem mem_publicKey : byte ∈ (publicKey secret).toList ↔
      ∃ index < 32, byte = .publicKey secret index 0 :=
  mem_toList_ofFn fun index => .publicKey secret index 0

variable {data : List (Byte α)} {function : α}

theorem mem_digest :
    byte ∈ (digest function data).toList ↔ ∃ index < 32, byte = .digest function data index 0 :=
  mem_toList_ofFn fun index => .digest function data index 0

theorem mem_agree :
    byte ∈ (agree secret remote).toList ↔ ∃ index < 32, byte = exchange secret remote index 0 :=
  mem_toList_ofFn fun index => exchange secret remote index 0

variable {ad plaintext : List (Byte α)}

theorem mem_encipher {byte : Byte α} {key : Block α} : byte ∈ encipher key nonce ad plaintext ↔
      ∃ index < plaintext.length + 16, byte = .cipher key.toList nonce ad plaintext index 0 := by
  simp [encipher, eq_comm]

@[simp] theorem length_encipher (key : Block α) (nonce : List UInt8)
    (ad plaintext : List (Byte α)) :
    (encipher key nonce ad plaintext).length = plaintext.length + 16 := by
  simp [encipher]

theorem publicKey_injective : Function.Injective (publicKey : ℕ → Block α) := by
  intro first second same
  have part : (Byte.publicKey first 0 0 : Byte α) ∈ (publicKey second).toList := by
    rw [← same]
    exact mem_publicKey.mpr ⟨0, by decide, rfl⟩
  obtain ⟨index, -, found⟩ := mem_publicKey.mp part
  exact (Byte.publicKey.inj found).1

theorem exchange_publicKey (first second index : ℕ) (mask : UInt8) :
    exchange first (publicKey second : Block α) index mask =
      .shared (min first second) (max first second) index mask := by
  have known : ∃ other, (publicKey second : Block α) = publicKey other := ⟨second, rfl⟩
  have chosen : known.choose = second := (publicKey_injective known.choose_spec).symm
  rw [exchange, dif_pos known, chosen]

theorem exchange_cases (remote : Block α) :
    (∃ owner, remote = publicKey owner ∧ ∀ secret index mask,
        exchange secret remote index mask = .shared (min secret owner) (max secret owner) index mask) ∨
      ∀ secret index mask,
        exchange secret remote index mask = .sharedWith secret remote.toList index mask := by
  by_cases known : ∃ owner, remote = publicKey owner
  · obtain ⟨owner, rfl⟩ := known
    exact .inl ⟨owner, rfl, fun secret => exchange_publicKey secret owner⟩
  · exact .inr fun _ _ _ => dif_neg known

theorem agree_comm (first second : ℕ) : agree first (publicKey second : Block α) =
      agree second (publicKey first) := by
  have bytes : ∀ index : ℕ, exchange first (publicKey second : Block α) index 0 =
      exchange second (publicKey first) index 0 := by
    intro index
    rw [exchange_publicKey, exchange_publicKey, min_comm, max_comm]
  simp only [agree, bytes]

/-- A value is shared by nobody but the holders of its two keys. -/
theorem eq_or_eq_of_exchange_eq
    (same : exchange first firstRemote index mask = exchange second secondRemote other mask') :
    first = second ∨ secondRemote = publicKey first := by
  obtain ⟨firstOwner, -, firstIs⟩ | firstIs := exchange_cases firstRemote <;>
    obtain ⟨secondOwner, rfl, secondIs⟩ | secondIs := exchange_cases secondRemote <;>
    rw [firstIs, secondIs] at same
  · obtain ⟨lower, upper, -⟩ := Byte.shared.inj same
    have either : first = second ∨ first = secondOwner := by omega
    exact either.imp_right fun same => by rw [same]
  · cases same
  · cases same
  · exact Or.inl (Byte.sharedWith.inj same).1

theorem encipher_inj {key key' : Block α} {nonce' : List UInt8}
    {ad ad' plaintext plaintext' : List (Byte α)}
    (same : encipher key nonce ad plaintext = encipher key' nonce' ad' plaintext') :
    key = key' ∧ nonce = nonce' ∧ ad = ad' ∧ plaintext = plaintext' := by
  have part : .cipher key.toList nonce ad plaintext 0 0 ∈ encipher key' nonce' ad' plaintext' := by
    rw [← same]
    exact mem_encipher.mpr ⟨0, by omega, rfl⟩
  obtain ⟨index, -, found⟩ := mem_encipher.mp part
  obtain ⟨keys, nonces, ads, plaintexts, -⟩ := Byte.cipher.inj found
  exact ⟨Vector.toList_inj.mp keys, nonces, ads, plaintexts⟩

theorem decipher_eq_some_iff : decipher key nonce ad ciphertext = some plaintext ↔
      ciphertext = encipher key nonce ad plaintext := by
  unfold decipher
  by_cases made : ∃ plaintext, ciphertext = encipher key nonce ad plaintext
  · rw [dif_pos made, Option.some.injEq]
    constructor
    · rintro rfl
      exact made.choose_spec
    · intro enciphered
      exact (encipher_inj (made.choose_spec.symm.trans enciphered)).2.2.2
  · rw [dif_neg made]
    exact iff_of_false nofun fun enciphered => made ⟨plaintext, enciphered⟩

/-! ## What can be made -/

/-- What a holder of private keys can make of the bytes it has heard. -/
inductive Knows (keys : Set ℕ) (heard : Set (Byte α)) : Byte α → Prop where
  | heard {byte} (known : byte ∈ heard) : Knows keys heard byte
  | raw (value : UInt8) : Knows keys heard (.raw value)
  | publicKey (secret : ℕ) {byte} (part : byte ∈ (publicKey secret).toList) : Knows keys heard byte
  | xor {byte} (mask : UInt8) (known : Knows keys heard byte) : Knows keys heard (xor byte mask)
  | digest {function : α} {data byte} (known : ∀ entry ∈ data, Knows keys heard entry)
      (part : byte ∈ (digest function data).toList) : Knows keys heard byte
  | agree {secret : ℕ} {remote : Block α} {byte} (held : secret ∈ keys)
      (known : ∀ entry ∈ remote.toList, Knows keys heard entry)
      (part : byte ∈ (agree secret remote).toList) : Knows keys heard byte
  | encipher {key : Block α} {nonce ad plaintext byte}
      (knownKey : ∀ entry ∈ key.toList, Knows keys heard entry)
      (knownAd : ∀ entry ∈ ad, Knows keys heard entry)
      (known : ∀ entry ∈ plaintext, Knows keys heard entry)
      (part : byte ∈ encipher key nonce ad plaintext) : Knows keys heard byte
  | decipher {key : Block α} {nonce ad ciphertext plaintext byte}
      (knownKey : ∀ entry ∈ key.toList, Knows keys heard entry)
      (known : ∀ entry ∈ ciphertext, Knows keys heard entry)
      (opened : decipher key nonce ad ciphertext = some plaintext)
      (part : byte ∈ plaintext) : Knows keys heard byte

/-! ## Keeping a shared value -/

def Holds (keys : Set ℕ) (secret : ℕ) (remote : Block α) : Prop :=
  secret ∈ keys ∨ ∃ owner ∈ keys, remote = publicKey owner

theorem holds_publicKey_iff :
    Holds keys secret (publicKey owner : Block α) ↔ secret ∈ keys ∨ owner ∈ keys := by
  simp [Holds, publicKey_injective.eq_iff]

/-- A byte that can be shown to everybody: what it shows does not depend on the
value shared in an exchange. The key of a ciphertext may. -/
inductive Discreet (secret : ℕ) (remote : Block α) : Byte α → Prop where
  | raw (value : UInt8) : Discreet secret remote (.raw value)
  | publicKey (owner index : ℕ) (mask : UInt8) :
      Discreet secret remote (.publicKey owner index mask)
  | digest (function : α) {data} (index : ℕ) (mask : UInt8)
      (discreet : ∀ entry ∈ data, Discreet secret remote entry) :
      Discreet secret remote (.digest function data index mask)
  | shared {first second : ℕ} (index : ℕ) (mask : UInt8)
      (another : ∀ index mask, .shared first second index mask ≠
        exchange secret remote index mask) :
      Discreet secret remote (.shared first second index mask)
  | sharedWith {owner : ℕ} {other} (index : ℕ) (mask : UInt8)
      (another : ∀ index mask, .sharedWith owner other index mask ≠
        exchange secret remote index mask) :
      Discreet secret remote (.sharedWith owner other index mask)
  | cipher (key nonce ad) {plaintext} (index : ℕ) (mask : UInt8)
      (discreet : ∀ entry ∈ plaintext, Discreet secret remote entry) :
      Discreet secret remote (.cipher key nonce ad plaintext index mask)

section Discreet

variable {secret : ℕ} {remote : Block α}

theorem not_discreet_exchange (index : ℕ) (mask : UInt8) :
    ¬ Discreet secret remote (exchange secret remote index mask) := by
  intro discreet
  obtain ⟨owner, -, isShared⟩ | isAlone := exchange_cases remote
  · rw [isShared] at discreet
    cases discreet with
    | shared _ _ another => exact another index mask (isShared _ _ _).symm
  · rw [isAlone] at discreet
    cases discreet with
    | sharedWith _ _ another => exact another index mask (isAlone _ _ _).symm

theorem discreet_exchange (apart : other ≠ secret) (notOwner : remote ≠ publicKey other) (index : ℕ)
    (mask : UInt8) : Discreet secret remote (exchange other otherRemote index mask) := by
  have another : ∀ index mask, exchange other otherRemote index mask ≠
      exchange secret remote index mask := by
    intro index mask same
    rcases eq_or_eq_of_exchange_eq same with same | owned
    · exact apart same
    · exact notOwner owned
  obtain ⟨owner, -, isShared⟩ | isAlone := exchange_cases otherRemote
  · simp only [isShared] at another ⊢
    exact .shared index mask another
  · simp only [isAlone] at another ⊢
    exact .sharedWith index mask another

theorem discreet_xor (mask : UInt8) (discreet : Discreet secret remote byte) :
    Discreet secret remote (xor byte mask) := by
  cases discreet with
  | raw value => exact .raw _
  | publicKey owner index other => exact .publicKey owner index _
  | digest function index other inside => exact .digest function index _ inside
  | shared index other another => exact .shared index _ another
  | sharedWith index other another => exact .sharedWith index _ another
  | cipher key nonce ad index other inside => exact .cipher key nonce ad index _ inside

theorem discreet_digest_iff :
    (∀ byte ∈ (digest function data).toList, Discreet secret remote byte) ↔
      ∀ byte ∈ data, Discreet secret remote byte := by
  constructor
  · intro discreet
    have first := discreet (.digest function data 0 0) (mem_digest.mpr ⟨0, by decide, rfl⟩)
    cases first with
    | digest _ _ _ inside => exact inside
  · intro inside byte part
    obtain ⟨index, -, rfl⟩ := mem_digest.mp part
    exact .digest function index 0 inside

theorem discreet_encipher_iff :
    (∀ byte ∈ encipher key nonce ad plaintext, Discreet secret remote byte) ↔
      ∀ byte ∈ plaintext, Discreet secret remote byte := by
  constructor
  · intro discreet
    have first := discreet (.cipher key.toList nonce ad plaintext 0 0)
      (mem_encipher.mpr ⟨0, by omega, rfl⟩)
    cases first with
    | cipher _ _ _ _ _ inside => exact inside
  · intro inside byte part
    obtain ⟨index, -, rfl⟩ := mem_encipher.mp part
    exact .cipher key.toList nonce ad index 0 inside

theorem not_discreet_agree :
    ¬ ∀ byte ∈ (agree secret remote).toList, Discreet secret remote byte := by
  intro discreet
  exact not_discreet_exchange 0 0 (discreet _ (mem_agree.mpr ⟨0, by decide, rfl⟩))

/-- Outsiders that hear nothing indiscreet learn nothing indiscreet. -/
theorem Knows.discreet {heard : Set (Byte α)} {byte : Byte α}
    (outside : ¬ Holds keys secret remote) (discreet : ∀ byte ∈ heard, Discreet secret remote byte)
    (knows : Knows keys heard byte) : Discreet secret remote byte := by
  induction knows with
  | heard known => exact discreet _ known
  | raw value => exact .raw value
  | publicKey owner part =>
    obtain ⟨index, -, rfl⟩ := mem_publicKey.mp part
    exact .publicKey owner index 0
  | xor mask _ ih => exact discreet_xor mask ih
  | digest _ part ih => exact discreet_digest_iff.mpr ih _ part
  | @agree other _ _ held _ part =>
    obtain ⟨index, -, rfl⟩ := mem_agree.mp part
    apply discreet_exchange
    · rintro rfl
      exact outside (Or.inl held)
    · intro owned
      exact outside (Or.inr ⟨other, held, owned⟩)
  | encipher _ _ _ part _ _ ih => exact discreet_encipher_iff.mpr ih _ part
  | decipher _ _ opened part _ ih =>
    rw [decipher_eq_some_iff] at opened
    subst opened
    exact discreet_encipher_iff.mp ih _ part

end Discreet

/-! ## Where a ciphertext comes from -/

structure Sealing (α : Type) where
  key : Block α
  nonce : List UInt8
  ad : List (Byte α)
  plaintext : List (Byte α)

namespace Sealing

def ciphertext (sealing : Sealing α) : List (Byte α) :=
  encipher sealing.key sealing.nonce sealing.ad sealing.plaintext

/-- Some byte of the ciphertext is in the byte, or in what it was made of. -/
inductive OccursIn (sealing : Sealing α) : Byte α → Prop where
  | here {key nonce ad plaintext} (index : ℕ) (mask : UInt8)
      (sameKey : key = sealing.key.toList) (sameNonce : nonce = sealing.nonce)
      (sameAd : ad = sealing.ad) (samePlaintext : plaintext = sealing.plaintext) :
      OccursIn sealing (.cipher key nonce ad plaintext index mask)
  | digest {function : α} {data byte} (index : ℕ) (mask : UInt8)
      (part : byte ∈ data) (inside : OccursIn sealing byte) :
      OccursIn sealing (.digest function data index mask)
  | sharedWith {secret : ℕ} {remote byte} (index : ℕ) (mask : UInt8)
      (part : byte ∈ remote) (inside : OccursIn sealing byte) :
      OccursIn sealing (.sharedWith secret remote index mask)
  | key {key nonce ad plaintext byte} (index : ℕ) (mask : UInt8)
      (part : byte ∈ key) (inside : OccursIn sealing byte) :
      OccursIn sealing (.cipher key nonce ad plaintext index mask)
  | ad {key nonce ad plaintext byte} (index : ℕ) (mask : UInt8)
      (part : byte ∈ ad) (inside : OccursIn sealing byte) :
      OccursIn sealing (.cipher key nonce ad plaintext index mask)
  | plaintext {key nonce ad plaintext byte} (index : ℕ) (mask : UInt8)
      (part : byte ∈ plaintext) (inside : OccursIn sealing byte) :
      OccursIn sealing (.cipher key nonce ad plaintext index mask)

variable {sealing : Sealing α}

theorem occursIn_of_xor (mask : UInt8) (occurs : sealing.OccursIn (xor byte mask)) :
    sealing.OccursIn byte := by
  cases byte with
  | raw value => cases occurs
  | publicKey owner index other => cases occurs
  | shared first second index other => cases occurs
  | digest function data index other =>
    cases occurs with
    | digest _ _ part inside => exact .digest index other part inside
  | sharedWith owner remote index other =>
    cases occurs with
    | sharedWith _ _ part inside => exact .sharedWith index other part inside
  | cipher key nonce ad plaintext index other =>
    cases occurs with
    | here _ _ sameKey sameNonce sameAd samePlaintext =>
      exact .here index other sameKey sameNonce sameAd samePlaintext
    | key _ _ part inside => exact .key index other part inside
    | ad _ _ part inside => exact .ad index other part inside
    | plaintext _ _ part inside => exact .plaintext index other part inside

theorem sizeOf_ad_lt_of_occursIn [SizeOf α] (occurs : sealing.OccursIn byte) :
    sizeOf sealing.ad < sizeOf byte := by
  induction occurs with
  | here index mask _ _ sameAd _ =>
    rw [Byte.cipher.sizeOf_spec, sameAd]
    omega
  | digest index mask part _ ih =>
    have smaller := List.sizeOf_lt_of_mem part
    rw [Byte.digest.sizeOf_spec]
    omega
  | sharedWith index mask part _ ih =>
    have smaller := List.sizeOf_lt_of_mem part
    rw [Byte.sharedWith.sizeOf_spec]
    omega
  | key index mask part _ ih
  | ad index mask part _ ih
  | plaintext index mask part _ ih =>
    have smaller := List.sizeOf_lt_of_mem part
    rw [Byte.cipher.sizeOf_spec]
    omega

/-- A ciphertext cannot be made without its key: without it, it is heard
before it is known. -/
theorem not_occursIn_of_knows {heard : Set (Byte α)} {byte : Byte α}
    (unknown : ¬ ∀ entry ∈ sealing.key.toList, Knows keys heard entry)
    (unheard : ∀ byte ∈ heard, ¬ sealing.OccursIn byte)
    (knows : Knows keys heard byte) : ¬ sealing.OccursIn byte := by
  induction knows with
  | heard known => exact unheard _ known
  | raw value =>
    intro occurs
    cases occurs
  | publicKey owner part =>
    obtain ⟨index, -, rfl⟩ := mem_publicKey.mp part
    intro occurs
    cases occurs
  | xor mask _ ih => exact fun occurs => ih (occursIn_of_xor mask occurs)
  | digest _ part ih =>
    obtain ⟨index, -, rfl⟩ := mem_digest.mp part
    intro occurs
    cases occurs with
    | digest _ _ part inside => exact ih _ part inside
  | @agree secret remote _ _ _ part ih =>
    obtain ⟨index, -, rfl⟩ := mem_agree.mp part
    intro occurs
    obtain ⟨owner, -, isShared⟩ | isAlone := exchange_cases remote
    · rw [isShared] at occurs
      cases occurs
    · rw [isAlone] at occurs
      cases occurs with
      | sharedWith _ _ part inside => exact ih _ part inside
  | encipher knownKey _ _ part keyHypothesis adHypothesis plaintextHypothesis =>
    obtain ⟨index, -, rfl⟩ := mem_encipher.mp part
    intro occurs
    cases occurs with
    | here _ _ sameKey =>
      apply unknown
      rw [← sameKey]
      exact knownKey
    | key _ _ part inside => exact keyHypothesis _ part inside
    | ad _ _ part inside => exact adHypothesis _ part inside
    | plaintext _ _ part inside => exact plaintextHypothesis _ part inside
  | decipher _ _ opened part _ ih =>
    rw [decipher_eq_some_iff] at opened
    subst opened
    intro occurs
    exact ih _ (mem_encipher.mpr ⟨0, by omega, rfl⟩) (.plaintext 0 0 part occurs)

end Sealing

theorem sizeOf_lt_of_mem_digest [SizeOf α] (inside : part ∈ data)
    (member : byte ∈ (digest function data).toList) : sizeOf part < sizeOf byte := by
  obtain ⟨index, -, rfl⟩ := mem_digest.mp member
  have smaller := List.sizeOf_lt_of_mem inside
  rw [Byte.digest.sizeOf_spec]
  omega

/-! ## Traffic -/

structure Transmission (α : Type) where
  keys : Set ℕ
  message : List (Byte α)

/-- A message carries a ciphertext, in the open or inside something else. -/
def Transmission.Carries (transmission : Transmission α) (ciphertext : List (Byte α)) : Prop :=
  ∃ sealing : Sealing α, ciphertext = sealing.ciphertext ∧
    ∃ byte ∈ transmission.message, sealing.OccursIn byte

def heard (sent : List (Transmission α)) : Set (Byte α) :=
  {byte | ∃ transmission ∈ sent, byte ∈ transmission.message}

theorem mem_heard_cons (transmission : Transmission α) (earlier : List (Transmission α)) :
    ∀ byte ∈ transmission.message, byte ∈ heard (transmission :: earlier) :=
  fun _ part => ⟨transmission, List.mem_cons_self, part⟩

/-- Messages, newest first, in which those who hold a key of an exchange are
discreet about it, and the others send what they can make of their keys and of
the messages before. -/
def Traffic (secret : ℕ) (remote : Block α) : List (Transmission α) → Prop
  | [] => True
  | transmission :: earlier =>
    Traffic secret remote earlier ∧ (Holds transmission.keys secret remote →
        ∀ byte ∈ transmission.message, Discreet secret remote byte) ∧
      (¬ Holds transmission.keys secret remote → ∀ byte ∈ transmission.message,
          Knows transmission.keys (heard earlier) byte)

namespace Traffic

variable {secret : ℕ} {remote : Block α} {sent : List (Transmission α)}
  {earlier : List (Transmission α)} {transmission : Transmission α}

theorem cons_holder (traffic : Traffic secret remote earlier)
    (holds : Holds transmission.keys secret remote)
    (discreet : ∀ byte ∈ transmission.message, Discreet secret remote byte) :
    Traffic secret remote (transmission :: earlier) :=
  ⟨traffic, fun _ => discreet, fun outside => absurd holds outside⟩

theorem cons_outsider (traffic : Traffic secret remote earlier)
    (outside : ¬ Holds transmission.keys secret remote)
    (knows : ∀ byte ∈ transmission.message, Knows transmission.keys (heard earlier) byte) :
    Traffic secret remote (transmission :: earlier) :=
  ⟨traffic, fun holds => absurd holds outside, fun _ => knows⟩

section

variable (traffic : Traffic secret remote sent)

include traffic

theorem discreet : ∀ byte ∈ heard sent, Discreet secret remote byte := by
  induction sent with
  | nil =>
    rintro byte ⟨transmission, member, -⟩
    cases member
  | cons latest earlier ih =>
    obtain ⟨before, insiders, outsiders⟩ := traffic
    rintro byte ⟨transmission, member, part⟩
    rcases List.mem_cons.mp member with rfl | older
    · by_cases holds : Holds transmission.keys secret remote
      · exact insiders holds byte part
      · exact (outsiders holds byte part).discreet holds (ih before)
    · exact ih before byte ⟨transmission, older, part⟩

/-- A ciphertext whose key shows the shared value was sent by a holder of one
of the two keys before anybody else. -/
theorem exists_origin {sealing : Sealing α}
    (indiscreet : ¬ ∀ entry ∈ sealing.key.toList, Discreet secret remote entry)
    {byte : Byte α} (member : byte ∈ heard sent) (occurs : sealing.OccursIn byte) :
    ∃ transmission ∈ sent, Holds transmission.keys secret remote ∧
      ∃ byte ∈ transmission.message, sealing.OccursIn byte := by
  induction sent generalizing byte with
  | nil =>
    obtain ⟨transmission, member, -⟩ := member
    cases member
  | cons latest earlier ih =>
    obtain ⟨before, insiders, outsiders⟩ := traffic
    by_cases old : ∃ byte ∈ heard earlier, sealing.OccursIn byte
    · obtain ⟨byte, member, occurs⟩ := old
      obtain ⟨transmission, older, found⟩ := ih before member occurs
      exact ⟨transmission, List.mem_cons_of_mem _ older, found⟩
    · have unheard : ∀ byte ∈ heard earlier, ¬ sealing.OccursIn byte :=
        fun byte member occurs => old ⟨byte, member, occurs⟩
      obtain ⟨transmission, member, part⟩ := member
      rcases List.mem_cons.mp member with rfl | older
      · by_cases holds : Holds transmission.keys secret remote
        · exact ⟨transmission, member, holds, byte, part, occurs⟩
        · have unknown : ¬ ∀ entry ∈ sealing.key.toList,
              Knows transmission.keys (heard earlier) entry := by
            intro known
            apply indiscreet
            intro entry member
            exact (known entry member).discreet holds before.discreet
          exact absurd occurs (Sealing.not_occursIn_of_knows unknown unheard
            (outsiders holds byte part))
      · exact absurd occurs (unheard byte ⟨transmission, older, part⟩)

theorem exists_holder {key : Block α}
    (indiscreet : ¬ ∀ entry ∈ key.toList, Discreet secret remote entry)
    (arrived : ∀ byte ∈ encipher key nonce ad plaintext, byte ∈ heard sent) :
    ∃ transmission ∈ sent, Holds transmission.keys secret remote ∧
      transmission.Carries (encipher key nonce ad plaintext) := by
  let sealing : Sealing α := { key, nonce, ad, plaintext }
  have first : Byte.cipher key.toList nonce ad plaintext 0 0 ∈ heard sent :=
    arrived _ (mem_encipher.mpr ⟨0, by omega, rfl⟩)
  have occurs : sealing.OccursIn (.cipher key.toList nonce ad plaintext 0 0) :=
    .here 0 0 rfl rfl rfl rfl
  obtain ⟨transmission, member, holds, inside⟩ := traffic.exists_origin indiscreet first occurs
  exact ⟨transmission, member, holds, sealing, rfl, inside⟩

end

end Traffic

end Symbolic
