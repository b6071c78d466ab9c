import Mathlib.Data.Set.Function
import Mathlib.Data.Vector.Defs
import Teale.Lib.Bytes
import Teale.Lib.Merkle

/-!
# Hashes and inclusion proofs of ledger rows

The hashing half of `gateway/src/anchoring.rs`. SHA-256 is an arbitrary function to 32-byte
digests, so what is asked of it is that it does not confuse two of the messages that are hashed to
build the tree and to check the proof.
-/

namespace Teale.Gateway.Anchoring

open Option Bytes Merkle
open List hiding Vector

abbrev Digest := Vector UInt8 32

abbrev Hash := List UInt8 → Digest

/-! ## Entries -/

structure LedgerRow where
  id : Int64
  deviceId : String
  type : String
  amount : Int64
  timestamp : Int64
  refRequestId : Option String
  note : Option String
  deriving DecidableEq

def entryEncodingVersion : String := "TEALE-LEDGER-V1"

def int64Bytes (value : Int64) : List UInt8 := littleEndian 8 value.toBitVec.toNat

/-- `push_len_prefixed`; the length is cut to a `u32`. -/
def lenPrefixed (text : String) : List UInt8 :=
  littleEndian 4 (text.utf8ByteSize % 2 ^ 32) ++ ofText text

def encodeEntry (row : LedgerRow) : List UInt8 :=
  ofText entryEncodingVersion ++ int64Bytes row.id ++
    int64Bytes row.timestamp ++ int64Bytes row.amount ++
    lenPrefixed row.deviceId ++ lenPrefixed row.type ++
    lenPrefixed (row.refRequestId.getD "") ++ lenPrefixed (row.note.getD "")

def entryHash (sha256 : Hash) (row : LedgerRow) : Digest := sha256 (encodeEntry row)

def chainHash (sha256 : Hash) (previous entry : Digest) : Digest :=
  sha256 (previous.toList ++ entry.toList)

/-! ## The tree -/

def pairMessage (left right : Digest) : List UInt8 := 1 :: (left.toList ++ right.toList)

def hashPair (sha256 : Hash) (left right : Digest) : Digest := sha256 (pairMessage left right)

def zeroDigest : Digest := Vector.replicate 32 0

def merkleRoot (sha256 : Hash) (leaves : List Digest) : Digest :=
  (ascend (hashPair sha256) leaves.length leaves).head?.getD zeroDigest

structure ProofStep where
  sibling : String
  isLeft : Bool
  deriving DecidableEq, Repr

/-- `merkle_proof`; there is nothing to return for an index out of range,
where the code panics. -/
def merkleProof (sha256 : Hash) (leaves : List Digest) (index : ℕ) : Option (List ProofStep) :=
  if index < leaves.length then
    some ((pathFrom (hashPair sha256) leaves.length leaves index).map
      fun step => ⟨hexEncode step.1.toList, step.2⟩)
  else
    none

def Digest.ofBytes (bytes : List UInt8) : Option Digest :=
  if size : bytes.length = 32 then some ⟨bytes.toArray, size⟩ else none

def Digest.ofHex (text : String) : Option Digest := (hexDecode text).bind Digest.ofBytes

/-- The loop of `verify_proof`: a sibling that is no digest fails it. -/
def foldProof (sha256 : Hash) (leaf : Digest) (proof : List ProofStep) : Option Digest :=
  proof.foldlM (fun running step => do
    let sibling ← Digest.ofHex step.sibling
    pure (if step.isLeft then hashPair sha256 sibling running
      else hashPair sha256 running sibling)) leaf

def verifyProof (sha256 : Hash) (leaf : Digest) (proof : List ProofStep)
    (expectedRoot : Digest) : Bool :=
  foldProof sha256 leaf proof = some expectedRoot

@[simp] theorem Digest.ofHex_hexEncode (digest : Digest) :
    Digest.ofHex (hexEncode digest.toList) = some digest := by
  rw [Digest.ofHex, hexDecode_hexEncode, bind_some,
    Digest.ofBytes, dif_pos digest.length_toList]
  rfl

def ProofStep.decode (step : ProofStep) : Option (Digest × Bool) :=
  (Digest.ofHex step.sibling).map fun sibling => (sibling, step.isLeft)

theorem foldProof_eq (sha256 : Hash) (leaf : Digest) (proof : List ProofStep) :
    foldProof sha256 leaf proof = (proof.mapM ProofStep.decode).map
        (climb (hashPair sha256) leaf) := by
  induction proof generalizing leaf with
  | nil => rfl
  | cons step rest ih =>
    have decodes : step.decode = (Digest.ofHex step.sibling).map fun sibling =>
        (sibling, step.isLeft) := rfl
    rw [foldProof, foldlM_cons, mapM_cons, decodes]
    cases Digest.ofHex step.sibling with
    | none => rfl
    | some sibling =>
      refine (ih _).trans ?_
      cases rest.mapM ProofStep.decode <;> rfl

theorem mapM_decode (path : List (Digest × Bool)) : (path.map fun step =>
      (⟨hexEncode step.1.toList, step.2⟩ : ProofStep)).mapM ProofStep.decode = some path := by
  induction path with
  | nil => rfl
  | cons step rest ih =>
    rw [map_cons, mapM_cons, ih, ProofStep.decode, Digest.ofHex_hexEncode]
    rfl

/-! ## Completeness -/

/-- The proof of every leaf is accepted, and it has at most one step for every
level of a binary tree over the leaves. -/
theorem verifyProof_merkleProof (sha256 : Hash) (leaves : List Digest) (index : Fin leaves.length) :
    ∃ proof, merkleProof sha256 leaves index = some proof ∧
      verifyProof sha256 (leaves.get index) proof (merkleRoot sha256 leaves) = true ∧
      proof.length ≤ Nat.clog 2 leaves.length := by
  have stored : leaves[index.val]? = some (leaves.get index) := getElem?_eq_getElem index.isLt
  have reached := climb_pathFrom (hashPair sha256) le_rfl stored
  have short := length_pathFrom (hashPair sha256) leaves.length leaves index
  refine ⟨_, if_pos index.isLt, ?_, by rwa [length_map]⟩
  rw [verifyProof, decide_eq_true_iff, foldProof_eq, mapM_decode, map_some,
    merkleRoot, reached, getD_some]

/-! ## Reading an encoding back -/

/-- The text fields are shorter than the lengths a `u32` can hold. -/
def LedgerRow.FieldsFit (row : LedgerRow) : Prop :=
  row.deviceId.utf8ByteSize < 2 ^ 32 ∧ row.type.utf8ByteSize < 2 ^ 32 ∧
    (row.refRequestId.getD "").utf8ByteSize < 2 ^ 32 ∧
    (row.note.getD "").utf8ByteSize < 2 ^ 32

instance (row : LedgerRow) : Decidable row.FieldsFit := by
  unfold LedgerRow.FieldsFit
  infer_instance

def LedgerRow.Agrees (left right : LedgerRow) : Prop :=
  left.id = right.id ∧ left.timestamp = right.timestamp ∧
    left.amount = right.amount ∧ left.deviceId = right.deviceId ∧
    left.type = right.type ∧
    left.refRequestId.getD "" = right.refRequestId.getD "" ∧
    left.note.getD "" = right.note.getD ""

theorem int64Bytes_injective (same : int64Bytes left = int64Bytes right) : left = right := by
  have fits : ∀ value : Int64, value.toBitVec.toNat < 256 ^ 8 := fun value => value.toBitVec.isLt
  exact Int64.toBitVec_inj.mp (BitVec.eq_of_toNat_eq
    (littleEndian_injective (fits left) (fits right) same))

variable {leftRest rightRest : List UInt8}

theorem lenPrefixed_append_injective (leftFits : left.utf8ByteSize < 2 ^ 32)
    (rightFits : right.utf8ByteSize < 2 ^ 32)
    (same : lenPrefixed left ++ leftRest = lenPrefixed right ++ rightRest) :
    left = right ∧ leftRest = rightRest := by
  rw [lenPrefixed, lenPrefixed, Nat.mod_eq_of_lt leftFits,
    Nat.mod_eq_of_lt rightFits, append_assoc, append_assoc] at same
  obtain ⟨lengths, rest⟩ := append_inj same (by simp)
  have sameLength : left.utf8ByteSize = right.utf8ByteSize :=
    littleEndian_injective leftFits rightFits lengths
  obtain ⟨texts, rests⟩ := append_inj rest
    (by rw [length_ofText, length_ofText, sameLength])
  exact ⟨ofText_injective texts, rests⟩

theorem int64Bytes_append_injective
    (same : int64Bytes left ++ leftRest = int64Bytes right ++ rightRest) :
    left = right ∧ leftRest = rightRest := by
  obtain ⟨numbers, rests⟩ := append_inj same (by simp [int64Bytes])
  exact ⟨int64Bytes_injective numbers, rests⟩

theorem agrees_of_encodeEntry_eq (leftFits : left.FieldsFit) (rightFits : right.FieldsFit)
    (same : encodeEntry left = encodeEntry right) : left.Agrees right := by
  simp only [encodeEntry, append_assoc] at same
  have afterTag := append_cancel_left same
  obtain ⟨ids, afterId⟩ := int64Bytes_append_injective afterTag
  obtain ⟨timestamps, afterTimestamp⟩ := int64Bytes_append_injective afterId
  obtain ⟨amounts, afterAmount⟩ := int64Bytes_append_injective afterTimestamp
  obtain ⟨devices, afterDevice⟩ := lenPrefixed_append_injective leftFits.1 rightFits.1 afterAmount
  obtain ⟨types, afterType⟩ := lenPrefixed_append_injective leftFits.2.1 rightFits.2.1 afterDevice
  obtain ⟨requests, afterRequest⟩ :=
    lenPrefixed_append_injective leftFits.2.2.1 rightFits.2.2.1 afterType
  have notes : left.note.getD "" = right.note.getD "" := by
    rw [← append_nil (lenPrefixed (left.note.getD "")),
      ← append_nil (lenPrefixed (right.note.getD ""))] at afterRequest
    exact (lenPrefixed_append_injective leftFits.2.2.2 rightFits.2.2.2 afterRequest).1
  exact ⟨ids, timestamps, amounts, devices, types, requests, notes⟩

theorem pairMessage_injective (same : pairMessage left right = pairMessage left' right') :
    (left, right) = (left', right') := by
  obtain ⟨lefts, rights⟩ := append_inj (cons.inj same).2 (by simp)
  rw [Vector.toList_inj.mp lefts, Vector.toList_inj.mp rights]

theorem encodeEntry_ne_pairMessage (row : LedgerRow) (left right : Digest) :
    encodeEntry row ≠ pairMessage left right := by
  intro same
  have head : (encodeEntry row).head? = some 84 := by
    simp only [encodeEntry, append_assoc]
    rw [show ofText entryEncodingVersion = 84 :: ofText "EALE-LEDGER-V1" by decide]
    rfl
  rw [same] at head
  exact absurd head (by simp [pairMessage])

/-! ## Soundness -/

def treePairs (sha256 : Hash) (leaves : List Digest) : List (Digest × Digest) :=
  hashedPairs (hashPair sha256) leaves.length leaves

def proofPairs (sha256 : Hash) (leaf : Digest) (proof : List ProofStep) : List (Digest × Digest) :=
  climbPairs (hashPair sha256) leaf ((proof.mapM ProofStep.decode).getD [])

/-- Every message that is hashed to build the tree over the rows and to check
a proof for a row. -/
def hashedMessages (sha256 : Hash) (rows : List LedgerRow) (row : LedgerRow)
    (proof : List ProofStep) : List (List UInt8) :=
  (row :: rows).map encodeEntry ++ (treePairs sha256 (rows.map (entryHash sha256)) ++
      proofPairs sha256 (entryHash sha256 row) proof).map fun pair => pairMessage pair.1 pair.2

theorem built_merkleRoot (sha256 : Hash) (nonempty : leaves ≠ []) :
    Merkle.Built (hashPair sha256) leaves (treePairs sha256 leaves) (merkleRoot sha256 leaves) := by
  obtain ⟨root, isRoot⟩ := length_eq_one_iff.mp
    (length_ascend (hashPair sha256) le_rfl nonempty)
  have built : ∀ value ∈ ascend (hashPair sha256) leaves.length leaves,
      Merkle.Built (hashPair sha256) leaves (treePairs sha256 leaves) value :=
    built_ascend (fun _ member => .leaf member) fun _ member => member
  rw [isRoot] at built
  rw [merkleRoot, isRoot]
  exact built root (mem_singleton_self root)

/-- A proof that is accepted for a row, whatever it is made of, was accepted
because the row is one of the rows of the tree. -/
theorem exists_agreeing_row (sha256 : Hash) (rows : List LedgerRow) (row : LedgerRow)
    (proof : List ProofStep) (nonempty : rows ≠ [])
    (rowsFit : ∀ listed ∈ rows, listed.FieldsFit) (rowFits : row.FieldsFit)
    (injective : Set.InjOn sha256 {message | message ∈ hashedMessages sha256 rows row proof})
    (accepted : verifyProof sha256 (entryHash sha256 row) proof
      (merkleRoot sha256 (rows.map (entryHash sha256))) = true) :
    ∃ listed ∈ rows, listed.Agrees row := by
  have entryHashed : ∀ listed ∈ row :: rows,
      encodeEntry listed ∈ hashedMessages sha256 rows row proof :=
    fun listed member => mem_append_left _ (mem_map_of_mem member)
  have pairHashed : ∀ pair : Digest × Digest,
      pair ∈ treePairs sha256 (rows.map (entryHash sha256)) ++
        proofPairs sha256 (entryHash sha256 row) proof →
      pairMessage pair.1 pair.2 ∈ hashedMessages sha256 rows row proof :=
    fun pair member => mem_append_right _ (mem_map.mpr ⟨pair, member, rfl⟩)
  -- An entry hash is never the hash of a pair.
  have separate : ∀ listed ∈ row :: rows, ∀ pair : Digest × Digest,
      pair ∈ treePairs sha256 (rows.map (entryHash sha256)) ++
        proofPairs sha256 (entryHash sha256 row) proof →
      entryHash sha256 listed ≠ hashPair sha256 pair.1 pair.2 := by
    intro listed member pair pairMember same
    exact encodeEntry_ne_pairMessage listed pair.1 pair.2
      (injective (entryHashed listed member) (pairHashed pair pairMember) same)
  rw [verifyProof, decide_eq_true_iff, foldProof_eq, map_eq_some_iff] at accepted
  obtain ⟨path, decoded, reached⟩ := accepted
  have climbed : proofPairs sha256 (entryHash sha256 row) proof =
      climbPairs (hashPair sha256) (entryHash sha256 row) path := by
    rw [proofPairs, decoded, getD_some]
  have isLeaf : entryHash sha256 row ∈ rows.map (entryHash sha256) := by
    have hasLeaves : rows.map (entryHash sha256) ≠ [] := by simpa using nonempty
    have built := built_merkleRoot sha256 hasLeaves
    rw [← reached] at built
    refine mem_leaves_of_built_climb built ?_ ?_ ?_
    · intro pair member other otherMember same
      rw [← climbed] at otherMember
      exact pairMessage_injective (injective (pairHashed pair (mem_append_left _ member))
        (pairHashed other (mem_append_right _ otherMember)) same)
    · intro pair member
      exact separate row mem_cons_self pair (mem_append_left _ member)
    · intro value member other otherMember
      rw [← climbed] at otherMember
      obtain ⟨listed, inRows, rfl⟩ := mem_map.mp member
      exact separate listed (mem_cons_of_mem row inRows) other
        (mem_append_right _ otherMember)
  obtain ⟨listed, inRows, same⟩ := mem_map.mp isLeaf
  refine ⟨listed, inRows, agrees_of_encodeEntry_eq (rowsFit listed inRows) rowFits ?_⟩
  exact injective (entryHashed listed (mem_cons_of_mem row inRows))
    (entryHashed row mem_cons_self) same

def bonusRow (deviceId : String) : LedgerRow := ⟨1, deviceId, "BONUS", 5, 7, none, some ""⟩

def lengthHash : Hash := fun message => Vector.replicate 32 (UInt8.ofNat message.length)

/-- The proof for the first of two rows, with the second entry hash as its
sibling. -/
def siblingProof : List ProofStep :=
  [⟨hexEncode (entryHash lengthHash (bonusRow "ab")).toList, false⟩]

theorem exists_agreeing_row_of_two :
    verifyProof lengthHash (entryHash lengthHash (bonusRow "a")) siblingProof
        (merkleRoot lengthHash ([bonusRow "a", bonusRow "ab"].map (entryHash lengthHash))) = true ∧
      ∃ listed ∈ [bonusRow "a", bonusRow "ab"], listed.Agrees (bonusRow "a") := by
  have accepted : verifyProof lengthHash (entryHash lengthHash (bonusRow "a"))
      siblingProof (merkleRoot lengthHash ([bonusRow "a", bonusRow "ab"].map
        (entryHash lengthHash))) = true := by
    decide +kernel
  have injective : Set.InjOn lengthHash {message | message ∈ hashedMessages
      lengthHash [bonusRow "a", bonusRow "ab"] (bonusRow "a") siblingProof} := by
    have checked : ∀ left ∈ hashedMessages lengthHash
        [bonusRow "a", bonusRow "ab"] (bonusRow "a") siblingProof,
        ∀ right ∈ hashedMessages lengthHash
          [bonusRow "a", bonusRow "ab"] (bonusRow "a") siblingProof,
          lengthHash left = lengthHash right → left = right := by
      decide +kernel
    exact fun left leftMember right rightMember same =>
      checked left leftMember right rightMember same
  exact ⟨accepted, exists_agreeing_row lengthHash _ (bonusRow "a") siblingProof
    (by simp) (by decide +kernel) (by decide +kernel) injective accepted⟩

end Teale.Gateway.Anchoring
