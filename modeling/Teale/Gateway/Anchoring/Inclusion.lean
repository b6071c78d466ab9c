import Teale.Gateway.Anchoring.Ranges

/-!
# Inclusion proofs

The hashes between the bounds of an anchor stay as they were when it was drafted, so what
`inclusion_proof` returns leads to its root.
-/

namespace Teale.Gateway.Anchoring

open Relational Transactional List AnchoredDb Merkle Relational.Table Bytes

variable (sha256 : Hash) (table : Table ℕ EntryHashRow) (anchor : AnchorRow) (entryId : ℤ)

/-! ## The request -/

structure InclusionProof where
  entry : LedgerRow
  entryHash : String
  chainHash : String
  proof : List ProofStep
  anchor : ℕ × AnchorRow

def proves : Bool :=
  anchor.status = .confirmed ∧ anchor.firstEntryId ≤ entryId ∧ entryId ≤ anchor.lastEntryId

def coveringAnchor (anchors : Log AnchorRow) : Option (ℕ × AnchorRow) :=
  (anchors.rows.filter fun row => proves row.2 entryId).argmax Prod.fst

def hashedUnder : List (ℕ × EntryHashRow) :=
  (table.rows.filter fun row => anchor.firstEntryId ≤ row.1 ∧
    row.1 ≤ anchor.lastEntryId).insertionSort fun left right => left.1 ≤ right.1

def leavesUnder : List Digest :=
  (hashedUnder table anchor).map fun row => digestOrZero row.2.entryHash

/-- `inclusion_proof` once the row and the anchor over it are found. -/
def proveInclusion (row : LedgerRow) (anchor : ℕ × AnchorRow) : Tx InclusionProof := do
  let leaves := leavesUnder table anchor.2
  let position := (entryId - anchor.2.firstEntryId).toNat
  failIf (leaves.length ≤ position)
    (.message s!"entry {entryId} outside reconstructed anchor range")
  let proof ← getOr (merkleProof sha256 leaves position) .panic
  let stored := ((hashedUnder table anchor.2)[position]?.map Prod.snd).getD ⟨"", ""⟩
  let recomputed := hexEncode (entryHash sha256 row).toList
  failIf (recomputed ≠ stored.entryHash) (.message
    s!"entry {entryId} hash mismatch: row content changed after hashing (stored {stored.entryHash}, recomputed {recomputed})")
  pure ⟨row, stored.entryHash, stored.chainHash, proof, anchor⟩

def inclusionProof (state : AnchoredDb) : AnchoredDb × Tx (Option InclusionProof) :=
  let filled := backfillEntryHashes sha256 state
  (filled.1, do
    let _ ← filled.2
    match (entries filled.1.db).find? fun row => row.1 = entryId,
        coveringAnchor entryId filled.1.anchors with
    | some (_, row), some anchor =>
      some <$> proveInclusion sha256 filled.1.entryHashes entryId row anchor
    | _, _ => pure none)

/-! ## Roots of anchors -/

def Rooted : Prop :=
  anchor.lastEntryId ≤ table.rows.length ∧
    anchor.merkleRoot = hexEncode (merkleRoot sha256 (leavesUnder table anchor)).toList

def AnchorsRooted (state : AnchoredDb) : Prop :=
  ∀ row ∈ anchorRows state.anchors, Rooted sha256 state.entryHashes row

variable {sha256 table anchor entryId} {state : AnchoredDb} {size : ℕ}

theorem Rooted.extend {later : Table ℕ EntryHashRow} (rooted : Rooted sha256 table anchor)
    (grows : table.rows <+: later.rows) (ids : later.rows.map Prod.fst = range' 1 size) :
    Rooted sha256 later anchor := by
  obtain ⟨within, root⟩ := rooted
  obtain ⟨more, extended⟩ := grows
  -- ids are given in order, so what is added lies above the anchor
  have beyond : ∀ row ∈ more, table.rows.length < row.1 := by
    intro row member
    have rest := congrArg (drop table.rows.length) ids
    rw [← extended, map_append, drop_left' (length_map _), drop_range'] at rest
    have listed := mem_map_of_mem (f := Prod.fst) member
    rw [rest, mem_range'_1] at listed
    omega
  have unread : more.filter (fun row => anchor.firstEntryId ≤ row.1 ∧ row.1 ≤ anchor.lastEntryId) =
      [] := by
    rw [filter_eq_nil_iff]
    intro row member
    have := beyond row member
    simp only [decide_eq_true_eq]
    omega
  refine ⟨within.trans ?_, root.trans ?_⟩
  · rw [← extended, length_append]
    omega
  · rw [leavesUnder, leavesUnder, hashedUnder, hashedUnder, ← extended, filter_append, unread,
      append_nil]

theorem insertHashes_extends (previous : Digest) (rows : List (ℕ × LedgerRow)) :
    table.rows <+: (insertHashes sha256 table previous rows).1.rows := by
  induction rows generalizing table previous with
  | nil => exact prefix_rfl
  | cons row rest ih =>
    rw [insertHashes]
    split
    · exact prefix_rfl
    · rename_i absent
      refine IsPrefix.trans ?_ (ih _)
      rw [rows_insertOrIgnore_of_fresh table _ (by simpa using absent)]
      exact prefix_append _ _

theorem rooted_draftAnchor {now : Timestamp} (hashed : HashedUpTo state size)
    (drafted : draftAnchor sha256 state now = .ok (some anchor)) :
    Rooted sha256 state.entryHashes anchor := by
  have ids : state.entryHashes.rows.map Prod.fst = range' 1 size := hashed
  have length := congrArg List.length ids
  rw [length_map, length_range'] at length
  obtain ⟨after, anchored⟩ := Int.eq_ofNat_of_zero_le (show 0 ≤ lastAnchored state.anchors from
    foldl_preserves (0 ≤ ·) (fun _ _ _ => le_max_of_le_left) le_rfl)
  obtain ⟨_, noPending, drawn⟩ := bind_eq_ok.mp drafted
  have settled : ∀ row ∈ state.anchors.rows, row.2.status ≠ .pending := by
    simpa using failIf_eq_ok.mp noPending
  rcases draftAnchor_of_hashedUpTo sha256 hashed settled anchored now with
    nothing | ⟨other, isOther, -, covers⟩
  · cases nothing.symm.trans drafted
  · cases isOther.symm.trans drafted
    have same : state.entryHashes.rows.filter (fun row => anchor.firstEntryId ≤ row.1 ∧
        row.1 ≤ anchor.lastEntryId) = state.entryHashes.rows.filter fun row =>
          lastAnchored state.anchors < row.1 := by
      refine filter_congr fun row member => decide_eq_decide.mpr ?_
      have listed := mem_map_of_mem (f := Prod.fst) member
      rw [ids, mem_range'_1] at listed
      rw [covers.firstEntry, covers.lastEntry, anchored]
      omega
    refine ⟨by rw [length]; exact covers.lastEntry.le, ?_⟩
    rw [leavesUnder, hashedUnder, same]
    dsimp only at drawn
    split at drawn
    · cases drawn
    · obtain ⟨_, -, built⟩ := bind_eq_ok.mp drawn
      cases built
      rw [hashedAbove, List.map_map]
      rfl

theorem rooted_perform (keyHash : String → String) (operation : Operation)
    (contiguous : Contiguous state) (rooted : AnchorsRooted sha256 state) :
    AnchorsRooted sha256 (perform keyHash sha256 state operation) := by
  obtain ⟨size, hashed⟩ := (contiguous_backfillEntryHashes sha256 contiguous).hashed
  have filled : AnchorsRooted sha256 (backfillEntryHashes sha256 state).1 :=
    fun row member => (rooted row member).extend (insertHashes_extends _ _) hashed
  cases operation with
  | ledger call => exact rooted
  | backfillEntryHashes => exact filled
  | prepareAnchor now =>
    rw [perform, prepareAnchor]
    dsimp only
    split
    case h_1 | h_2 => exact filled
    case h_3 row returned =>
      obtain ⟨_, -, drafted⟩ := bind_eq_ok.mp returned
      have root := rooted_draftAnchor hashed drafted
      rw [AnchorsRooted, anchorRows, Log.rows_append, map_append]
      exact forall_mem_append.mpr ⟨filled, forall_mem_singleton.mpr root⟩
  | confirmAnchor | abandonAnchor =>
    rw [perform]
    refine commit_cases rooted fun state' ran => ?_
    obtain ⟨_, -, updated⟩ := bind_eq_ok.mp ran
    cases updated
    -- neither touches the range or the root
    intro row member
    obtain ⟨stored, isStored, rfl⟩ := mem_map.mp member
    obtain ⟨before, isBefore, rfl⟩ := mem_map.mp isStored
    have root := rooted _ (mem_anchorRows isBefore)
    dsimp only
    split <;> exact root

/-- What is returned leads from the hash of the row to the root over the leaves. -/
theorem verifyProof_of_proveInclusion {row : LedgerRow} {anchor : ℕ × AnchorRow}
    (proved : proveInclusion sha256 table entryId row anchor = .ok inclusion) :
    inclusion.entry = row ∧ inclusion.anchor = anchor ∧ verifyProof sha256 (entryHash sha256 row)
      inclusion.proof (merkleRoot sha256 (leavesUnder table anchor.2)) = true := by
  simp only [proveInclusion, ok_iff] at proved
  obtain ⟨inside, proof, built, same, rfl⟩ := proved
  rw [merkleProof, if_pos (not_le.mp inside), Option.some.injEq] at built
  have stored : (leavesUnder table anchor.2)[(entryId - anchor.2.firstEntryId).toNat]? =
      some (entryHash sha256 row) := by
    rw [leavesUnder, length_map, not_le] at inside
    rw [getElem?_eq_getElem inside, not_not, Option.map_some, Option.getD_some] at same
    rw [leavesUnder, getElem?_map, getElem?_eq_getElem inside, Option.map_some, ← same,
      digestOrZero_hexEncode]
  have reached := climb_pathFrom (hashPair sha256) le_rfl stored
  refine ⟨rfl, rfl, ?_⟩
  rw [← built, verifyProof, decide_eq_true_iff, foldProof_eq, mapM_decode, Option.map_some,
    merkleRoot, reached, Option.getD_some]

/-- In every run, resets included, a proof that is returned is for the row the
ledger has under the id, and is accepted for the root of a confirmed anchor.
`None` means that there is no such row or no such anchor. -/
theorem inclusionProof_accepted (keyHash : String → String) (sha256 : Hash)
    (operations : List Operation) (entryId : ℤ) :
    let state := run (perform keyHash sha256) empty operations
    match (inclusionProof sha256 entryId state).2 with
    | .ok (some inclusion) =>
      (∃ id : ℕ, id = entryId ∧ (id, inclusion.entry) ∈ entries state.db) ∧
        inclusion.anchor ∈ state.anchors.rows ∧ proves inclusion.anchor.2 entryId ∧
        ∃ root, Digest.ofHex inclusion.anchor.2.merkleRoot = some root ∧
          verifyProof sha256 (entryHash sha256 inclusion.entry) inclusion.proof root = true
    | .ok none => (∀ row ∈ entries state.db, row.1 ≠ entryId) ∨
        ∀ anchor ∈ state.anchors.rows, ¬proves anchor.2 entryId
    | .error _ => True := by
  intro state
  have held : Contiguous state ∧ AnchorsRooted sha256 state :=
    run_invariant (fun state => Contiguous state ∧ AnchorsRooted sha256 state)
      (fun state operation _ held => ⟨contiguous_perform keyHash sha256 operation held.1,
        rooted_perform keyHash operation held.1 held.2⟩)
      ⟨contiguous_empty, forall_mem_nil _⟩ (admissible_of_forall fun _ _ _ => trivial)
  have filled := rooted_perform keyHash .backfillEntryHashes held.1 held.2
  split
  case h_3 => trivial
  case h_1 inclusion returned =>
    obtain ⟨_, -, found⟩ := bind_eq_ok.mp returned
    split at found
    case h_2 => cases found
    case h_1 id row anchor isRow isAnchor =>
      obtain ⟨_, proved, ⟨⟩⟩ := map_eq_ok.mp found
      obtain ⟨rfl, rfl, accepted⟩ := verifyProof_of_proveInclusion proved
      obtain ⟨member, isProving⟩ := mem_filter.mp (argmax_mem isAnchor)
      refine ⟨⟨id, by simpa using find?_some isRow, mem_of_find?_eq_some isRow⟩, member,
        isProving, _, ?_, accepted⟩
      rw [(filled _ (mem_anchorRows member)).2]
      exact Digest.ofHex_hexEncode _
  case h_2 returned =>
    obtain ⟨_, -, found⟩ := bind_eq_ok.mp returned
    split at found
    case h_1 =>
      obtain ⟨_, -, ⟨⟩⟩ := map_eq_ok.mp found
    case h_2 lacking =>
      cases isRow : (entries state.db).find? fun row => row.1 = entryId with
      | none => exact .inl (by simpa using isRow)
      | some row =>
        refine .inr fun anchor member isProving => ?_
        cases isAnchor : coveringAnchor entryId state.anchors with
        | none => exact filter_eq_nil_iff.mp (argmax_eq_none.mp isAnchor) anchor member isProving
        | some last => exact lacking _ _ _ isRow isAnchor

example : ((inclusionProof lengthHash 1 (run (perform id lengthHash) empty
    anchoredBonus)).2.toOption.join).isSome := by decide +kernel

end Teale.Gateway.Anchoring
