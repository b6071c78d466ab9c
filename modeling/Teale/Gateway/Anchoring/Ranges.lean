import Mathlib.Data.List.Intervals
import Teale.Gateway.Anchoring.SideTable

/-!
# The ranges of anchors

The ids of the ledger and of the hash side table both run from 1 on without a gap, so the
confirmed anchors follow one another and `prepare_anchor` fails only while an anchor is pending. A
row that a reset deletes is not noticed.
-/

namespace Teale.Gateway.Anchoring

open Relational Transactional List AnchoredDb Option

variable {state state' : AnchoredDb} {size anchorId : ℕ}

variable (keyHash : String → String) (sha256 : Hash)

/-! ## Ids without a gap -/

theorem filter_lt_range' (bound size : ℕ) : (range' 1 size).filter (fun id => bound < id) =
      range' (bound + 1) (size - bound) := by
  have cut := Ico.filter_le 1 (size + 1) (bound + 1)
  simpa [Ico, Nat.succ_le_iff] using cut

def HashedUpTo (state : AnchoredDb) (size : ℕ) : Prop :=
  state.entryHashes.rows.map Prod.fst = range' 1 size

theorem find?_isNone_iff {id : ℕ} (hashed : HashedUpTo state size) (positive : 0 < id) :
    (state.entryHashes.find? id).isNone ↔ size < id := by
  have ids : state.entryHashes.rows.map Prod.fst = range' 1 size := hashed
  rw [isNone_iff_eq_none, Table.find?_eq_none_iff, ids, mem_range'_1]
  omega

theorem map_fst_fetchUnhashedRows
    (numbered : state.db.ledger.Numbered) (hashed : HashedUpTo state size) :
    (fetchUnhashedRows state).map Prod.fst =
      range' (size + 1) (state.db.ledger.lastId - size) := by
  have ids : state.db.ledger.rows.map Prod.fst = range' 1 state.db.ledger.lastId := numbered
  rw [← filter_lt_range', ← ids, ← map_fst_entries, List.filter_map]
  apply congrArg (map Prod.fst)
  apply filter_congr
  intro row member
  have listed : row.1 ∈ state.db.ledger.rows.map Prod.fst := by
    rw [← map_fst_entries]
    exact mem_map_of_mem member
  rw [ids, mem_range'_1] at listed
  rw [Bool.eq_iff_iff, find?_isNone_iff hashed (by omega)]
  exact decide_eq_true_iff.symm

/-- A backfill succeeds in every state, and leaves no gap. -/
theorem hashedUpTo_backfillEntryHashes (numbered : state.db.ledger.Numbered)
    (hashed : HashedUpTo state size) : HashedUpTo (backfillEntryHashes sha256 state).1
        (max size state.db.ledger.lastId) ∧ (backfillEntryHashes sha256 state).2 =
        .ok (fetchUnhashedRows state).length := by
  have ids : state.entryHashes.rows.map Prod.fst = range' 1 size := hashed
  have unhashed := map_fst_fetchUnhashedRows numbered hashed
  have nodup : ((fetchUnhashedRows state).map Prod.fst).Nodup := by
    rw [unhashed]
    exact nodup_range'
  have fresh : ∀ row ∈ fetchUnhashedRows state, state.entryHashes.find? row.1 = none := by
    intro row member
    exact isNone_iff_eq_none.mp (mem_filter.mp member).2
  have written := insertHashes_of_fresh sha256 state.entryHashes
    (chainTip state.entryHashes) nodup fresh
  constructor
  · have total : size + (state.db.ledger.lastId - size) =
        max size state.db.ledger.lastId := by omega
    change map Prod.fst (insertHashes sha256 state.entryHashes
      (chainTip state.entryHashes) (fetchUnhashedRows state)).1.rows = _
    rw [written.1, map_append, map_fst_hashRows, unhashed, ids, ← total,
      ← range'_append, Nat.one_mul, Nat.add_comm 1 size]
  · change (insertHashes sha256 state.entryHashes (chainTip state.entryHashes)
      (fetchUnhashedRows state)).2.map _ = _
    rw [written.2]
    rfl

theorem map_fst_hashedAbove (hashed : HashedUpTo state size) (bound : ℕ) :
    (hashedAbove state.entryHashes bound).map Prod.fst =
      range' (bound + 1) (size - bound) := by
  have ids : state.entryHashes.rows.map Prod.fst = range' 1 size := hashed
  have ordered : (state.entryHashes.rows.filter fun row =>
      (bound : ℤ) < row.1).Pairwise fun left right => left.1 ≤ right.1 := by
    apply List.Pairwise.filter
    have increasing := pairwise_lt_range' (s := 1) (n := size)
    rw [← ids, pairwise_map] at increasing
    exact increasing.imp Nat.le_of_lt
  rw [hashedAbove, List.Pairwise.insertionSort_eq ordered, List.map_map,
    ← filter_lt_range', ← ids, List.filter_map]
  apply congrArg (map Prod.fst)
  apply filter_congr
  intro row _
  simp

/-! ## A drafted anchor -/

structure AnchorRow.Covers (row : AnchorRow) (after last : ℕ) : Prop where
  nonempty : after < last
  firstEntry : row.firstEntryId = after + 1
  lastEntry : row.lastEntryId = last
  count : row.entryCount = last - after

theorem draftAnchor_of_hashedUpTo {after : ℕ} (hashed : HashedUpTo state size)
    (settled : ∀ row ∈ state.anchors.rows, row.2.status ≠ .pending)
    (anchored : lastAnchored state.anchors = after) (now : Timestamp) :
    draftAnchor sha256 state now = .ok none ∨ ∃ row, draftAnchor sha256 state now = .ok (some row) ∧
        row.status = .pending ∧ row.Covers after size := by
  have ids := map_fst_hashedAbove hashed after
  have noPending : ¬ (state.anchors.rows.any fun row => row.2.status = .pending) = true := by
    simpa using settled
  have count : (hashedAbove state.entryHashes after).length = size - after := by
    rw [← length_map (f := Prod.fst), ids, length_range']
  rw [draftAnchor, failIf, if_neg noPending, anchored]
  by_cases empty : hashedAbove state.entryHashes after = []
  · exact Or.inl (if_pos empty)
  · right
    have above : after < size := by
      have := length_pos_iff.mpr empty
      omega
    have nonempty : size - after ≠ 0 := by omega
    have first : (hashedAbove state.entryHashes after).head?.map
        (fun row => (row.1 : ℤ)) = some ((after : ℤ) + 1) := by
      have head := congrArg head? ids
      rw [head?_map, head?_range', if_neg nonempty] at head
      obtain ⟨row, found, same⟩ := map_eq_some_iff.mp head
      rw [found, map_some, same]
      rfl
    have last : (hashedAbove state.entryHashes after).getLast?.map
        (fun row => (row.1 : ℤ)) = some (size : ℤ) := by
      have final := congrArg getLast? ids
      rw [getLast?_map, getLast?_range', if_neg nonempty] at final
      obtain ⟨row, found, same⟩ := map_eq_some_iff.mp final
      have highest : row.1 = size := by omega
      rw [found, map_some, highest]
    have noGap : ¬ ((size : ℤ) - (after + 1) + 1 ≠ ((size - after : ℕ) : ℤ)) := by omega
    have size_sub : ((size - after : ℕ) : ℤ) = size - after := by omega
    simp only [if_neg empty, first, last, count, getD_some]
    refine ⟨_, bind_eq_ok.mpr ⟨⟨⟩, rfl, bind_eq_ok.mpr ⟨⟨⟩,
      failIf_eq_ok.mpr noGap, rfl⟩⟩, rfl, above, rfl, rfl, size_sub⟩

/-! ## Settled anchors -/

/-- Anchors in the order of their ids, none pending, with the last entry under a
confirmed one. -/
inductive Recorded : List AnchorRow → ℕ → Prop where
  | nil : Recorded [] 0
  | abandoned {rows : List AnchorRow} {last after upTo : ℕ} {row : AnchorRow}
      (recorded : Recorded rows last) (isAbandoned : row.status = .abandoned)
      (covers : row.Covers after upTo) : Recorded (rows ++ [row]) last
  | confirmed {rows : List AnchorRow} {last upTo : ℕ} {row : AnchorRow}
      (recorded : Recorded rows last) (isConfirmed : row.status = .confirmed)
      (covers : row.Covers last upTo) : Recorded (rows ++ [row]) upTo

def anchorRows (anchors : Log AnchorRow) : List AnchorRow := anchors.rows.map Prod.snd

def confirmedAnchors (anchors : Log AnchorRow) : List AnchorRow :=
  (anchorRows anchors).filter fun row => row.status = .confirmed

def highestConfirmed (rows : List AnchorRow) : ℤ :=
  ((rows.filter fun row => row.status = .confirmed).map AnchorRow.lastEntryId).foldl max 0

theorem lastAnchored_eq (anchors : Log AnchorRow) :
    lastAnchored anchors = highestConfirmed (anchorRows anchors) := by
  rw [lastAnchored, highestConfirmed, anchorRows, List.filter_map, List.map_map]
  rfl

theorem highestConfirmed_concat (rows : List AnchorRow) (row : AnchorRow) :
    highestConfirmed (rows ++ [row]) =
      if row.status = .confirmed then max (highestConfirmed rows) row.lastEntryId
      else highestConfirmed rows := by
  by_cases isConfirmed : row.status = .confirmed
  · simp [highestConfirmed, isConfirmed, foldl_append]
  · simp [highestConfirmed, isConfirmed]

namespace Recorded

variable {rows : List AnchorRow} {last : ℕ}

section

variable (recorded : Recorded rows last)

include recorded

theorem not_pending : ∀ row ∈ rows, row.status ≠ .pending := by
  induction recorded with
  | nil => exact forall_mem_nil _
  | abandoned _ isStatus _ ih | confirmed _ isStatus _ ih =>
    refine forall_mem_append.mpr ⟨ih, forall_mem_singleton.mpr ?_⟩
    rw [isStatus]
    decide

theorem exists_covers : ∀ row ∈ rows, ∃ after upTo, row.Covers after upTo := by
  induction recorded with
  | nil => exact forall_mem_nil _
  | abandoned _ _ covers ih | confirmed _ _ covers ih =>
    exact forall_mem_append.mpr ⟨ih, forall_mem_singleton.mpr ⟨_, _, covers⟩⟩

theorem highestConfirmed_eq : highestConfirmed rows = last := by
  induction recorded with
  | nil => rfl
  | abandoned _ isAbandoned _ ih =>
    rw [highestConfirmed_concat, if_neg (by rw [isAbandoned]; decide)]
    exact ih
  | confirmed _ isConfirmed covers ih =>
    have rises := covers.nonempty
    rw [highestConfirmed_concat, if_pos isConfirmed, ih, covers.lastEntry]
    omega

theorem isChain : (rows.filter fun row => row.status = .confirmed).IsChain (fun earlier later =>
          later.firstEntryId = earlier.lastEntryId + 1) ∧
      ∀ row ∈ (rows.filter fun row => row.status = .confirmed).getLast?,
        row.lastEntryId = last := by
  induction recorded with
  | nil => simp
  | abandoned _ isAbandoned _ ih => simpa [isAbandoned] using ih
  | confirmed _ isConfirmed covers ih =>
    obtain ⟨chain, ends⟩ := ih
    rw [filter_append]
    simp only [isConfirmed, decide_true, filter_cons_of_pos,
      filter_nil, getLast?_concat, mem_some_iff]
    constructor
    · rw [isChain_append]
      refine ⟨chain, isChain_singleton _, ?_⟩
      intro earlier isLast later isNext
      rw [head?_cons, mem_some_iff] at isNext
      rw [← isNext, ends earlier isLast]
      exact covers.firstEntry
    · rintro row rfl
      exact covers.lastEntry

end

end Recorded

/-! ## Every reachable state -/

/-- What every run keeps: ids without a gap in both tables, and settled anchors
with at most one pending after them, which starts where they end. -/
structure Contiguous (state : AnchoredDb) : Prop where
  numbered : state.db.ledger.Numbered
  hashed : ∃ size, HashedUpTo state size
  anchors : ∃ settled last, Recorded settled last ∧
    (anchorRows state.anchors = settled ∨ ∃ row upTo, row.status = .pending ∧ row.Covers last upTo ∧
        anchorRows state.anchors = settled ++ [row])

theorem contiguous_empty : Contiguous empty where
  numbered := Log.numbered_empty
  hashed := ⟨0, rfl⟩
  anchors := ⟨[], 0, .nil, Or.inl rfl⟩

theorem mem_anchorRows {anchors : Log AnchorRow} {row : ℕ × AnchorRow}
    (member : row ∈ anchors.rows) : row.2 ∈ anchorRows anchors :=
  mem_map_of_mem member

section

variable (contiguous : Contiguous state)

include contiguous

theorem contiguous_backfillEntryHashes : Contiguous (backfillEntryHashes sha256 state).1 := by
  obtain ⟨size, hashed⟩ := contiguous.hashed
  have filled := hashedUpTo_backfillEntryHashes sha256 contiguous.numbered hashed
  exact ⟨contiguous.numbered, ⟨_, filled.1⟩, contiguous.anchors⟩

theorem backfillEntryHashes_succeeds :
    ∃ count, (backfillEntryHashes sha256 state).2 = .ok count := by
  obtain ⟨size, hashed⟩ := contiguous.hashed
  exact ⟨_, (hashedUpTo_backfillEntryHashes sha256 contiguous.numbered hashed).2⟩

/-- `prepare_anchor` fails over a pending anchor, and otherwise finds nothing
to anchor or appends an anchor that starts where the last one ended. -/
theorem prepareAnchor_cases (now : Timestamp) :
    let filled := (backfillEntryHashes sha256 state).1
    (∃ row ∈ state.anchors.rows, row.2.status = .pending) ∧
        (∃ failure, prepareAnchor sha256 state now = (filled, .error failure)) ∨
      (∀ row ∈ state.anchors.rows, row.2.status ≠ .pending) ∧
        (prepareAnchor sha256 state now = (filled, .ok none) ∨ ∃ row prepared last upTo,
            prepareAnchor sha256 state now = ({ filled with anchors := state.anchors.append row },
                .ok (some prepared)) ∧
            Recorded (anchorRows state.anchors) last ∧
            row.status = .pending ∧ row.Covers last upTo) := by
  intro filled
  obtain ⟨count, succeeds⟩ := backfillEntryHashes_succeeds sha256 contiguous
  have filledContiguous := contiguous_backfillEntryHashes sha256 contiguous
  by_cases pending : ∃ row ∈ state.anchors.rows, row.2.status = .pending
  · left
    obtain ⟨failure, refused⟩ : ∃ failure, draftAnchor sha256 filled now = .error failure := by
      have any : (state.anchors.rows.any fun row => row.2.status = .pending) = true := by
        simpa using pending
      rw [draftAnchor, failIf]
      change ∃ failure, (if (state.anchors.rows.any fun row =>
          row.2.status = .pending) = true then _ else _) >>= _ = _
      rw [if_pos any]
      exact ⟨_, rfl⟩
    refine ⟨pending, failure, ?_⟩
    simp only [prepareAnchor, succeeds, Except.bind]
    rw [refused]
  · right
    have settled : ∀ row ∈ state.anchors.rows, row.2.status ≠ .pending :=
      fun row member isPending => pending ⟨row, member, isPending⟩
    obtain ⟨rows, last, recorded, isSettled | ⟨row, upTo, isPending, -, shape⟩⟩ :=
      contiguous.anchors
    · refine ⟨settled, ?_⟩
      subst isSettled
      obtain ⟨size, hashed⟩ := filledContiguous.hashed
      have anchored : lastAnchored filled.anchors = last := by
        rw [lastAnchored_eq]
        exact recorded.highestConfirmed_eq
      rcases draftAnchor_of_hashedUpTo sha256 hashed settled anchored now with
        nothing | ⟨row, drafted, isPending, covers⟩
      · left
        simp only [prepareAnchor, succeeds, Except.bind]
        rw [nothing]
      · right
        obtain ⟨prepared, appended⟩ : ∃ prepared, prepareAnchor sha256 state now =
            ({ filled with anchors := state.anchors.append row }, .ok (some prepared)) := by
          simp only [prepareAnchor, succeeds, Except.bind]
          rw [drafted]
          exact ⟨_, rfl⟩
        exact ⟨row, prepared, last, size, appended, recorded, isPending, covers⟩
    · have newest : row ∈ anchorRows state.anchors := by
        rw [shape]
        exact mem_append_right _ (mem_singleton_self row)
      obtain ⟨stored, member, rfl⟩ := mem_map.mp newest
      exact absurd isPending (settled stored member)

theorem contiguous_prepareAnchor (now : Timestamp) :
    Contiguous (prepareAnchor sha256 state now).1 := by
  have filled := contiguous_backfillEntryHashes sha256 contiguous
  rcases prepareAnchor_cases sha256 contiguous now with
    ⟨-, failure, failed⟩ | ⟨-, nothing | ⟨row, prepared, last, upTo, ran,
      recorded, isPending, covers⟩⟩
  · rw [failed]
    exact filled
  · rw [nothing]
    exact filled
  · rw [ran]
    refine ⟨filled.numbered, filled.hashed, _, last, recorded, Or.inr
      ⟨row, upTo, isPending, covers, ?_⟩⟩
    simp [anchorRows]

end

variable {change : AnchorRow → AnchorRow}

theorem anchorRows_updatePendingAnchor {failure : String} (contiguous : Contiguous state)
    (ran : updatePendingAnchor state anchorId change failure = .ok state') :
    ∃ settled last row upTo, Recorded settled last ∧ row.Covers last upTo ∧
      state'.db = state.db ∧ state'.entryHashes = state.entryHashes ∧
      anchorRows state'.anchors = settled ++ [change row] := by
  obtain ⟨settled, last, recorded, shape⟩ := contiguous.anchors
  simp only [updatePendingAnchor, bind_eq_ok, failIf_eq_ok,
    pure_eq_ok, Bool.not_eq_false, List.any_eq_true, Bool.and_eq_true,
    decide_eq_true_eq] at ran
  obtain ⟨_, ⟨⟨id, found⟩, member, sameId, isPending⟩, rfl⟩ := ran
  have unsettled : found ∉ settled :=
    fun inSettled => recorded.not_pending found inSettled isPending
  rcases shape with shape | ⟨row, upTo, rowPending, covers, shape⟩
  · exact absurd (shape ▸ mem_anchorRows member) unsettled
  · refine ⟨settled, last, row, upTo, recorded, covers, rfl, rfl, ?_⟩
    obtain ⟨before, newest, split, isBefore, isNewest⟩ := map_eq_append_iff.mp shape
    obtain ⟨stored, rfl, rfl⟩ := map_eq_singleton_iff.mp isNewest
    have isFound : stored.1 = anchorId := by
      rw [split] at member
      rcases mem_append.mp member with older | last
      · exact absurd (isBefore ▸ mem_map_of_mem older) unsettled
      · rw [← mem_singleton.mp last]
        exact sameId
    have untouched : ∀ row ∈ before, (if row.1 = anchorId ∧
        row.2.status = .pending then change row.2 else row.2) = row.2 := by
      intro row inBefore
      have notPending := recorded.not_pending row.2 (isBefore ▸ mem_map_of_mem inBefore)
      exact if_neg fun both => notPending both.2
    simp only [anchorRows, Log.update, split, map_append, List.map_map,
      map_cons, map_nil, Function.comp_def, ← isBefore]
    rw [if_pos ⟨isFound, rowPending⟩]
    congr 1
    exact map_congr_left untouched

theorem contiguous_updatePendingAnchor {failure : String} (contiguous : Contiguous state)
    (settles : ∀ settled last row upTo, Recorded settled last →
      row.Covers last upTo → ∃ last', Recorded (settled ++ [change row]) last')
    (ran : updatePendingAnchor state anchorId change failure = .ok state') :
    Contiguous state' := by
  obtain ⟨settled, last, row, upTo, recorded, covers, sameDb, sameHashes, rows⟩ :=
    anchorRows_updatePendingAnchor contiguous ran
  obtain ⟨last', recorded'⟩ := settles settled last row upTo recorded covers
  obtain ⟨db, hashes, anchors⟩ := state'
  subst sameDb sameHashes
  exact ⟨contiguous.numbered, contiguous.hashed, _, last', recorded', Or.inl rows⟩

theorem contiguous_perform (operation : Operation)
    (contiguous : Contiguous state) : Contiguous (perform keyHash sha256 state operation) := by
  cases operation with
  | ledger call =>
    have numbered : (commit (execute keyHash) state.db call).ledger.Numbered := by
      refine commit_cases contiguous.numbered fun db' ran => ?_
      by_cases reset : call = .resetGenesis
      · rw [reset] at ran
        cases execute_resetGenesis ran
        exact Log.numbered_empty
      · obtain ⟨rows, appended⟩ := execute_ledgerAppends reset ran
        rw [appended]
        exact contiguous.numbered.appendAll rows
    exact ⟨numbered, contiguous.hashed, contiguous.anchors⟩
  | backfillEntryHashes => exact contiguous_backfillEntryHashes sha256 contiguous
  | prepareAnchor now => exact contiguous_prepareAnchor sha256 contiguous now
  | confirmAnchor =>
    rw [perform]
    refine commit_cases contiguous fun state' ran => contiguous_updatePendingAnchor contiguous ?_ ran
    intro settled last row upTo recorded covers
    refine ⟨upTo, recorded.confirmed rfl ?_⟩
    exact ⟨covers.nonempty, covers.firstEntry, covers.lastEntry, covers.count⟩
  | abandonAnchor =>
    rw [perform]
    refine commit_cases contiguous fun state' ran => contiguous_updatePendingAnchor contiguous ?_ ran
    intro settled last row upTo recorded covers
    have closed : ({ row with status := .abandoned } : AnchorRow).Covers last upTo :=
      ⟨covers.nonempty, covers.firstEntry, covers.lastEntry, covers.count⟩
    exact ⟨last, recorded.abandoned rfl closed⟩

theorem contiguous_run (operations : List Operation) :
    Contiguous (run (perform keyHash sha256) empty operations) := by
  have admissible : Admissible (fun _ _ => True) (perform keyHash sha256)
      empty operations := admissible_of_forall fun _ _ _ => trivial
  apply run_invariant Contiguous _ contiguous_empty admissible
  intro state operation _ contiguous
  exact contiguous_perform keyHash sha256 operation contiguous

theorem Contiguous.isChain (contiguous : Contiguous state) :
    (confirmedAnchors state.anchors).IsChain fun earlier later =>
      later.firstEntryId = earlier.lastEntryId + 1 := by
  obtain ⟨settled, last, recorded, shape | ⟨row, upTo, isPending, -, shape⟩⟩ := contiguous.anchors
  · rw [confirmedAnchors, shape]
    exact recorded.isChain.1
  · rw [confirmedAnchors, shape, filter_append]
    simpa [isPending] using recorded.isChain.1

theorem Contiguous.exists_covers (contiguous : Contiguous state) :
    ∀ row ∈ anchorRows state.anchors, ∃ after upTo, row.Covers after upTo := by
  obtain ⟨settled, last, recorded, shape | ⟨newest, upTo, -, covers, shape⟩⟩ := contiguous.anchors
  · rw [shape]
    exact recorded.exists_covers
  · rw [shape]
    exact forall_mem_append.mpr
      ⟨recorded.exists_covers, forall_mem_singleton.mpr ⟨_, upTo, covers⟩⟩

/-! ## Deleted rows -/

/-- Once there is an anchor, the ledger is reset only while it is empty. -/
def KeepsAnchored (state : AnchoredDb) (operation : Operation) : Prop :=
  operation = .ledger .resetGenesis → state.anchors.rows = [] ∨ state.db.ledger.rows = []

theorem perform_keeps (contiguous : Contiguous state) (anchored : state.anchors.rows ≠ [])
    (keeps : KeepsAnchored state operation) :
    (perform keyHash sha256 state operation).anchors.rows ≠ [] ∧ ∀ row ∈ state.db.ledger.rows,
        row ∈ (perform keyHash sha256 state operation).db.ledger.rows := by
  have updates : ∀ {anchorId change failure state'},
      updatePendingAnchor state anchorId change failure = .ok state' →
      state'.anchors.rows ≠ [] ∧ state'.db = state.db := by
    intro anchorId change failure state' ran
    simp only [updatePendingAnchor, ok_iff] at ran
    obtain ⟨_, -, rfl⟩ := ran
    exact ⟨by simpa [Log.update] using anchored, rfl⟩
  cases operation with
  | ledger call =>
    refine ⟨anchored, ?_⟩
    intro row member
    by_cases reset : call = .resetGenesis
    · have empty := (keeps (by rw [reset])).resolve_left anchored
      rw [empty] at member
      exact absurd member not_mem_nil
    · rw [perform]
      refine commit_cases member fun db' ran => ?_
      exact (execute_ledgerGrows reset ran).subset member
  | backfillEntryHashes => exact ⟨anchored, fun _ member => member⟩
  | prepareAnchor now =>
    rcases prepareAnchor_cases sha256 contiguous now with
      ⟨-, failure, failed⟩ | ⟨-, nothing | ⟨row, prepared, last, upTo, ran, -⟩⟩
    · rw [perform, failed]
      exact ⟨anchored, fun _ member => member⟩
    · rw [perform, nothing]
      exact ⟨anchored, fun _ member => member⟩
    · rw [perform, ran]
      exact ⟨by simp, fun _ member => member⟩
  | confirmAnchor | abandonAnchor =>
    rw [perform]
    refine commit_cases ⟨anchored, fun _ member => member⟩ fun state' ran => ?_
    rw [(updates ran).2]
    exact ⟨(updates ran).1, fun _ member => member⟩

theorem run_keeps {operations : List Operation}
    (contiguous : Contiguous state) (anchored : state.anchors.rows ≠ [])
    (keeps : Admissible KeepsAnchored (perform keyHash sha256) state operations) :
    ∀ row ∈ state.db.ledger.rows,
      row ∈ (run (perform keyHash sha256) state operations).db.ledger.rows := by
  refine (run_invariant (fun later => Contiguous later ∧ later.anchors.rows ≠ [] ∧
    ∀ row ∈ state.db.ledger.rows, row ∈ later.db.ledger.rows) ?_
      ⟨contiguous, anchored, fun _ member => member⟩ keeps).2.2
  rintro later operation keeps ⟨contiguous, anchored, kept⟩
  obtain ⟨stillAnchored, keptOn⟩ := perform_keeps keyHash sha256 contiguous anchored keeps
  exact ⟨contiguous_perform keyHash sha256 operation contiguous, stillAnchored,
    fun row member => keptOn row (kept row member)⟩

/-- In every run, resets included, each confirmed anchor starts right after the
one before it, every anchor counts the entries of its range, and
`prepare_anchor` fails if and only if an anchor is pending. When the ledger is
not reset once there is an anchor, no row of it goes, so that none goes without
`prepare_anchor` failing. -/
theorem anchored_ranges_contiguous (keyHash : String → String) (sha256 : Hash) : (∀ operations,
      let state := run (perform keyHash sha256) empty operations
      (confirmedAnchors state.anchors).IsChain (fun earlier later =>
          later.firstEntryId = earlier.lastEntryId + 1) ∧
        (∀ row ∈ state.anchors.rows, row.2.entryCount =
          row.2.lastEntryId - row.2.firstEntryId + 1) ∧
        ∀ now, (∃ failure, (prepareAnchor sha256 state now).2 = .error failure) ↔
          ∃ row ∈ state.anchors.rows, row.2.status = .pending) ∧
    (∀ before after,
      let anchored := run (perform keyHash sha256) empty before
      let state := run (perform keyHash sha256) anchored after
      Admissible KeepsAnchored (perform keyHash sha256) anchored after →
      anchored.anchors.rows ≠ [] →
      (∀ row ∈ anchored.db.ledger.rows, row ∈ state.db.ledger.rows) ∧
        ∀ row ∈ anchored.db.ledger.rows, row ∉ state.db.ledger.rows →
          ∀ now, ∃ failure, (prepareAnchor sha256 state now).2 = .error failure) := by
  constructor
  · intro operations state
    have contiguous := contiguous_run keyHash sha256 operations
    refine ⟨contiguous.isChain, ?_, ?_⟩
    · intro row member
      obtain ⟨after, upTo, covers⟩ := contiguous.exists_covers row.2 (mem_anchorRows member)
      rw [covers.count, covers.firstEntry, covers.lastEntry]
      omega
    · intro now
      have succeeds : ∀ {prepared}, (prepareAnchor sha256 state now).2 =
          .ok prepared → ¬ ∃ failure, (prepareAnchor sha256 state now).2 = .error failure := by
        rintro prepared returned ⟨failure, failed⟩
        rw [returned] at failed
        cases failed
      rcases prepareAnchor_cases sha256 contiguous now with
        ⟨pending, failure, failed⟩ | ⟨settled, nothing | ⟨_, _, _, _, returned, -⟩⟩
      · exact iff_of_true ⟨failure, by rw [failed]⟩ pending
      · exact iff_of_false (succeeds (by rw [nothing]))
          fun ⟨row, member, isPending⟩ => settled row member isPending
      · exact iff_of_false (succeeds (by rw [returned]))
          fun ⟨row, member, isPending⟩ => settled row member isPending
  · intro before after anchored state keeps isAnchored
    have kept := run_keeps keyHash sha256 (contiguous_run keyHash sha256 before) isAnchored keeps
    exact ⟨kept, fun row member gone => absurd (kept row member) gone⟩

def anchoredBonus : List Operation :=
  [.ledger (.upsertDevice "device" 1), .ledger (.recordBonus "device" 5 1),
    .prepareAnchor 1, .confirmAnchor 1 "signature" 2,
    .ledger (.recordBonus "device" 7 3)]

def secondAnchor : List Operation := [.prepareAnchor 4, .confirmAnchor 2 "other" 5]

theorem anchored_ranges_contiguous_bonuses :
    let anchored := run (perform id lengthHash) empty anchoredBonus
    let state := run (perform id lengthHash) empty
      (anchoredBonus ++ secondAnchor)
    (confirmedAnchors state.anchors).IsChain (fun earlier later =>
        later.firstEntryId = earlier.lastEntryId + 1) ∧
      (confirmedAnchors state.anchors).length = 2 ∧
      ∀ row ∈ anchored.db.ledger.rows, row ∈ state.db.ledger.rows := by
  have ranges := anchored_ranges_contiguous id lengthHash
  have anchored : (run (perform id lengthHash) empty
      anchoredBonus).anchors.rows.length ≠ 0 := by decide +kernel
  have keeps : Admissible KeepsAnchored (perform id lengthHash)
      (run (perform id lengthHash) empty anchoredBonus)
      secondAnchor := by
    apply admissible_of_forall
    intro operation member state reset
    subst reset
    simp [secondAnchor] at member
  refine ⟨(ranges.1 (anchoredBonus ++ secondAnchor)).1, by decide +kernel, ?_⟩
  rw [run_append]
  exact (ranges.2 anchoredBonus secondAnchor keeps (mt (congrArg length) anchored)).1

def resetBetweenAnchors : List Operation :=
  [.ledger .resetGenesis, .ledger (.upsertDevice "other" 4),
    .ledger (.recordBonus "other" 1 4), .ledger (.recordBonus "other" 2 4)]

/-- After a reset the ids start again, the rows from before it are gone, also
the one that was not yet anchored, and the next anchor is prepared. -/
theorem deleted_row_unnoticed :
    let anchored := run (perform id lengthHash) empty anchoredBonus
    let state := run (perform id lengthHash) anchored resetBetweenAnchors
    (anchored.anchors.rows.map fun row => row.2.status) = [.confirmed] ∧
      (∃ row ∈ anchored.db.ledger.rows, row.1 = 2 ∧ row ∉ state.db.ledger.rows) ∧
      ∃ prepared, (prepareAnchor lengthHash state 5).2 = .ok (some prepared) := by
  intro anchored state
  have before : ∃ row ∈ anchored.db.ledger.rows,
      row.1 = 2 ∧ row.2.deviceId = "device" := by decide +kernel
  have after : ∀ row ∈ state.db.ledger.rows, row.2.deviceId ≠ "device" := by decide +kernel
  have prepares : ((prepareAnchor lengthHash state 5).2.toOption.map
      isSome) = some true := by decide +kernel
  refine ⟨by decide +kernel, ?_, ?_⟩
  · obtain ⟨row, member, second, own⟩ := before
    exact ⟨row, member, second, fun kept => after row kept own⟩
  · match (prepareAnchor lengthHash state 5).2, prepares with
    | .ok (some prepared), _ => exact ⟨prepared, rfl⟩

end Teale.Gateway.Anchoring
