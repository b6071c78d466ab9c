import Mathlib.Data.List.MinMax
import Teale.Gateway.Anchoring.Proofs
import Teale.Gateway.LedgerGrowth

/-!
# The hash side table

The database half of `gateway/src/anchoring.rs`. As long as the ledger only grows,
`ledger_entry_hashes` is the chain over its first rows; `reset_genesis` deletes the ledger and
leaves the side table as it is.
-/

namespace Teale.Gateway.Anchoring

open Relational Transactional List Relational.Table Bytes Option

variable {sha256 : Hash} {state : AnchoredDb} {table : Table ℕ EntryHashRow}
  {keyHash : String → String}

/-! ## Tables -/

structure EntryHashRow where
  entryHash : String
  chainHash : String
  deriving DecidableEq

inductive AnchorStatus
  | pending
  | confirmed
  | abandoned
  deriving DecidableEq

structure AnchorRow where
  createdAt : Timestamp
  firstEntryId : ℤ
  lastEntryId : ℤ
  entryCount : ℤ
  merkleRoot : String
  chainTip : String
  memo : String
  status : AnchorStatus := .pending
  txSignature : Option String := none
  confirmedAt : Option Timestamp := none

structure AnchoredDb where
  db : Db
  entryHashes : Table ℕ EntryHashRow
  anchors : Log AnchorRow

def AnchoredDb.empty : AnchoredDb := ⟨Db.empty, ∅, ∅⟩

def LedgerRow.ofStored (id : ℕ) (row : Gateway.LedgerRow) : LedgerRow where
  id := .ofNat id
  deviceId := row.deviceId
  type := row.type.asStr
  amount := .ofInt row.amount
  timestamp := .ofInt row.timestamp
  refRequestId := row.refRequestId
  note := row.note

def entries (db : Db) : List (ℕ × LedgerRow) :=
  db.ledger.rows.map fun row => (row.1, .ofStored row.1 row.2)

/-! ## Backfilling -/

def fetchUnhashedRows (state : AnchoredDb) : List (ℕ × LedgerRow) :=
  (entries state.db).filter fun row => (state.entryHashes.find? row.1).isNone

/-- The digest a stored text stands for, 32 zero bytes when it is none. -/
def digestOrZero (text : String) : Digest := (Digest.ofHex text).getD zeroDigest

def chainTip (table : Table ℕ EntryHashRow) : Digest := ((table.rows.argmax Prod.fst).map fun row =>
    digestOrZero row.2.chainHash).getD zeroDigest

def EntryHashRow.extending (sha256 : Hash) (previous : Digest)
    (row : LedgerRow) : EntryHashRow where
  entryHash := hexEncode (Anchoring.entryHash sha256 row).toList
  chainHash := hexEncode
    (Anchoring.chainHash sha256 previous (Anchoring.entryHash sha256 row)).toList

def insertHashes (sha256 : Hash) (table : Table ℕ EntryHashRow) (previous : Digest) :
    List (ℕ × LedgerRow) → Table ℕ EntryHashRow × Except LedgerError Unit
  | [] => (table, .ok ())
  | (id, row) :: rest =>
    if (table.find? id).isSome then
      (table, .error (.sql (.unique "ledger_entry_hashes" "entry_id")))
    else
      insertHashes sha256 (table.insertOrIgnore id (.extending sha256 previous row))
        (chainHash sha256 previous (entryHash sha256 row)) rest

def backfillEntryHashes (sha256 : Hash) (state : AnchoredDb) : AnchoredDb × Except LedgerError ℕ :=
  let rows := fetchUnhashedRows state
  let inserted := insertHashes sha256 state.entryHashes
    (chainTip state.entryHashes) rows
  ({ state with entryHashes := inserted.1 }, inserted.2.map fun _ => rows.length)

/-! ## Anchors -/

def anchorMemo (first last count : ℤ) (root tip : Digest) : String :=
  "TEALE:ANCHOR:V1:" ++ toString first ++ ":" ++ toString last ++ ":" ++
    toString count ++ ":" ++ hexEncode root.toList ++ ":" ++
    hexEncode tip.toList

def lastAnchored (anchors : Log AnchorRow) : ℤ :=
  ((anchors.rows.filter fun row => row.2.status = .confirmed).map
    fun row => row.2.lastEntryId).foldl max 0

def hashedAbove (table : Table ℕ EntryHashRow) (id : ℤ) : List (ℕ × Digest × Digest) :=
  ((table.rows.filter fun row => id < row.1).insertionSort
    fun left right => left.1 ≤ right.1).map fun row =>
      (row.1, digestOrZero row.2.entryHash, digestOrZero row.2.chainHash)

/-- The part of `prepare_anchor` after its backfill: the anchor to insert, if
there is anything to anchor. -/
def draftAnchor (sha256 : Hash) (state : AnchoredDb) (now : Timestamp) : Tx (Option AnchorRow) := do
  failIf ((state.anchors.rows.any fun row => row.2.status = .pending) = true)
    (.message "a pending anchor already exists — finalize or abandon it first")
  let hashed := hashedAbove state.entryHashes (lastAnchored state.anchors)
  if hashed = [] then
    pure none
  else
    let first : ℤ := (hashed.head?.map fun row => (row.1 : ℤ)).getD 0
    let last : ℤ := (hashed.getLast?.map fun row => (row.1 : ℤ)).getD 0
    let count : ℤ := hashed.length
    failIf (last - first + 1 ≠ count)
      (.message s!"ledger id range {first}..={last} has gaps ({count} rows) — investigate before anchoring")
    let root := merkleRoot sha256 (hashed.map fun row => row.2.1)
    let tip := (hashed.getLast?.map fun row => row.2.2).getD zeroDigest
    pure (some
      { createdAt := now
        firstEntryId := first
        lastEntryId := last
        entryCount := count
        merkleRoot := hexEncode root.toList
        chainTip := hexEncode tip.toList
        memo := anchorMemo first last count root tip })

/-- `PreparedAnchor`: the anchor under its id, and how to sign it. -/
structure PreparedAnchor where
  id : ℕ
  record : AnchorRow
  signCommand : String

def prepareAnchor (sha256 : Hash) (state : AnchoredDb) (now : Timestamp) :
    AnchoredDb × Except LedgerError (Option PreparedAnchor) :=
  let filled := backfillEntryHashes sha256 state
  match filled.2.bind fun _ => draftAnchor sha256 filled.1 now with
  | .error failure => (filled.1, .error failure)
  | .ok none => (filled.1, .ok none)
  | .ok (some row) =>
    let anchors := filled.1.anchors.append row
    ({ filled.1 with anchors }, .ok (some
      { id := anchors.lastId
        record := row
        signCommand := "solana transfer <ANCHOR_AUTHORITY> 0.000001 --with-memo '" ++
            row.memo ++ "' --fee-payer <ANCHOR_AUTHORITY_KEYPAIR> " ++
            "--allow-unfunded-recipient" }))

def updatePendingAnchor (state : AnchoredDb) (anchorId : ℕ)
    (change : AnchorRow → AnchorRow) (failure : String) : Tx AnchoredDb := do
  failIf ((state.anchors.rows.any fun row =>
    row.1 = anchorId && row.2.status = .pending) = false) (.message failure)
  pure { state with
      anchors := state.anchors.update fun id row =>
        if id = anchorId ∧ row.status = .pending then change row else row }

def confirmAnchor (state : AnchoredDb) (anchorId : ℕ) (txSignature : String)
    (now : Timestamp) : Tx AnchoredDb :=
  updatePendingAnchor state anchorId (fun row => { row with
      status := .confirmed
      txSignature := some txSignature
      confirmedAt := some now })
    s!"anchor {anchorId} is not pending (already confirmed or unknown id)"

def abandonAnchor (state : AnchoredDb) (anchorId : ℕ) : Tx AnchoredDb :=
  updatePendingAnchor state anchorId (fun row => { row with status := .abandoned })
    s!"anchor {anchorId} is not pending"

/-! ## Runs -/

inductive Operation
  | ledger (call : Call)
  | backfillEntryHashes
  | prepareAnchor (now : Timestamp)
  | confirmAnchor (anchorId : ℕ) (txSignature : String) (now : Timestamp)
  | abandonAnchor (anchorId : ℕ)

/-- The database after an operation. `keyHash` is the hash the ledger stores
credentials under. -/
def perform (keyHash : String → String) (sha256 : Hash) (state : AnchoredDb) :
    Operation → AnchoredDb
  | .ledger call => { state with db := commit (execute keyHash) state.db call }
  | .backfillEntryHashes => (backfillEntryHashes sha256 state).1
  | .prepareAnchor now => (prepareAnchor sha256 state now).1
  | .confirmAnchor anchorId txSignature now =>
    commit (fun state signature => confirmAnchor state anchorId signature now) state txSignature
  | .abandonAnchor anchorId => commit abandonAnchor state anchorId

/-! ## The chain over a list of entries -/

def hashRows (sha256 : Hash) (previous : Digest) : List (ℕ × LedgerRow) → List (ℕ × EntryHashRow)
  | [] => []
  | (id, row) :: rest =>
    (id, .extending sha256 previous row) ::
      hashRows sha256 (chainHash sha256 previous (entryHash sha256 row)) rest

def chainOver (sha256 : Hash) (previous : Digest) (rows : List (ℕ × LedgerRow)) : Digest :=
  rows.foldl (fun running row => chainHash sha256 running (entryHash sha256 row.2)) previous

theorem hashRows_append (sha256 : Hash) (previous : Digest) (first second : List (ℕ × LedgerRow)) :
    hashRows sha256 previous (first ++ second) = hashRows sha256 previous first ++
        hashRows sha256 (chainOver sha256 previous first) second := by
  induction first generalizing previous with
  | nil => rfl
  | cons row rest ih =>
    rw [cons_append, hashRows, ih, hashRows, cons_append]
    rfl

theorem map_fst_hashRows (sha256 : Hash) (previous : Digest) (rows : List (ℕ × LedgerRow)) :
    (hashRows sha256 previous rows).map Prod.fst = rows.map Prod.fst := by
  induction rows generalizing previous with
  | nil => rfl
  | cons row rest ih =>
    rw [hashRows, map_cons, map_cons, ih]

@[simp] theorem digestOrZero_hexEncode (digest : Digest) :
    digestOrZero (hexEncode digest.toList) = digest := by
  rw [digestOrZero, Digest.ofHex_hexEncode, getD_some]

theorem argmax_eq_getLast? {α : Type} {rows : List (ℕ × α)}
    (increasing : rows.Pairwise fun earlier later => earlier.1 < later.1) :
    rows.argmax Prod.fst = rows.getLast? := by
  induction rows using reverseRecOn with
  | nil => rfl
  | append_singleton before last ih =>
    obtain ⟨ordered, -, below⟩ := pairwise_append.mp increasing
    rw [argmax_concat, ih ordered, getLast?_concat]
    cases highest : before.getLast? with
    | none => rfl
    | some row =>
      have lower : row.1 < last.1 := below row (mem_of_getLast? highest) last
          (mem_singleton_self last)
      exact if_pos lower

/-! ## Entries of a ledger -/

theorem map_fst_entries (db : Db) : (entries db).map Prod.fst = db.ledger.rows.map Prod.fst := by
  rw [entries, List.map_map]
  rfl

theorem entries_increasing (db : Db) :
    (entries db).Pairwise fun earlier later => earlier.1 < later.1 := by
  rw [entries, pairwise_map]
  exact db.ledger.increasing

/-! ## What the side table is -/

def Hashed (sha256 : Hash) (state : AnchoredDb) : Prop :=
  ∃ hashed unhashed, entries state.db = hashed ++ unhashed ∧
    state.entryHashes.rows = hashRows sha256 zeroDigest hashed

theorem insertHashes_of_fresh (sha256 : Hash) (table : Table ℕ EntryHashRow) (previous : Digest)
    {rows : List (ℕ × LedgerRow)} (nodup : (rows.map Prod.fst).Nodup)
    (fresh : ∀ row ∈ rows, table.find? row.1 = none) :
    (insertHashes sha256 table previous rows).1.rows = table.rows ++ hashRows sha256 previous rows ∧
      (insertHashes sha256 table previous rows).2 = .ok () := by
  induction rows generalizing table previous with
  | nil => exact ⟨(append_nil table.rows).symm, rfl⟩
  | cons row rest ih =>
    obtain ⟨id, row⟩ := row
    rw [map_cons, nodup_cons] at nodup
    have idFresh : table.find? id = none := fresh (id, row) mem_cons_self
    have restFresh : ∀ later ∈ rest, (table.insertOrIgnore id
        (.extending sha256 previous row)).find? later.1 = none := by
      intro later member
      have listed : later.1 ∈ rest.map Prod.fst := mem_map_of_mem member
      have different : later.1 ≠ id := fun same => nodup.1 (same ▸ listed)
      rw [find?_insertOrIgnore, if_neg different]
      exact fresh later (mem_cons_of_mem _ member)
    have written := ih _ (chainHash sha256 previous (entryHash sha256 row)) nodup.2 restFresh
    rw [rows_insertOrIgnore_of_fresh table _ idFresh] at written
    simp only [insertHashes, idFresh, isSome_none, Bool.false_eq_true, if_false, hashRows]
    rw [append_cons]
    exact written

theorem fetchUnhashedRows_eq {hashed unhashed : List (ℕ × LedgerRow)}
    (split : entries state.db = hashed ++ unhashed)
    (chained : state.entryHashes.rows = hashRows sha256 zeroDigest hashed) :
    fetchUnhashedRows state = unhashed := by
  have present : ∀ id, (state.entryHashes.find? id).isNone = false ↔ id ∈ hashed.map Prod.fst := by
    intro id
    rw [← map_fst_hashRows sha256 zeroDigest, ← chained, Bool.eq_false_iff, Ne,
      isNone_iff_eq_none, find?_eq_none_iff, not_not]
  have ordered := entries_increasing state.db
  rw [split, pairwise_append] at ordered
  rw [fetchUnhashedRows, split, filter_append]
  have empty : hashed.filter (fun row => (state.entryHashes.find? row.1).isNone) = [] := by
    rw [filter_eq_nil_iff]
    intro row member
    rw [(present row.1).mpr (mem_map_of_mem member)]
    exact Bool.false_ne_true
  have all : unhashed.filter (fun row => (state.entryHashes.find? row.1).isNone) = unhashed := by
    rw [filter_eq_self]
    intro row member
    rw [← Bool.not_eq_false, present]
    intro listed
    obtain ⟨earlier, earlierMember, same⟩ := mem_map.mp listed
    exact absurd same (ordered.2.2 earlier earlierMember row member).ne
  rw [empty, all, nil_append]

theorem chainTip_eq {hashed : List (ℕ × LedgerRow)}
    (increasing : hashed.Pairwise fun earlier later => earlier.1 < later.1)
    (chained : table.rows = hashRows sha256 zeroDigest hashed) :
    chainTip table = chainOver sha256 zeroDigest hashed := by
  have ordered : table.rows.Pairwise fun earlier later => earlier.1 < later.1 := by
    have keys := pairwise_map.mpr increasing
    rw [← map_fst_hashRows sha256 zeroDigest, ← chained] at keys
    exact pairwise_map.mp keys
  rw [chainTip, argmax_eq_getLast? ordered, chained]
  induction hashed using reverseRecOn with
  | nil => rfl
  | append_singleton before last _ =>
    have last : chainOver sha256 zeroDigest (before ++ [last]) =
        chainHash sha256 (chainOver sha256 zeroDigest before) (entryHash sha256 last.2) := by
      rw [chainOver, foldl_append]
      rfl
    rw [hashRows_append, hashRows, hashRows, getLast?_concat, last,
      map_some, getD_some]
    exact digestOrZero_hexEncode _

theorem backfillEntryHashes_of_hashed (hashed : Hashed sha256 state) :
    (backfillEntryHashes sha256 state).1.entryHashes.rows =
        hashRows sha256 zeroDigest (entries state.db) ∧ (backfillEntryHashes sha256 state).2 =
        .ok (fetchUnhashedRows state).length := by
  obtain ⟨done, rest, split, chained⟩ := hashed
  have ordered := entries_increasing state.db
  rw [split, pairwise_append] at ordered
  have nodup : (rest.map Prod.fst).Nodup :=
    (pairwise_map.mpr (ordered.2.1.imp fun below => below.ne))
  have unhashed := fetchUnhashedRows_eq split chained
  have fresh : ∀ row ∈ rest, state.entryHashes.find? row.1 = none := by
    intro row member
    rw [← unhashed] at member
    exact isNone_iff_eq_none.mp (mem_filter.mp member).2
  have written := insertHashes_of_fresh sha256 state.entryHashes
    (chainTip state.entryHashes) nodup fresh
  rw [backfillEntryHashes, unhashed]
  refine ⟨?_, ?_⟩
  · rw [written.1, chained, chainTip_eq ordered.1 chained, split, hashRows_append]
  · rw [written.2]
    rfl

/-! ## Runs that do not reset a hashed ledger -/

def ResetsUnhashed (state : AnchoredDb) (operation : Operation) : Prop :=
  operation = .ledger .resetGenesis → state.entryHashes.rows = []

theorem hashed_ledger
    {call : Call} (allowed : ResetsUnhashed state (.ledger call)) (hashed : Hashed sha256 state) :
    Hashed sha256 (perform keyHash sha256 state (.ledger call)) := by
  rw [perform]
  refine commit_cases hashed fun db' ran => ?_
  by_cases reset : call = .resetGenesis
  · -- Nothing has been hashed, so there is nothing to match.
    exact ⟨[], entries db', rfl, allowed (by rw [reset])⟩
  · obtain ⟨done, rest, split, chained⟩ := hashed
    obtain ⟨more, extended⟩ := execute_ledgerGrows reset ran
    refine ⟨done, rest ++ more.map fun row => (row.1, .ofStored row.1 row.2), ?_, chained⟩
    rw [← append_assoc, ← split, entries, ← extended, map_append, entries]

theorem hashed_backfillEntryHashes (hashed : Hashed sha256 state) :
    Hashed sha256 (backfillEntryHashes sha256 state).1 :=
  ⟨entries state.db, [], (append_nil _).symm, (backfillEntryHashes_of_hashed hashed).1⟩

theorem hashed_prepareAnchor (now : Timestamp) (hashed : Hashed sha256 state) :
    Hashed sha256 (prepareAnchor sha256 state now).1 := by
  have filled := hashed_backfillEntryHashes hashed
  unfold prepareAnchor
  dsimp only
  split <;> exact filled

theorem hashed_perform (state : AnchoredDb)
    (operation : Operation) (allowed : ResetsUnhashed state operation)
    (hashed : Hashed sha256 state) : Hashed sha256 (perform keyHash sha256 state operation) := by
  cases operation with
  | ledger call => exact hashed_ledger allowed hashed
  | backfillEntryHashes => exact hashed_backfillEntryHashes hashed
  | prepareAnchor now => exact hashed_prepareAnchor now hashed
  | confirmAnchor | abandonAnchor =>
    rw [perform]
    refine commit_cases hashed fun state' ran => ?_
    obtain ⟨_, -, kept⟩ := bind_eq_ok.mp ran
    cases kept
    exact hashed

/-! ## Matching -/

/-- The chain hash of the last of some rows, 32 zero bytes when there is
none. -/
def precedingChainHash (state : AnchoredDb)
    (before : List (ℕ × Gateway.LedgerRow)) : Option Digest :=
  match before.getLast? with
  | none => some zeroDigest
  | some row =>
    (state.entryHashes.find? row.1).bind fun hashed => Digest.ofHex hashed.chainHash

/-- The side table has exactly the ids of the ledger, each with the hash of
its row and with the chain hash that extends the one of the id before it. -/
structure Matches (sha256 : Hash) (state : AnchoredDb) : Prop where
  sameIds : ∀ id, (state.entryHashes.find? id).isSome ↔ id ∈ state.db.ledger.rows.map Prod.fst
  entryHash : ∀ id row hashed, (id, row) ∈ state.db.ledger.rows →
    state.entryHashes.find? id = some hashed →
    hashed.entryHash = hexEncode (entryHash sha256 (.ofStored id row)).toList
  chainHash : ∀ before id row after hashed, state.db.ledger.rows = before ++ (id, row) :: after →
    state.entryHashes.find? id = some hashed →
    ∃ previous, precedingChainHash state before = some previous ∧
      hashed.chainHash = hexEncode (chainHash sha256 previous
        (Anchoring.entryHash sha256 (.ofStored id row))).toList

theorem matches_of_complete
    (complete : state.entryHashes.rows = hashRows sha256 zeroDigest (entries state.db)) :
    Matches sha256 state := by
  have located : ∀ before id row after, state.db.ledger.rows = before ++ (id, row) :: after →
      state.entryHashes.find? id = some (.extending sha256 (chainOver sha256 zeroDigest
          (before.map fun row => (row.1, .ofStored row.1 row.2)))
        (.ofStored id row)) := by
    intro before id row after split
    rw [entries, split, map_append, map_cons] at complete
    rw [← mem_rows_iff_find?, complete, hashRows_append, hashRows]
    exact mem_append_right _ mem_cons_self
  refine ⟨?_, ?_, ?_⟩
  · intro id
    rw [← map_fst_entries, ← map_fst_hashRows sha256 zeroDigest, ← complete,
      ← not_iff_not, Bool.not_eq_true, isSome_eq_false_iff,
      isNone_iff_eq_none, find?_eq_none_iff]
  · intro id row hashed member found
    obtain ⟨before, after, split⟩ := append_of_mem member
    rw [located before id row after split, some.injEq] at found
    rw [← found]
    rfl
  · intro before id row after hashed split found
    rw [located before id row after split, some.injEq] at found
    refine ⟨chainOver sha256 zeroDigest
      (before.map fun row => (row.1, .ofStored row.1 row.2)), ?_, ?_⟩
    · rcases eq_nil_or_concat before with rfl | ⟨earlier, last, rfl⟩
      · rfl
      · rw [concat_eq_append, append_assoc] at split
        have tip := located earlier last.1 last.2 _ split
        rw [precedingChainHash, concat_eq_append, getLast?_concat]
        simp only [tip, bind_some, EntryHashRow.extending,
          Digest.ofHex_hexEncode, map_append, map_singleton,
          chainOver, foldl_append, foldl_cons, foldl_nil]
    · rw [← found]
      rfl

/-- In every run that resets the ledger only while none of it is hashed, a
backfill succeeds and leaves a side table that matches the ledger. -/
theorem matches_after_backfill
    (keyHash : String → String) (sha256 : Hash) (operations : List Operation)
    (unhashed : Admissible ResetsUnhashed (perform keyHash sha256) AnchoredDb.empty operations) :
    ∃ state count, backfillEntryHashes sha256
        (run (perform keyHash sha256) AnchoredDb.empty operations) = (state, .ok count) ∧
      Matches sha256 state := by
  have hashed : Hashed sha256 (run (perform keyHash sha256) AnchoredDb.empty operations) :=
    run_invariant (Hashed sha256) (fun state operation =>
      hashed_perform state operation) ⟨[], [], rfl, rfl⟩ unhashed
  obtain ⟨complete, succeeded⟩ := backfillEntryHashes_of_hashed hashed
  exact ⟨_, _, Prod.ext rfl succeeded, matches_of_complete complete⟩

def hashedBonuses : List Operation :=
  [.ledger (.upsertDevice "device" 1), .ledger (.recordBonus "device" 5 1),
    .backfillEntryHashes, .ledger (.recordBonus "device" 7 2)]

theorem matches_after_hashedBonuses : ∃ state count, backfillEntryHashes lengthHash
        (run (perform id lengthHash) AnchoredDb.empty hashedBonuses) = (state, .ok count) ∧
      Matches lengthHash state :=
  matches_after_backfill id lengthHash hashedBonuses ⟨nofun, nofun, nofun, nofun, trivial⟩

def resetAfterHashing : List Operation :=
  [.ledger (.upsertDevice "device" 1), .ledger (.recordBonus "device" 5 1),
    .backfillEntryHashes, .ledger .resetGenesis]

/-- After a reset the side table keeps the hashes of rows that are gone. -/
theorem not_matches_after_resetGenesis : ∃ state, backfillEntryHashes lengthHash
        (run (perform id lengthHash) AnchoredDb.empty resetAfterHashing) = (state, .ok 0) ∧
      ¬ Matches lengthHash state := by
  refine ⟨_, rfl, ?_⟩
  intro isMatching
  exact absurd ((isMatching.sameIds 1).mp (by rfl)) not_mem_nil

end Teale.Gateway.Anchoring
