import Mathlib
import Teale.Lib.Table
import Teale.Lib.Transaction

/-!
# Usage of a network

`node/src/pin/usage.rs` with `record_usage_batch` of `gateway/src/pins.rs`. A seal writes its
batches before it empties the journal; one that is cut off in between leaves the records to the
next, which counts them again under new batch ids.
-/

namespace Teale.Node.Pin

open Relational Transactional List

variable {order applied : List (String × String)}

/-- What usage is counted by. The provider is the device itself. -/
structure UsageKey where
  pinId : String
  day : String
  consumerDeviceId : String
  modelId : String
  deriving DecidableEq

/-- Requests, tokens in and tokens out. -/
abbrev UsageCounts := ℕ × ℕ × ℕ

structure UsageRecord where
  key : UsageKey
  tokensIn : ℕ
  tokensOut : ℕ

def UsageRecord.counts (record : UsageRecord) : UsageCounts :=
  (1, record.tokensIn, record.tokensOut)

/-- What the records say of a key. -/
def tally (key : UsageKey) (records : List UsageRecord) : UsageCounts :=
  ((records.filter fun record => record.key = key).map UsageRecord.counts).sum

structure Batch where
  pinId : String
  batchId : String
  entries : Table UsageKey UsageCounts

/-- What the gateway knows a batch by. -/
def Batch.name (batch : Batch) : String × String := (batch.pinId, batch.batchId)

def Batch.counts (batch : Batch) (key : UsageKey) : UsageCounts := (batch.entries.find? key).getD 0

/-- The entries of a batch: one for each key, with the sums of its records. -/
def aggregate (records : List UsageRecord) : Table UsageKey UsageCounts :=
  records.foldl (fun entries record => entries.upsert record.key
      ((entries.find? record.key).getD 0 + record.counts)) ∅

/-- The batches of a journal, for the networks in some order under their ids. -/
def sealed (journal : List UsageRecord) (order : List (String × String)) : List Batch :=
  order.map fun (pinId, batchId) =>
    ⟨pinId, batchId, aggregate (journal.filter fun record => record.key.pinId = pinId)⟩

/-- The device's files and the gateway's tables. `recorded` is all that was ever
appended, `copied` the batches of seals that did not come to an end. -/
structure UsageSystem where
  journal : List UsageRecord := []
  outbox : List Batch := []
  applied : List (String × String) := []
  usage : UsageKey → UsageCounts := fun _ => 0
  recorded : List UsageRecord := []
  copied : List Batch := []

/-- `sealUp` is cut off after some files if `written` says so. A batch that is
sent reaches the gateway or not, and its file is removed once the answer has
come. -/
inductive UsageStep
  | record (record : UsageRecord)
  | sealUp (order : List (String × String)) (written : Option ℕ)
  | send (batch : Batch) (reaches removed : Bool)

local instance lawfulBEqName : LawfulBEq (String × String) := inferInstance

namespace UsageSystem

def recordUsageBatch (system : UsageSystem) (batch : Batch) : UsageSystem :=
  if batch.name ∈ system.applied then system
  else
    { system with
      applied := batch.name :: system.applied
      usage := fun key => system.usage key + batch.counts key }

def step (system : UsageSystem) : UsageStep → UsageSystem
  | .record record =>
    { system with
      journal := system.journal ++ [record]
      recorded := system.recorded ++ [record] }
  | .sealUp order none =>
    { system with
      outbox := system.outbox ++ sealed system.journal order
      journal := [] }
  | .sealUp order (some written) =>
    { system with
      outbox := system.outbox ++ (sealed system.journal order).take written
      copied := system.copied ++ (sealed system.journal order).take written }
  | .send batch reaches removed =>
    if reaches then
      let received := system.recordUsageBatch batch
      if removed then
        { received with
          outbox := received.outbox.filter fun other => other.name ≠ batch.name }
      else received
    else system

/-- A seal has one batch for every network of the journal, under new ids; what is
sent is in the outbox. -/
def Allowed (system : UsageSystem) : UsageStep → Prop
  | .record _ => True
  | .sealUp order _ =>
    (order.map Prod.fst).Nodup ∧
    (∀ pinId, pinId ∈ order.map Prod.fst ↔ ∃ record ∈ system.journal, record.key.pinId = pinId) ∧
    ∀ name ∈ order, name ∉ system.applied ∧ name ∉ system.outbox.map Batch.name
  | .send batch _ _ => batch ∈ system.outbox

end UsageSystem

/-! ## What a batch counts -/

variable (key : UsageKey)

theorem tally_cons (record : UsageRecord) (records : List UsageRecord) :
    tally key (record :: records) =
      (if record.key = key then record.counts else 0) + tally key records := by
  rw [tally, tally, filter_cons]
  split <;> simp_all

theorem tally_append (first second : List UsageRecord) :
    tally key (first ++ second) = tally key first + tally key second := by
  simp [tally]

theorem tally_ne_zero {record : UsageRecord} {records : List UsageRecord}
    (member : record ∈ records) : tally record.key records ≠ 0 := by
  intro zero
  rw [tally, sum_eq_zero_iff] at zero
  have zero := zero record.counts (mem_map_of_mem (mem_filter.mpr ⟨member, by simp⟩))
  exact absurd (congrArg Prod.fst zero) Nat.one_ne_zero

theorem find?_aggregate (records : List UsageRecord) :
    ((aggregate records).find? key).getD 0 = tally key records := by
  have general : ∀ entries : Table UsageKey UsageCounts,
      ((records.foldl (fun entries record => entries.upsert record.key
        ((entries.find? record.key).getD 0 + record.counts)) entries).find? key).getD 0 =
        (entries.find? key).getD 0 + tally key records := by
    induction records with
    | nil => intro entries; simp [tally]
    | cons record records ih =>
      intro entries
      rw [foldl_cons, ih, Table.find?_upsert, tally_cons]
      by_cases same : key = record.key
      · rw [if_pos same, if_pos same.symm, Option.getD_some, ← same, add_assoc]
      · rw [if_neg same, if_neg (Ne.symm same), zero_add]
  rw [aggregate, general]
  exact zero_add _

theorem tally_filter_pin (pinId : String) (records : List UsageRecord) :
    tally key (records.filter fun record => record.key.pinId = pinId) =
      if key.pinId = pinId then tally key records else 0 := by
  induction records with
  | nil => simp [tally]
  | cons record records ih =>
    rw [filter_cons]
    by_cases same : record.key.pinId = pinId
    · rw [if_pos (by simpa using same), tally_cons, tally_cons, ih]
      by_cases isKey : record.key = key
      · rw [if_pos isKey, if_pos (isKey ▸ same), if_pos (isKey ▸ same)]
      · rw [if_neg isKey, zero_add, zero_add]
    · rw [if_neg (by simpa using same), ih, tally_cons]
      by_cases isKey : record.key = key
      · rw [if_neg (isKey ▸ same), if_neg (isKey ▸ same)]
      · rw [if_neg isKey, zero_add]

variable {batch : Batch} {journal : List UsageRecord}

theorem counts_sealed (member : batch ∈ sealed journal order) (key : UsageKey) :
    batch.counts key = if key.pinId = batch.pinId then tally key journal else 0 := by
  obtain ⟨name, -, rfl⟩ := mem_map.mp member
  rw [Batch.counts, find?_aggregate, tally_filter_pin]

theorem sum_sealed (distinct : (order.map Prod.fst).Nodup)
    (covers : ∀ record ∈ journal, record.key.pinId ∈ order.map Prod.fst) (key : UsageKey) :
    ((sealed journal order).map (·.counts key)).sum = tally key journal := by
  have general : ((sealed journal order).map (·.counts key)).sum =
      if key.pinId ∈ order.map Prod.fst then tally key journal else 0 := by
    clear covers
    induction order with
    | nil => rfl
    | cons name order ih =>
      obtain ⟨fresh, distinct⟩ := nodup_cons.mp distinct
      rw [sealed, map_cons, map_cons, sum_cons]
      have later := ih distinct
      rw [sealed] at later
      rw [later, Batch.counts, find?_aggregate, tally_filter_pin]
      by_cases same : key.pinId = name.1
      · rw [if_pos same, same, if_neg fresh, add_zero, map_cons, if_pos mem_cons_self]
      · rw [if_neg same, zero_add]
        simp only [map_cons, mem_cons, same, false_or]
  rw [general]
  split
  · rfl
  · next absent =>
      rw [tally, filter_eq_nil_iff.mpr]
      · rfl
      · intro record member isKey
        have isKey : record.key = key := by simpa using isKey
        exact absent (isKey ▸ covers record member)

/-! ## What is counted -/

namespace UsageSystem

variable {system : UsageSystem} {outbox : List Batch}

def pending (outbox : List Batch) (applied : List (String × String))
    (key : UsageKey) : UsageCounts :=
  ((outbox.filter fun batch => batch.name ∉ applied).map (·.counts key)).sum

theorem pending_append (first second : List Batch) (applied : List (String × String))
    (key : UsageKey) : pending (first ++ second) applied key =
      pending first applied key + pending second applied key := by
  simp [pending]

theorem pending_fresh (fresh : ∀ batch ∈ outbox, batch.name ∉ applied) (key : UsageKey) :
    pending outbox applied key = (outbox.map (·.counts key)).sum := by
  rw [pending, filter_eq_self.mpr]
  intro batch member
  simpa using fresh batch member

theorem pending_apply (distinct : (outbox.map Batch.name).Nodup)
    (member : batch ∈ outbox) (fresh : batch.name ∉ applied) (key : UsageKey) :
    pending outbox applied key = batch.counts key + pending outbox (batch.name :: applied) key := by
  obtain ⟨front, back, rfl⟩ := append_of_mem member
  have apart : ∀ other ∈ front ++ back, other.name ≠ batch.name := by
    intro other listed same
    rw [map_append, map_cons, nodup_middle, ← map_append] at distinct
    exact (nodup_cons.mp distinct).1 (same ▸ mem_map_of_mem listed)
  have others : ∀ batches : List Batch, (∀ other ∈ batches, other.name ≠ batch.name) →
      pending batches (batch.name :: applied) key = pending batches applied key := by
    intro batches different
    rw [pending, pending, filter_congr fun other listed => ?_]
    simp [different other listed]
  obtain ⟨before, after⟩ := forall_mem_append.mp apart
  have counted : pending (batch :: back) applied key =
      batch.counts key + pending back applied key := by
    rw [pending, filter_cons_of_pos (by simpa using fresh)]
    rfl
  have dropped : pending (batch :: back) (batch.name :: applied) key =
      pending back (batch.name :: applied) key := by
    rw [pending, filter_cons_of_neg (by simp), pending]
  rw [pending_append, pending_append, counted, dropped, others front before, others back after]
  abel

theorem pending_remove {name : String × String} (counted : name ∈ applied) (key : UsageKey) :
    pending (outbox.filter fun other => other.name ≠ name) applied key =
      pending outbox applied key := by
  rw [pending, pending, filter_filter]
  congr 2
  apply filter_congr
  intro other _
  by_cases same : other.name = name
  · simp [same, counted]
  · simp [same]

/-- What was recorded is counted, pending or in the journal, and so once more is
what was copied. -/
structure Balanced (system : UsageSystem) : Prop where
  distinct : (system.outbox.map Batch.name).Nodup
  balance : ∀ key, system.usage key + pending system.outbox system.applied key +
      tally key system.journal =
    tally key system.recorded + (system.copied.map (·.counts key)).sum
  copies : ∀ batch ∈ system.copied, ∃ key, batch.counts key ≠ 0

theorem names_sealed (journal : List UsageRecord) (order : List (String × String)) :
    (sealed journal order).map Batch.name = order := by
  rw [sealed, map_map]
  exact map_id order

theorem Balanced.distinct_append (balanced : system.Balanced) {batches : List Batch}
    (isOrder : batches.map Batch.name <+: order) (distinct : (order.map Prod.fst).Nodup)
    (fresh : ∀ name ∈ order, name ∉ system.outbox.map Batch.name) :
    ((system.outbox ++ batches).map Batch.name).Nodup := by
  rw [map_append, nodup_append']
  refine ⟨balanced.distinct, distinct.of_map.sublist isOrder.sublist, ?_⟩
  intro name old isNew
  exact fresh name (isOrder.subset isNew) old

theorem Balanced.recordUsageBatch (balanced : system.Balanced)
    (member : batch ∈ system.outbox) : (system.recordUsageBatch batch).Balanced ∧
      batch.name ∈ (system.recordUsageBatch batch).applied := by
  rw [UsageSystem.recordUsageBatch]
  split
  · next counted => exact ⟨balanced, counted⟩
  · next fresh =>
      refine ⟨⟨balanced.distinct, fun key => ?_, balanced.copies⟩, mem_cons_self⟩
      have balance := balanced.balance key
      rw [pending_apply balanced.distinct member fresh] at balance
      rw [← balance]
      simp only [add_assoc]

theorem Balanced.step {step : UsageStep} (balanced : system.Balanced)
    (allowed : system.Allowed step) : (system.step step).Balanced := by
  cases step with
  | record record =>
    refine ⟨balanced.distinct, fun key => ?_, balanced.copies⟩
    simp only [UsageSystem.step, tally_append]
    rw [← add_assoc, balanced.balance key]
    abel
  | sealUp order written =>
    obtain ⟨distinct, covers, fresh⟩ := allowed
    have unapplied : ∀ batch ∈ sealed system.journal order, batch.name ∉ system.applied := by
      intro batch member
      refine (fresh batch.name ?_).1
      rw [← names_sealed system.journal order]
      exact mem_map_of_mem member
    cases written with
    | none =>
      refine ⟨?_, fun key => ?_, balanced.copies⟩
      · refine balanced.distinct_append ?_ distinct fun name member => (fresh name member).2
        rw [names_sealed]
      · simp only [UsageSystem.step]
        rw [pending_append, pending_fresh unapplied, sum_sealed distinct fun record member =>
            (covers _).mpr ⟨record, member, rfl⟩,
          ← add_assoc, balanced.balance key]
        exact add_zero _
    | some written =>
      have taken := take_subset written (sealed system.journal order)
      refine ⟨?_, fun key => ?_, ?_⟩
      · refine balanced.distinct_append ?_ distinct fun name member => (fresh name member).2
        rw [map_take, names_sealed]
        exact take_prefix written order
      · simp only [UsageSystem.step]
        rw [pending_append, pending_fresh fun batch member => unapplied batch (taken member),
          map_append, sum_append, ← add_assoc, ← add_assoc,
          ← balanced.balance key]
        abel
      · intro batch member
        obtain old | isNew := mem_append.mp member
        · exact balanced.copies batch old
        · obtain ⟨name, named, rfl⟩ := mem_map.mp (taken isNew)
          obtain ⟨record, recorded, isPin⟩ := (covers name.1).mp (mem_map_of_mem named)
          refine ⟨record.key, ?_⟩
          rw [counts_sealed (taken isNew), if_pos isPin]
          exact tally_ne_zero recorded
  | send batch reaches removed =>
    rw [UsageSystem.step]
    split
    · obtain ⟨received, counted⟩ := balanced.recordUsageBatch allowed
      split
      · refine ⟨?_, fun key => ?_, received.copies⟩
        · exact received.distinct.sublist (filter_sublist.map _)
        · rw [pending_remove counted, received.balance key]
      · exact received
    · exact balanced

theorem balanced_run {steps : List UsageStep} (admissible : Admissible Allowed step {} steps) :
    (run step ({} : UsageSystem) steps).Balanced :=
  run_invariant Balanced (fun _ _ allowed balanced => balanced.step allowed)
    ⟨nodup_nil, fun _ => rfl, nofun⟩ admissible

def oneRequest : UsageRecord := ⟨⟨"n", "2026-07-04", "c", "m"⟩, 100, 7⟩

def oneBatch (batchId : String) : Batch := ⟨"n", batchId, aggregate [oneRequest]⟩

theorem allowed_sealUp (isJournal : system.journal = [oneRequest])
    (fresh : ("n", batchId) ∉ system.applied ∧
      ("n", batchId) ∉ system.outbox.map Batch.name)
    (written : Option ℕ) : system.Allowed (.sealUp [("n", batchId)] written) := by
  refine ⟨nodup_singleton _, fun pinId => ?_, by simpa using fresh⟩
  simp [isJournal, oneRequest, eq_comm]

end UsageSystem

end Teale.Node.Pin
