import Teale.Gateway.Books.ShareKeys
import Teale.Gateway.Frame

/-!
# A share key and its pool

What the pool invariant reads of a database, one key at a time. Every statement on share keys
changes the view of one key only.
-/

namespace Teale.Gateway

open Relational Transactional Bookkeeping Apportionment List Relational.Table Db ContributionRow

open Finsupp (single)

variable {db db' middle : Db} {keyId : KeyId} {row : ShareKeyRow}
  {contributionId : String} {funder : DeviceId} {funded remaining : ℤ}
  {createdAt : Timestamp} {refundedAt : Option Timestamp}
  {reason : Option RefundReason}

structure KeyState where
  funded : Bool
  revoked : Bool
  settled : Bool
  budget : ℤ
  consumed : ℤ
  deriving DecidableEq, Repr

def ShareKeyRow.state (row : ShareKeyRow) : KeyState where
  funded := row.funded
  revoked := row.revokedAt.isSome
  settled := row.refundsSettledAt.isSome
  budget := row.budgetCredits
  consumed := row.consumedCredits

@[ext] structure PoolView where
  key : Option KeyState
  /-- The sum of `remaining_credits`. -/
  left : ℤ
  contributed : Bool
  deriving DecidableEq, Repr

def Db.hasContribution (db : Db) (keyId : KeyId) : Bool :=
  db.contributions.rows.any fun row => row.2.keyId = keyId

def Db.poolView (db : Db) (keyId : KeyId) : PoolView where
  key := (db.shareKeys.find? keyId).map ShareKeyRow.state
  left := sumShareKeyContributions db keyId
  contributed := db.hasContribution keyId

/-- The tables the view is read from. -/
def Db.poolTables (db : Db) : Table KeyId ShareKeyRow × Table String ContributionRow :=
  (db.shareKeys, db.contributions)

theorem poolView_congr (same : db'.poolTables = db.poolTables) : db'.poolView = db.poolView := by
  obtain ⟨keys, contributions⟩ := Prod.mk.inj same
  funext keyId
  simp only [poolView, hasContribution, sumShareKeyContributions, keys, contributions]

theorem poolView_key_of_find? (found : db.shareKeys.find? keyId = some row) :
    (db.poolView keyId).key = some row.state := by
  simp [poolView, found]

theorem sumShareKeyContributions_of_uncontributed
    (uncontributed : db.hasContribution keyId = false) : sumShareKeyContributions db keyId = 0 := by
  refine (sum_congr _ fun contributionId row listed => ?_).trans
    (sum_zero db.contributions)
  have other := any_eq_false.mp uncontributed _ listed
  simp only [decide_eq_true_eq] at other
  rw [if_neg other]

/-- The view of one key is changed, and of no other. -/
def Touches (keyId : KeyId) (effect : PoolView → PoolView) (db db' : Db) : Prop :=
  ∀ other, db'.poolView other =
    if other = keyId then effect (db.poolView other) else db.poolView other

namespace Touches

variable {effect later : PoolView → PoolView} (touches : Touches keyId effect db middle)

include touches

theorem here : middle.poolView keyId = effect (db.poolView keyId) :=
  (touches keyId).trans (if_pos rfl)

theorem elsewhere (different : other ≠ keyId) : middle.poolView other = db.poolView other :=
  (touches other).trans (if_neg different)

theorem trans {between : Db} (second : Touches keyId later between db')
    (same : between.poolView = middle.poolView) :
    Touches keyId (fun view => later (effect view)) db db' := by
  intro other
  rw [second, same, touches]
  split <;> rfl

end Touches

/-! ## Keys -/

def PoolView.withKey (change : KeyState → KeyState) (view : PoolView) : PoolView :=
  { view with key := view.key.map change }

theorem touches_updateShareKey (db : Db) (keyId : KeyId) (change : ShareKeyRow → ShareKeyRow)
    (effect : KeyState → KeyState) (effective : ∀ row, (change row).state = effect row.state) :
    Touches keyId (·.withKey effect) db (db.updateShareKey keyId change) := by
  intro other
  split
  case isTrue same =>
    subst same
    simp only [poolView, updateShareKey, find?_modify_self, PoolView.withKey,
      Option.map_map]
    congr 1
    exact congrArg (fun map => Option.map map (db.shareKeys.find? other)) (funext effective)
  case isFalse different =>
    simp only [poolView, updateShareKey, hasContribution,
      sumShareKeyContributions, find?_modify_of_ne _ _ different]

theorem ensureShareKeyFundingIdTx_pools
    (ran : ensureShareKeyFundingIdTx db keyId existing fresh = .ok db') :
    db'.poolView = db.poolView ∧ db'.contributions = db.contributions := by
  unfold ensureShareKeyFundingIdTx at ran
  split at ran
  · cases ran
    exact ⟨rfl, rfl⟩
  · simp only [ok_iff] at ran
    obtain ⟨-, rfl⟩ := ran
    refine ⟨funext fun other => ?_, rfl⟩
    rw [touches_updateShareKey db keyId _ id ?_]
    · simp [PoolView.withKey]
    · exact fun _ => rfl

theorem insertShareKey_pools (ran : db.insertShareKey keyId row = .ok db') :
    (db.poolView keyId).key = none ∧
      Touches keyId (fun view => { view with key := some row.state }) db db' ∧
      db'.contributions = db.contributions := by
  simp only [insertShareKey, ok_iff] at ran
  obtain ⟨fresh, -, -, -, -, rfl⟩ := ran
  have absent : db.shareKeys.find? keyId = none := by simpa using fresh
  refine ⟨by simp [poolView, absent], fun other => ?_, rfl⟩
  simp only [poolView, hasContribution, sumShareKeyContributions,
    find?_insertOrIgnore, absent]
  split <;> rfl

/-! ## Contributions -/

section

variable (ran : insertShareKeyContributionTx db contributionId keyId funder funded remaining
    createdAt refundedAt reason = .ok db')

include ran

theorem insertShareKeyContributionTx_ok :
    db.contributions.find? contributionId = none ∧
      ∃ row : ContributionRow, row.keyId = keyId ∧ row.funderDeviceId = funder ∧
        row.fundedCredits = funded ∧ row.remainingCredits = max 0 remaining ∧
        row.refundedAt = refundedAt ∧
        db' = { db with
          contributions := db.contributions.insertOrIgnore contributionId row } := by
  simp only [insertShareKeyContributionTx, ok_iff] at ran
  obtain ⟨fresh, -, -, ran⟩ := ran
  split at ran
  · cases ran
    exact ⟨by simpa using fresh, _, rfl, rfl, rfl, rfl, rfl, rfl⟩
  · simp at ran

theorem touches_insertShareKeyContributionTx : Touches keyId
      (fun view => ⟨view.key, view.left + max 0 remaining, true⟩) db db' := by
  intro other
  obtain ⟨fresh, row, rfl, -, -, isRemaining, -, rfl⟩ := insertShareKeyContributionTx_ok ran
  simp only [poolView, hasContribution, sumShareKeyContributions,
    sum_insertOrIgnore_of_fresh _ _ _ fresh,
    rows_insertOrIgnore_of_fresh _ _ fresh, any_append,
    any_cons, any_nil, isRemaining, eq_comm (a := row.keyId)]
  split
  case isTrue same => simp [same]
  case isFalse different => simp [different]

end

theorem any_rows_update (table : Table String ContributionRow)
    {change : String → ContributionRow → ContributionRow} (sameKey : ∀ contributionId row,
      (change contributionId row).keyId = row.keyId) (keyId : KeyId) :
    ((table.update change).rows.any fun row => row.2.keyId = keyId) =
      table.rows.any fun row => row.2.keyId = keyId := by
  simp only [update, any_map, Function.comp_def, sameKey]

/-! ## Refunds -/

def ContributionRow.close (row : ContributionRow) (settledAt : Timestamp) (reason : RefundReason) :
    ContributionRow :=
  { row with
    remainingCredits := 0
    refundedAt := some settledAt
    refundReason := some reason
    remainingNonneg := Int.le_refl 0 }

theorem contributions_refundContribution
    (keyId : KeyId) (settledAt : Timestamp) (reason : RefundReason)
    (state : Db × ℕ × ℤ) (row : String × ContributionRow) :
    (refundContribution keyId settledAt reason state row).1.contributions =
      state.1.contributions.modify row.1 fun row => row.close settledAt reason := by
  unfold refundContribution
  simp only
  split <;> rfl

theorem contributions_foldl_refundContribution
    (keyId : KeyId) (settledAt : Timestamp) (reason : RefundReason)
    (rows : List (String × ContributionRow)) (state : Db × ℕ × ℤ) :
    (rows.foldl (refundContribution keyId settledAt reason) state).1.contributions =
      state.1.contributions.update fun contributionId row =>
        if contributionId ∈ rows.map Prod.fst then row.close settledAt reason
        else row := by
  induction rows generalizing state with
  | nil =>
    refine ext ?_
    simp [update]
  | cons head tail ih =>
    rw [foldl_cons, ih, contributions_refundContribution]
    refine ext ?_
    simp only [Table.modify, update, map_map]
    refine map_congr_left fun entry _ => ?_
    by_cases isHead : entry.1 = head.1 <;> by_cases inTail : entry.1 ∈ tail.map Prod.fst <;>
        simp [isHead, inTail, close]

theorem contributions_refundShareKeyContributionsTx
    (db : Db) (keyId : KeyId) (settledAt : Timestamp) (reason : RefundReason) :
    (refundShareKeyContributionsTx db keyId settledAt reason).1.contributions =
      db.contributions.update fun _ row =>
        if row.keyId = keyId ∧ row.refundedAt.isNone = true then
          row.close settledAt reason
        else row := by
  rw [refundShareKeyContributionsTx, contributions_foldl_refundContribution]
  refine ext (map_congr_left fun entry listed => ?_)
  have found := mem_rows_iff_find?.mp listed
  have member : entry.1 ∈ (db.contributionsOf keyId fun row => row.refundedAt.isNone).map Prod.fst ↔
      entry.2.keyId = keyId ∧ entry.2.refundedAt.isNone = true := by
    constructor
    · intro inList
      obtain ⟨other, isOther, sameId⟩ := mem_map.mp inList
      obtain ⟨foundOther, ofKey, isOpen⟩ := mem_contributionsOf.mp isOther
      rw [sameId, found] at foundOther
      rw [Option.some.inj foundOther]
      exact ⟨ofKey, isOpen⟩
    · intro selected
      exact mem_map.mpr ⟨entry, mem_contributionsOf.mpr ⟨found, selected⟩, rfl⟩
  simp only [member]

theorem shareKeys_refundShareKeyContributionsTx
    (db : Db) (keyId : KeyId) (settledAt : Timestamp) (reason : RefundReason) :
    (refundShareKeyContributionsTx db keyId settledAt reason).1.shareKeys = db.shareKeys := by
  refine foldl_preserves (fun state : Db × ℕ × ℤ => state.1.shareKeys = db.shareKeys) ?_ rfl
  intro state row _ same
  rw [← same]
  unfold refundContribution
  simp only
  split <;> rfl

def RefundedEmpty (db : Db) : Prop :=
  ∀ contributionId row, db.contributions.find? contributionId = some row →
    row.refundedAt.isSome = true → row.remainingCredits = 0

theorem touches_refundShareKeyContributionsTx (refundedEmpty : RefundedEmpty db) (keyId : KeyId)
    (settledAt : Timestamp) (reason : RefundReason) : Touches keyId
      (fun view => { view with left := 0 }) db
      (refundShareKeyContributionsTx db keyId settledAt reason).1 := by
  intro other
  have contributions := contributions_refundShareKeyContributionsTx db keyId settledAt reason
  have contributed : (refundShareKeyContributionsTx db keyId settledAt
      reason).1.hasContribution other = db.hasContribution other := by
    rw [hasContribution, contributions, any_rows_update]
    · rfl
    · intro contributionId row
      split <;> rfl
  have left : sumShareKeyContributions (refundShareKeyContributionsTx db keyId
      settledAt reason).1 other =
        if other = keyId then 0 else sumShareKeyContributions db other := by
    rw [sumShareKeyContributions, contributions, sum_update]
    split
    case isTrue same =>
      refine (sum_congr _ fun contributionId row listed => ?_).trans
        (sum_zero db.contributions)
      have found := mem_rows_iff_find?.mp listed
      have empty := refundedEmpty contributionId row found
      by_cases ofKey : row.keyId = keyId <;> cases refunded : row.refundedAt <;>
          simp_all [close]
    case isFalse different =>
      refine sum_congr _ fun contributionId row _ => ?_
      by_cases ofKey : row.keyId = keyId
      · have isOther : keyId ≠ other := fun equal => different equal.symm
        split <;> simp [close, ofKey, isOther]
      · simp [ofKey]
  simp only [poolView, shareKeys_refundShareKeyContributionsTx, contributed, left]
  split <;> rfl

/-! ## Spending -/

def ContributionRow.withRemaining (row : ContributionRow) (remaining : ℤ) : ContributionRow :=
  { row with
    remainingCredits := max 0 remaining
    remainingNonneg := Int.le_max_left 0 remaining }

theorem find?_foldl_setRemaining_of_not_mem
    (entries : List ((String × ContributionRow) × Reduction)) (db : Db)
    (absent : contributionId ∉ entries.map fun entry => entry.1.1) :
    (entries.foldl (fun db entry => db.setRemaining entry.1.1
        (entry.1.2.remainingCredits - entry.2.amount)) db).contributions.find?
          contributionId = db.contributions.find? contributionId := by
  induction entries generalizing db with
  | nil => rfl
  | cons head tail ih =>
    rw [map_cons, mem_cons, not_or] at absent
    rw [foldl_cons, ih _ absent.2, setRemaining, find?_modify_of_ne _ _ absent.1]

theorem find?_foldl_setRemaining_of_mem {entries : List ((String × ContributionRow) × Reduction)}
    (nodup : (entries.map fun entry => entry.1.1).Nodup)
    {entry : (String × ContributionRow) × Reduction} (member : entry ∈ entries) :
    (entries.foldl (fun db entry => db.setRemaining entry.1.1
        (entry.1.2.remainingCredits - entry.2.amount)) db).contributions.find? entry.1.1 =
      (db.contributions.find? entry.1.1).map fun row =>
        row.withRemaining (entry.1.2.remainingCredits - entry.2.amount) := by
  induction entries generalizing db with
  | nil => simp at member
  | cons head tail ih =>
    obtain ⟨headFresh, tailNodup⟩ := nodup_cons.mp nodup
    rw [foldl_cons]
    rcases mem_cons.mp member with rfl | inTail
    · rw [find?_foldl_setRemaining_of_not_mem tail _ headFresh,
        setRemaining, find?_modify_self]
      rfl
    · have different : entry.1.1 ≠ head.1.1 := fun equal =>
        headFresh (mem_map.mpr ⟨entry, inTail, equal⟩)
      rw [ih tailNodup inTail, setRemaining, find?_modify_of_ne _ _ different]

theorem applyProRataShareKeySpendTx_keeps (db : Db) (keyId other : KeyId) (spend : ℤ) :
    let db' := applyProRataShareKeySpendTx db keyId spend
    db'.hasContribution other = db.hasContribution other ∧ db'.shareKeys = db.shareKeys := by
  unfold applyProRataShareKeySpendTx
  simp only
  split
  · exact ⟨rfl, rfl⟩
  · split
    · exact ⟨rfl, rfl⟩
    · refine foldl_preserves (fun state : Db => state.hasContribution other =
        db.hasContribution other ∧ state.shareKeys = db.shareKeys) ?_ ⟨rfl, rfl⟩
      rintro state entry _ ⟨same, sameKeys⟩
      refine ⟨?_, sameKeys⟩
      rw [← same, hasContribution, setRemaining, Table.modify, any_rows_update]
      · rfl
      · intro contributionId row
        split <;> rfl

theorem touches_applyProRataShareKeySpendTx {spend : ℤ} (positive : 0 < spend)
    (covered : spend ≤ (db.poolView keyId).left) : Touches keyId
      (fun view => { view with left := view.left - spend }) db
      (applyProRataShareKeySpendTx db keyId spend) := by
  intro other
  have moved := books_applyProRataShareKeySpendTx positive covered
  have left := congrArg (fun books => books (.pool other)) moved
  have keeps := applyProRataShareKeySpendTx_keeps db keyId other spend
  simp only [Finsupp.add_apply, books_pool, Finsupp.single_apply,
    Book.pool.injEq, eq_comm (a := keyId)] at left
  simp only [poolView, keeps, left]
  split
  · rw [← sub_eq_add_neg]
  · rw [add_zero]

/-- A spend of more than is left spends what is left. -/
theorem applyProRataShareKeySpendTx_min (db : Db) {spend : ℤ}
    (positive : 0 < min spend (sumShareKeyContributions db keyId)) :
    applyProRataShareKeySpendTx db keyId spend =
      applyProRataShareKeySpendTx db keyId (min spend (sumShareKeyContributions db keyId)) := by
  obtain ⟨someSpend, someLeft⟩ := lt_min_iff.mp positive
  have total := sum_weights_contributionsOf db keyId
  rw [weights] at total
  simp only [applyProRataShareKeySpendTx, total, if_neg (not_le.mpr someSpend),
    if_neg (not_le.mpr someLeft), if_neg (not_le.mpr positive), min_assoc, min_self]

theorem withRemaining_self (row : ContributionRow) :
    row.withRemaining row.remainingCredits = row := by
  simp [withRemaining, row.remainingNonneg]

/-- What a spend takes from a contribution: nothing, if it is not of the key, and the exact quota
rounded down or up, if it is. -/
theorem find?_applyProRataShareKeySpendTx {spend : ℤ} (positive : 0 < spend)
    (covered : spend ≤ sumShareKeyContributions db keyId) {row : ContributionRow}
    (found : db.contributions.find? contributionId = some row) :
    let share := floorShare spend (sumShareKeyContributions db keyId) row.remainingCredits
    ∃ amount, (applyProRataShareKeySpendTx db keyId spend).contributions.find? contributionId =
        some (row.withRemaining (row.remainingCredits - amount)) ∧
      0 ≤ amount ∧ amount ≤ row.remainingCredits ∧ (row.keyId ≠ keyId → amount = 0) ∧
      (row.keyId = keyId → share ≤ amount ∧ amount ≤ share + 1) := by
  obtain ⟨entries, spends, isSpend, listed, rounds⟩ :=
    applyProRataShareKeySpendTx_spends positive covered
  have nonneg := row.remainingNonneg
  rw [isSpend]
  by_cases member : contributionId ∈ entries.map fun entry => entry.1.1
  · obtain ⟨entry, inEntries, rfl⟩ := mem_map.mp member
    obtain rfl := Option.some.inj ((spends.found entry inEntries).symm.trans found)
    rw [find?_foldl_setRemaining_of_mem spends.nodup inEntries, found]
    exact ⟨_, rfl, spends.nonneg entry inEntries, spends.covered entry inEntries,
      fun different => absurd (spends.sameKey entry inEntries) different,
      fun _ => rounds entry inEntries⟩
  · rw [find?_foldl_setRemaining_of_not_mem entries db member, found]
    refine ⟨0, by rw [sub_zero, withRemaining_self], le_rfl, nonneg, fun _ => rfl, fun sameKey => ?_⟩
    have empty : row.remainingCredits = 0 := by
      by_contra some
      have left : 0 < row.remainingCredits := by omega
      have inList : (contributionId, row) ∈ entries.map Prod.fst := by
        rw [listed, mem_contributionsOf]
        exact ⟨found, sameKey, decide_eq_true left⟩
      obtain ⟨entry, inEntries, isEntry⟩ := mem_map.mp inList
      exact member (mem_map.mpr ⟨entry, inEntries, by rw [isEntry]⟩)
    simp [empty, floorShare]

def fiveLeft : Db :=
  let row : ContributionRow := ⟨"k", "d", 5, 5, 0, none, none, by decide, by decide⟩
  { Db.empty with contributions := Table.insertOrIgnore ∅ "c" row }

/-- A contribution is reduced by a settlement its key pays for, or closed, or
left as it is. -/
inductive ContributionChange
    (paying : Option KeyId) (closes : Bool) (row : ContributionRow) :
    ContributionRow → Prop
  | same : ContributionChange paying closes row row
  | spent {amount : ℤ} (pays : paying = some row.keyId) (nonneg : 0 ≤ amount)
      (covered : amount ≤ row.remainingCredits) :
      ContributionChange paying closes row (row.withRemaining (row.remainingCredits - amount))
  | refunded (closing : closes = true) (isOpen : row.refundedAt = none)
      (settledAt : Timestamp) (reason : RefundReason) :
      ContributionChange paying closes row (row.close settledAt reason)

theorem ContributionChange.trans {row middle later : ContributionRow}
    (first : ContributionChange none closes row middle)
    (second : ContributionChange none closes middle later) :
    ContributionChange none closes row later := by
  cases first with
  | same => exact second
  | spent pays => simp at pays
  | refunded closing isOpen settledAt reason =>
    cases second with
    | same => exact .refunded closing isOpen settledAt reason
    | spent pays => simp at pays
    | refunded _ isOpenAgain => simp [close] at isOpenAgain

/-- Every contribution stays and is changed in one of these ways, and a new one
that is already closed is empty. -/
structure ContributionsChange
    (paying : Option KeyId) (closes : Bool) (db db' : Db) : Prop where
  kept : ∀ contributionId row, db.contributions.find? contributionId = some row →
    ∃ later, db'.contributions.find? contributionId = some later ∧
      ContributionChange paying closes row later
  opened : ∀ contributionId row,
    db.contributions.find? contributionId = none →
    db'.contributions.find? contributionId = some row →
    row.refundedAt.isSome = true → row.remainingCredits = 0

section Changes

variable {paying : Option KeyId} {closes : Bool}

theorem contributionsChange_of_eq (contributions : db'.contributions = db.contributions) :
    ContributionsChange paying closes db db' where
  kept _ row found := ⟨row, contributions ▸ found, .same⟩
  opened _ _ fresh found := by
    rw [contributions, fresh] at found
    simp at found

theorem ContributionsChange.trans (first : ContributionsChange none closes db middle)
    (second : ContributionsChange none closes middle db') :
    ContributionsChange none closes db db' where
  kept contributionId row found := by
    obtain ⟨_, foundMiddle, early⟩ := first.kept contributionId row found
    obtain ⟨later, foundLater, late⟩ := second.kept _ _ foundMiddle
    exact ⟨later, foundLater, early.trans late⟩
  opened contributionId row fresh found refunded := by
    cases foundMiddle : middle.contributions.find? contributionId with
    | none => exact second.opened _ _ foundMiddle found refunded
    | some opened =>
      obtain ⟨later, foundLater, change⟩ := second.kept _ _ foundMiddle
      cases foundLater.symm.trans found
      cases change with
      | same => exact first.opened _ _ fresh foundMiddle refunded
      | spent pays => simp at pays
      | refunded => rfl

theorem ContributionsChange.congr (change : ContributionsChange paying closes start final)
    (before : start.contributions = db.contributions)
    (after : db'.contributions = final.contributions) :
    ContributionsChange paying closes db db' := by
  obtain ⟨kept, opened⟩ := change
  rw [before, ← after] at kept opened
  exact ⟨kept, opened⟩

theorem contributionsChange_insert
    (ran : insertShareKeyContributionTx db contributionId keyId funder
      funded remaining createdAt refundedAt reason = .ok db')
    (closedEmpty : refundedAt.isSome = true → remaining = 0) :
    ContributionsChange paying closes db db' := by
  obtain ⟨fresh, inserted, -, -, -, isRemaining, isRefundedAt, rfl⟩ :=
    insertShareKeyContributionTx_ok ran
  refine ⟨fun other row found => ?_, fun other row absent found refunded => ?_⟩
  · have different : other ≠ contributionId := by
      rintro rfl
      cases fresh.symm.trans found
    refine ⟨row, ?_, .same⟩
    rw [find?_insertOrIgnore, if_neg different, found]
  · rw [find?_insertOrIgnore] at found
    split at found
    · rw [fresh, Option.getD_none] at found
      cases found
      rw [isRefundedAt] at refunded
      simp [isRemaining, closedEmpty refunded]
    · cases absent.symm.trans found

theorem contributionsChange_refund
    (db : Db) (keyId : KeyId) (settledAt : Timestamp) (reason : RefundReason) :
    ContributionsChange paying true db
      (refundShareKeyContributionsTx db keyId settledAt reason).1 := by
  refine ⟨fun contributionId row found => ?_, fun contributionId row fresh => ?_⟩
  · rw [contributions_refundShareKeyContributionsTx, find?_update, found]
    refine ⟨_, rfl, ?_⟩
    beta_reduce
    split
    case isTrue selected =>
      exact .refunded rfl (Option.isNone_iff_eq_none.mp selected.2) settledAt reason
    case isFalse => exact .same
  · rw [contributions_refundShareKeyContributionsTx, find?_update, fresh]
    simp

theorem contributionsChange_spend {spend : ℤ} (positive : 0 < spend)
    (covered : spend ≤ sumShareKeyContributions db keyId) :
    ContributionsChange (some keyId) closes db (applyProRataShareKeySpendTx db keyId spend) := by
  refine ⟨fun contributionId row found => ?_, fun contributionId row fresh => ?_⟩
  · obtain ⟨amount, isLater, nonneg, enough, others, -⟩ :=
      find?_applyProRataShareKeySpendTx positive covered found
    refine ⟨_, isLater, ?_⟩
    by_cases sameKey : row.keyId = keyId
    · exact .spent (by rw [sameKey]) nonneg enough
    · rw [others sameKey, sub_zero, withRemaining_self]
      exact .same
  · obtain ⟨entries, spends, isSpend, -⟩ := applyProRataShareKeySpendTx_spends positive covered
    have absent : contributionId ∉ entries.map fun entry => entry.1.1 := by
      intro member
      obtain ⟨entry, listed, rfl⟩ := mem_map.mp member
      rw [spends.found entry listed] at fresh
      simp at fresh
    rw [isSpend, find?_foldl_setRemaining_of_not_mem entries db absent, fresh]
    simp

theorem ContributionsChange.refundedEmpty (change : ContributionsChange paying closes db db')
    (before : RefundedEmpty db) : RefundedEmpty db' := by
  intro contributionId row found refunded
  cases foundBefore : db.contributions.find? contributionId with
  | none => exact change.opened _ _ foundBefore found refunded
  | some earlier =>
    obtain ⟨later, foundLater, one⟩ := change.kept _ _ foundBefore
    cases foundLater.symm.trans found
    cases one with
    | same => exact before _ _ foundBefore refunded
    | spent _ nonneg covered =>
      have empty := before _ _ foundBefore refunded
      simp only [withRemaining]
      omega
    | refunded => rfl

end Changes

end Teale.Gateway
