import Teale.Gateway.Pools.Steps

/-!
# Bringing old keys into pools

Keys from before keys were pre-funded are funded by a migration, and keys from before
contributions were kept get one when the database is opened. Each round changes the key it is at
and no other.
-/

namespace Teale.Gateway

open Relational Transactional List

variable {state : Db × ShareKeyContributionBackfillReport}
  {entry : (KeyId × ShareKeyRow) × Bool} {other : KeyId}

variable {db db' : Db} {keyId : KeyId} {row : ShareKeyRow} {ids : MigrationIds}
  {now : Timestamp} {result : Db × ShareKeyContributionBackfillReport}

/-! ## Migration -/

/-- An old key and the pool it is given: a dead key gets an empty one, a live
key exactly what it has left to spend. -/
inductive Adopted (key : KeyState) (amount : ℤ) : Prop
  | dead (isFunded : key.funded = true) (isSettled : key.settled = true) (empty : amount = 0)
  | live (isFunded : key.funded = true) (notRevoked : key.revoked = false)
      (notSettled : key.settled = false)
      (left : amount = key.budget - key.consumed)

structure Adopts
    (db : Db) (keyId : KeyId) (row : ShareKeyRow) (db' : Db) : Prop where
  change : ContributionsChange none false db db'
  adopts : ∃ effect amount,
    (∀ other, db'.poolView other =
      if other = keyId then
        { key := (db.poolView other).key.map effect
          left := (db.poolView other).left + amount
          contributed := true }
      else db.poolView other) ∧
    (row.state.consumed ≤ row.state.budget → row.state.settled = false →
      Adopted (effect row.state) amount) ∧
    ∀ key : KeyState, key.Becomes (effect key)

theorem adopts_of_insert {contributionId : String}
    {update : ShareKeyRow → ShareKeyRow} {funder : DeviceId}
    {funded amount : ℤ} {createdAt : Timestamp} {refundedAt : Option Timestamp}
    {reason : Option RefundReason}
    (insert : insertShareKeyContributionTx (db.updateShareKey keyId update)
      contributionId keyId funder funded amount createdAt refundedAt reason =
        .ok db') (effect : KeyState → KeyState)
    (effective : ∀ row, (update row).state = effect row.state)
    (nonneg : 0 ≤ amount) (closedEmpty : refundedAt.isSome = true → amount = 0)
    (adopted : row.state.consumed ≤ row.state.budget →
      row.state.settled = false → Adopted (effect row.state) amount)
    (becomes : ∀ key : KeyState, key.Becomes (effect key)) : Adopts db keyId row db' where
  change := (contributionsChange_insert insert closedEmpty).congr rfl rfl
  adopts := by
    have touches := (touches_updateShareKey db keyId update effect effective).trans
      (touches_insertShareKeyContributionTx insert) rfl
    rw [max_eq_right nonneg] at touches
    exact ⟨effect, amount, touches, adopted, becomes⟩

theorem Adopts.eq_before {middle : Db} (adopts : Adopts middle keyId row db')
    (same : middle.poolView = db.poolView ∧ middle.contributions = db.contributions) :
    Adopts db keyId row db' where
  change := adopts.change.congr same.2 rfl
  adopts := same.1 ▸ adopts.adopts

theorem migrateDeadKey_adopts (ran : migrateDeadKey db ids now keyId row = .ok db') :
    Adopts db keyId row db' :=
  adopts_of_insert ran (fun key => { key with funded := true, settled := true }) (fun _ => rfl)
    (le_refl 0) (fun _ => rfl) (fun _ _ => .dead rfl rfl rfl)
    (fun _ => ⟨fun _ => rfl, id, fun _ => rfl⟩)

theorem migrateLiveKey_adopts {report : ShareKeyMigrationReport}
    {result : Db × ShareKeyMigrationReport} (notRevoked : row.revokedAt.isSome = false)
    (ran : migrateLiveKey db ids now report keyId row = .ok result) :
    Adopts db keyId row result.1 := by
  let debit := min (max (row.budgetCredits - row.consumedCredits) 0)
    (max ((db.ensureBalance row.issuerDeviceId).balanceOf row.issuerDeviceId) 0)
  have nonneg : 0 ≤ debit := by omega
  have same : (debitIssuer (db.ensureBalance row.issuerDeviceId) now keyId row.issuerDeviceId
      debit).poolTables = db.poolTables := by
    unfold debitIssuer
    split <;> rfl
  have pools := And.intro (poolView_congr same) (Prod.mk.inj same).2
  simp only [migrateLiveKey] at ran
  split at ran
  case isTrue shrinks =>
    simp only [ok_iff, Db.shrinkShareKey] at ran
    obtain ⟨_, ⟨-, rfl⟩, inserted, insert, rfl⟩ := ran
    refine Adopts.eq_before (adopts_of_insert insert (fun key => { key with
        budget := row.consumedCredits + debit
        funded := true })
      (fun _ => rfl) nonneg (by simp) ?_ (fun _ => ⟨fun _ => rfl, id, id⟩)) pools
    intro _ notSettled
    refine .live rfl notRevoked notSettled ?_
    simp only [ShareKeyRow.state]
    omega
  case isFalse keeps =>
    simp only [ok_iff] at ran
    obtain ⟨_, rfl, inserted, insert, rfl⟩ := ran
    refine Adopts.eq_before (adopts_of_insert insert (fun key => { key with funded := true })
      (fun _ => rfl) nonneg (by simp) ?_ (fun _ => ⟨fun _ => rfl, id, id⟩)) pools
    intro withinBudget notSettled
    refine .live rfl notRevoked notSettled ?_
    simp only [ShareKeyRow.state] at withinBudget ⊢
    omega

theorem migrateKey_adopts {state : Db × ShareKeyMigrationReport}
    {entry : KeyId × ShareKeyRow} {result : Db × ShareKeyMigrationReport}
    (ran : migrateKey ids now state entry = .ok result) :
    Adopts state.1 entry.1 entry.2 result.1 := by
  simp only [migrateKey, bind_eq_ok] at ran
  obtain ⟨identified, identify, ran⟩ := ran
  refine Adopts.eq_before ?_ (ensureShareKeyFundingIdTx_pools identify)
  split at ran
  case isTrue =>
    simp only [ok_iff] at ran
    obtain ⟨_, dead, rfl⟩ := ran
    exact migrateDeadKey_adopts dead
  case isFalse alive =>
    rw [Bool.or_eq_true, not_or, Bool.not_eq_true] at alive
    split at ran
    case isTrue spent =>
      simp only [ok_iff] at ran
      obtain ⟨_, insert, rfl⟩ := ran
      refine adopts_of_insert insert
        (fun key => { key with funded := true }) (fun _ => rfl) (le_refl 0)
        (by simp) ?_ (fun _ => ⟨fun _ => rfl, id, id⟩)
      intro withinBudget notSettled
      refine .live rfl alive.1 notSettled ?_
      simp only [ShareKeyRow.state] at withinBudget ⊢
      omega
    case isFalse => exact migrateLiveKey_adopts alive.1 ran

theorem Adopts.touches (adopts : Adopts db keyId row db') : ∃ effect, Touches keyId effect db db' ∧
    ∀ other key, (db.poolView other).key = some key →
      ∃ later, (db'.poolView other).key = some later ∧ key.Becomes later := by
  obtain ⟨effect, amount, views, -, becomes⟩ := adopts.adopts
  have touches : Touches keyId (fun view => ⟨view.key.map effect, view.left + amount, true⟩) db db' :=
    views
  exact ⟨_, touches, touches.keys fun key isKey =>
    ⟨_, congrArg (Option.map effect) isKey, becomes key⟩⟩

theorem Adopts.here (adopts : Adopts db keyId row db')
    (isKey : (db.poolView keyId).key = some row.state) (empty : (db.poolView keyId).left = 0)
    (withinBudget : row.state.consumed ≤ row.state.budget)
    (notSettled : row.state.settled = false) : (db'.poolView keyId).Sound := by
  obtain ⟨effect, amount, views, adopted, -⟩ := adopts.adopts
  rw [views, if_pos rfl, isKey, empty, zero_add]
  cases adopted withinBudget notSettled with
  | dead isFunded isSettled noAmount => exact .closed rfl isFunded (.inr isSettled) noAmount rfl
  | live isFunded notRevoked stillUnsettled left =>
    exact .live rfl isFunded notRevoked stillUnsettled left rfl

/-- A loop over distinct keys, each of which its round gives a sound pool. -/
theorem foldlM_pools {ι ρ : Type} {items : List ι} {body : Db × ρ → ι → Tx (Db × ρ)}
    {start finish : Db × ρ} (key : ι → KeyId) (refundedEmpty : RefundedEmpty start.1)
    (round : ∀ state item state', item ∈ items → body state item = .ok state' →
      ContributionsChange none false state.1 state'.1 ∧
      (∃ effect, Touches (key item) effect state.1 state'.1 ∧
        ∀ other key, (state.1.poolView other).key = some key →
          ∃ later, (state'.1.poolView other).key = some later ∧ key.Becomes later) ∧
      (state.1.poolView (key item) = start.1.poolView (key item) →
        (state'.1.poolView (key item)).Sound))
    (others : ∀ keyId, keyId ∉ items.map key → (start.1.poolView keyId).Sound)
    (nodup : (items.map key).Nodup) (ran : items.foldlM body start = .ok finish) :
    KeepsPools none false start.1 finish.1 := by
  obtain ⟨change, keys⟩ := foldlM_preserves (fun state : Db × ρ =>
      ContributionsChange none false start.1 state.1 ∧
        ∀ keyId key, (start.1.poolView keyId).key = some key →
          ∃ later, (state.1.poolView keyId).key = some later ∧ key.Becomes later)
    (fun state item state' member before ran => by
      obtain ⟨change, ⟨_, -, becomes⟩, -⟩ := round state item state' member ran
      refine ⟨before.1.trans change, fun keyId key isKey => ?_⟩
      obtain ⟨middle, isMiddle, early⟩ := before.2 keyId key isKey
      obtain ⟨later, isLater, late⟩ := becomes keyId middle isMiddle
      exact ⟨later, isLater, early.trans late⟩)
    ⟨contributionsChange_of_eq rfl, fun _ key isKey => ⟨key, isKey, .refl key⟩⟩ ran
  refine ⟨⟨?_, change.refundedEmpty refundedEmpty⟩, change, keys, fun _ _ pays => by simp at pays⟩
  refine foldlM_local key (fun state : Db × ρ => state.1.poolView) (fun _ view => view.Sound) ?_
    (fun state item state' member same ran => (round state item state' member ran).2.2 same)
    others nodup ran
  intro state item state' other member ran different
  obtain ⟨_, touches, -⟩ := (round state item state' member ran).2.1
  exact touches.elsewhere different

theorem migrateUnfundedShareKeys_pools
    {result : Db × ShareKeyMigrationReport} (sound : PoolsSound db)
    (ran : migrateUnfundedShareKeys db ids now = .ok result) :
    KeepsPools none false db result.1 := by
  refine foldlM_pools Prod.fst sound.refundedEmpty ?_ (fun keyId _ => sound.each keyId)
    (db.shareKeys.keysNodup.sublist (filter_sublist.map Prod.fst)) ran
  intro state entry state' member round
  have adopts := migrateKey_adopts round
  refine ⟨adopts.change, adopts.touches, fun same => ?_⟩
  obtain ⟨stored, unfunded⟩ := mem_filter.mp member
  have isKey := poolView_key_of_find? (Table.mem_rows_iff_find?.mp stored)
  simp only [Bool.not_eq_true_eq_eq_false] at unfunded
  cases sound.each entry.1 with
  | unfunded isSame _ notSettled withinBudget empty =>
    cases isKey.symm.trans isSame
    exact adopts.here (by rw [same, isKey]) (by rw [same, empty]) withinBudget notSettled
  | absent noKey => cases isKey.symm.trans noKey
  | live isSame isFunded | closed isSame isFunded =>
    cases isKey.symm.trans isSame
    exact absurd (unfunded.symm.trans isFunded) (by simp)

/-! ## Backfill -/

theorem backfillKey_contributed (contributed : entry.2 = true)
    (ran : backfillKey ids now state entry = .ok result) :
    result.1.poolView = state.1.poolView ∧ result.1.contributions = state.1.contributions := by
  simp only [backfillKey, ok_iff, contributed, if_true] at ran
  obtain ⟨identified, identify, rfl⟩ := ran
  exact ensureShareKeyFundingIdTx_pools identify

theorem backfillFundedShareKeyContributions_pools (sound : PoolsSound db)
    (ran : backfillFundedShareKeyContributions db ids now = .ok result) :
    KeepsPools none false db result.1 := by
  have same := foldlM_preserves (fun state : Db × ShareKeyContributionBackfillReport =>
      state.1.poolView = db.poolView ∧ state.1.contributions = db.contributions)
    (by
      rintro state entry state' member ⟨views, contributions⟩ round
      obtain ⟨row, selected, rfl⟩ := mem_map.mp member
      obtain ⟨stored, isFunded⟩ := mem_filter.mp selected
      have found := Table.mem_rows_iff_find?.mp stored
      -- every funded key of sound pools has a contribution
      obtain ⟨nextViews, nextContributions⟩ :=
        backfillKey_contributed (sound.of_funded found isFunded).1 round
      exact ⟨nextViews.trans views, nextContributions.trans contributions⟩)
    ⟨rfl, rfl⟩ ran
  obtain ⟨views, contributions⟩ := same
  have change : ContributionsChange none false db result.1 :=
    contributionsChange_of_eq contributions
  refine ⟨⟨fun keyId => ?_, change.refundedEmpty sound.refundedEmpty⟩, change,
    fun keyId key isKey => ⟨key, by rw [views, isKey], .refl key⟩,
    fun _ _ pays => by simp at pays⟩
  rw [views]
  exact sound.each keyId

/-! ## Opening -/

/-- A database from before contributions were kept. Its settlements capped a
key at its budget, its refunds were settled for keys that were revoked or had
expired, and only for keys that were funded. -/
structure LegacyKeys (db : Db) (now : Timestamp) : Prop where
  uncontributed : db.contributions = ∅
  withinBudget : ∀ entry ∈ db.shareKeys.rows, entry.2.consumedCredits ≤ entry.2.budgetCredits
  unfunded : ∀ entry ∈ db.shareKeys.rows, entry.2.funded = false → entry.2.refundsSettledAt = none
  settled : ∀ entry ∈ db.shareKeys.rows, entry.2.refundsSettledAt.isSome = true →
    entry.2.revokedAt.isSome = true ∨ entry.2.expiresAt ≤ now

def backfilledCredits (now : Timestamp) (row : ShareKeyRow) : ℤ :=
  if row.revokedAt.isSome = true ∨
      row.expiresAt ≤ now ∧ row.refundsSettledAt.isSome = true then 0
  else max (row.budgetCredits - row.consumedCredits) 0

theorem backfillContribution_ok (ran : backfillContribution db ids now keyId row = .ok db') :
    ∃ createdAt refundedAt reason, (refundedAt.isSome = true → backfilledCredits now row = 0) ∧
      insertShareKeyContributionTx db (ids.contributionId keyId) keyId
        row.issuerDeviceId (max row.budgetCredits 1) (backfilledCredits now row)
        createdAt refundedAt reason = .ok db' := by
  unfold backfillContribution at ran
  split at ran
  case h_1 revokedAt isRevoked =>
    have spent : backfilledCredits now row = 0 := by simp [backfilledCredits, isRevoked]
    exact ⟨_, _, _, fun _ => spent, spent ▸ ran⟩
  case h_2 notRevoked =>
    split at ran
    case isTrue expired =>
      rw [Bool.and_eq_true, decide_eq_true_eq] at expired
      have spent : backfilledCredits now row = 0 := by simp [backfilledCredits, expired.1, expired.2]
      exact ⟨_, _, _, fun _ => spent, spent ▸ ran⟩
    case isFalse live =>
      rw [Bool.and_eq_true, decide_eq_true_eq] at live
      have all : backfilledCredits now row = max (row.budgetCredits - row.consumedCredits) 0 := by
        rw [backfilledCredits, if_neg]
        simp [notRevoked, live]
      exact ⟨_, _, _, by simp, all ▸ ran⟩

theorem backfillKey_uncontributed (uncontributed : entry.2 = false)
    (ran : backfillKey ids now state entry = .ok result) :
    ContributionsChange none false state.1 result.1 ∧ Touches entry.1.1
      (fun view => ⟨view.key, view.left + backfilledCredits now entry.1.2, true⟩)
      state.1 result.1 := by
  simp only [backfillKey, ok_iff, uncontributed, Bool.false_eq_true, if_false] at ran
  obtain ⟨identified, identify, inserted, write, rfl⟩ := ran
  obtain ⟨_, _, _, closedEmpty, insert⟩ := backfillContribution_ok write
  have nonneg : 0 ≤ backfilledCredits now entry.1.2 := by
    unfold backfilledCredits
    split <;> omega
  have touches := touches_insertShareKeyContributionTx insert
  obtain ⟨views, contributions⟩ := ensureShareKeyFundingIdTx_pools identify
  rw [max_eq_right nonneg, Touches, views] at touches
  exact ⟨(contributionsChange_insert insert closedEmpty).congr contributions rfl, touches⟩

theorem LegacyKeys.sound_funded (legacy : LegacyKeys db now)
    (stored : (keyId, row) ∈ db.shareKeys.rows) (isFunded : row.funded = true) : PoolView.Sound
      { key := some row.state
        left := backfilledCredits now row
        contributed := true } := by
  have withinBudget : row.consumedCredits ≤ row.budgetCredits := legacy.withinBudget _ stored
  have settled := legacy.settled _ stored
  unfold backfilledCredits
  split
  case isTrue dead =>
    refine .closed rfl isFunded ?_ rfl rfl
    exact dead.imp id And.right
  case isFalse alive =>
    rw [not_or, not_and, Bool.not_eq_true] at alive
    have notSettled : row.refundsSettledAt.isSome = false := by
      by_contra isSettled
      rw [Bool.not_eq_false] at isSettled
      rcases settled isSettled with isRevoked | expired
      · simp [alive.1] at isRevoked
      · exact alive.2 expired isSettled
    refine .live rfl isFunded alive.1 notSettled ?_ rfl
    simp only [ShareKeyRow.state]
    omega

/-- Opening an old database makes its pools sound. -/
theorem poolsSound_of_legacy (legacy : LegacyKeys db now)
    (ran : backfillFundedShareKeyContributions db ids now = .ok result) :
    PoolsSound result.1 := by
  have uncontributed : ∀ keyId, db.hasContribution keyId = false := by
    simp [Db.hasContribution, legacy.uncontributed]
  have unflagged : ∀ entry ∈ ((db.shareKeys.rows.filter fun row => row.2.funded).map fun row =>
        (row, db.contributions.rows.any fun other => other.2.keyId = row.1)),
      entry.2 = false := by
    intro entry member
    obtain ⟨row, -, rfl⟩ := mem_map.mp member
    exact uncontributed row.1
  refine (foldlM_pools (fun entry : (KeyId × ShareKeyRow) × Bool => entry.1.1) ?_ ?_ ?_ ?_
    ran).sound
  · intro contributionId row found
    simp [legacy.uncontributed] at found
  · intro state entry state' member round
    obtain ⟨change, touches⟩ := backfillKey_uncontributed (unflagged entry member) round
    refine ⟨change, ⟨_, touches, touches.keys fun key isKey => ⟨key, isKey, .refl key⟩⟩,
      fun same => ?_⟩
    rw [touches.here, same]
    obtain ⟨row, selected, rfl⟩ := mem_map.mp member
    obtain ⟨stored, isFunded⟩ := mem_filter.mp selected
    have found := Table.mem_rows_iff_find?.mp stored
    have empty : (db.poolView row.1).left = 0 :=
      sumShareKeyContributions_of_uncontributed (uncontributed row.1)
    rw [empty, zero_add, poolView_key_of_find? found]
    exact legacy.sound_funded stored isFunded
  · intro keyId notListed
    have empty := sumShareKeyContributions_of_uncontributed (uncontributed keyId)
    cases found : db.shareKeys.find? keyId with
    | none => exact .absent (by simp [Db.poolView, found]) empty (uncontributed keyId)
    | some row =>
      have stored := Table.mem_rows_iff_find?.mpr found
      have notFunded : row.funded = false := by
        by_contra isFunded
        refine notListed ?_
        rw [map_map]
        refine mem_map.mpr ⟨(keyId, row), mem_filter.mpr ⟨stored, ?_⟩, rfl⟩
        simpa using isFunded
      refine .unfunded (poolView_key_of_find? found) notFunded ?_
        (legacy.withinBudget _ stored) empty (uncontributed keyId)
      have unsettled : row.refundsSettledAt = none := legacy.unfunded _ stored notFunded
      simp [ShareKeyRow.state, unsettled]
  · rw [map_map]
    exact db.shareKeys.keysNodup.sublist (filter_sublist.map Prod.fst)

end Teale.Gateway
