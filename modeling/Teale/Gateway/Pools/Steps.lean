import Teale.Gateway.Pools.View

/-!
# What the share-key functions do to the pools

Every function on share keys keeps the pools sound, with one exception: a top-up of a key that is
still unexpired although its refunds have been settled.
-/

namespace Teale.Gateway

open Relational Transactional List Option Db ShareKeyRow

variable {fundingId requestId model : String}
  {state : Db × ExpiredShareKeyRefundReport} {consumer : ConsumerPrincipal}
  {cost : ℤ}

variable {db db' middle : Db} {now : Timestamp} {amount : ℤ}

inductive PoolView.Sound (view : PoolView) : Prop
  | absent (noKey : view.key = none) (empty : view.left = 0)
      (uncontributed : view.contributed = false)
  /-- A key from before keys were pre-funded. -/
  | unfunded {key : KeyState} (isKey : view.key = some key)
      (notFunded : key.funded = false) (notSettled : key.settled = false)
      (withinBudget : key.consumed ≤ key.budget) (empty : view.left = 0)
      (uncontributed : view.contributed = false)
  | live {key : KeyState} (isKey : view.key = some key)
      (isFunded : key.funded = true) (notRevoked : key.revoked = false)
      (notSettled : key.settled = false)
      (left : view.left = key.budget - key.consumed)
      (contributed : view.contributed = true)
  | closed {key : KeyState} (isKey : view.key = some key) (isFunded : key.funded = true)
      (isClosed : key.revoked = true ∨ key.settled = true)
      (empty : view.left = 0) (contributed : view.contributed = true)

structure PoolsSound (db : Db) : Prop where
  each : ∀ keyId, (db.poolView keyId).Sound
  refundedEmpty : RefundedEmpty db

theorem PoolsSound.of_eq (sound : PoolsSound db) (same : db'.poolTables = db.poolTables) :
    PoolsSound db' where
  each keyId := by
    rw [poolView_congr same]
    exact sound.each keyId
  refundedEmpty := by
    rw [RefundedEmpty, (Prod.mk.inj same).2]
    exact sound.refundedEmpty

/-- The pool of a key that is funded. -/
theorem PoolsSound.of_funded (sound : PoolsSound db) (found : db.shareKeys.find? keyId = some row)
    (isFunded : row.funded = true) : (db.poolView keyId).contributed = true ∧
      (row.state.revoked = false ∧ row.state.settled = false ∧
          (db.poolView keyId).left = row.budgetCredits - row.consumedCredits ∨
        (row.state.revoked = true ∨ row.state.settled = true) ∧ (db.poolView keyId).left = 0) := by
  have key := poolView_key_of_find? found
  cases sound.each keyId with
  | absent noKey => cases key.symm.trans noKey
  | unfunded isKey notFunded =>
    cases key.symm.trans isKey
    exact absurd (isFunded.symm.trans notFunded) (by simp)
  | live isKey _ notRevoked notSettled left contributed =>
    cases key.symm.trans isKey
    exact ⟨contributed, .inl ⟨notRevoked, notSettled, left⟩⟩
  | closed isKey _ isClosed empty contributed =>
    cases key.symm.trans isKey
    exact ⟨contributed, .inr ⟨isClosed, empty⟩⟩

theorem PoolsSound.of_touches {keyId : KeyId} {effect : PoolView → PoolView}
    (sound : PoolsSound db) (touches : Touches keyId effect db db')
    (change : ContributionsChange paying closes db db')
    (here : (effect (db.poolView keyId)).Sound) : PoolsSound db' where
  each other := by
    by_cases same : other = keyId
    · rw [same, touches.here]
      exact here
    · rw [touches.elsewhere same]
      exact sound.each other
  refundedEmpty := change.refundedEmpty sound.refundedEmpty

/-! ## Calls on pools -/

/-- A key as it is found later: a key stays funded, revoked and settled. -/
structure KeyState.Becomes (key later : KeyState) : Prop where
  funded : key.funded = true → later.funded = true
  revoked : key.revoked = true → later.revoked = true
  settled : key.settled = true → later.settled = true

theorem KeyState.Becomes.refl (key : KeyState) : key.Becomes key := ⟨id, id, id⟩

theorem KeyState.Becomes.trans {key middle later : KeyState} (first : key.Becomes middle)
    (second : middle.Becomes later) : key.Becomes later where
  funded isFunded := second.funded (first.funded isFunded)
  revoked isRevoked := second.revoked (first.revoked isRevoked)
  settled isSettled := second.settled (first.settled isSettled)

/-- What a call does to keys and contributions: the pools stay sound, every
key and contribution stays, and a key that pays for a settlement is charged
what its contributions lose. -/
structure KeepsPools
    (paying : Option KeyId) (closes : Bool) (db db' : Db) : Prop where
  sound : PoolsSound db'
  change : ContributionsChange paying closes db db'
  keys : ∀ keyId key, (db.poolView keyId).key = some key →
    ∃ later, (db'.poolView keyId).key = some later ∧ key.Becomes later
  paid : ∀ keyId key, paying = some keyId → (db.poolView keyId).key = some key → key.funded = true →
    ∃ amount, 0 ≤ amount ∧ (db'.poolView keyId).key =
        some { key with consumed := key.consumed + amount } ∧
      (db'.poolView keyId).left = (db.poolView keyId).left - amount

section KeepsPools

variable {paying : Option KeyId} {closes : Bool}

theorem Touches.keys {keyId : KeyId} {effect : PoolView → PoolView}
    (touches : Touches keyId effect db db') (becomes : ∀ key, (db.poolView keyId).key = some key →
      ∃ later, (effect (db.poolView keyId)).key = some later ∧ key.Becomes later)
    (other : KeyId) (key : KeyState) (isKey : (db.poolView other).key = some key) :
    ∃ later, (db'.poolView other).key = some later ∧ key.Becomes later := by
  by_cases same : other = keyId
  · subst same
    rw [touches.here]
    exact becomes key isKey
  · exact ⟨key, by rw [touches.elsewhere same, isKey], .refl key⟩

theorem KeepsPools.of_eq (sound : PoolsSound db) (same : db'.poolTables = db.poolTables) :
    KeepsPools paying closes db db' := by
  have views := poolView_congr same
  refine ⟨sound.of_eq same, contributionsChange_of_eq (Prod.mk.inj same).2,
    fun keyId key isKey => ?_, fun keyId key _ isKey _ => ⟨0, le_refl 0, ?_, ?_⟩⟩
  · exact ⟨key, by rw [views, isKey], .refl key⟩
  · rw [views, isKey, add_zero]
  · rw [views, sub_zero]

theorem KeepsPools.of_touches {keyId : KeyId} {effect : PoolView → PoolView}
    (sound : PoolsSound db) (touches : Touches keyId effect db db')
    (change : ContributionsChange none closes db db')
    (here : (effect (db.poolView keyId)).Sound)
    (becomes : ∀ key, (db.poolView keyId).key = some key →
      ∃ later, (effect (db.poolView keyId)).key = some later ∧ key.Becomes later) :
    KeepsPools none closes db db' where
  sound := sound.of_touches touches change here
  change := change
  keys := touches.keys becomes
  paid _ _ pays := by simp at pays

theorem KeepsPools.trans (first : KeepsPools none closes db middle)
    (second : KeepsPools none closes middle db') : KeepsPools none closes db db' where
  sound := second.sound
  change := first.change.trans second.change
  keys keyId key isKey := by
    obtain ⟨between, isBetween, early⟩ := first.keys keyId key isKey
    obtain ⟨later, isLater, late⟩ := second.keys keyId between isBetween
    exact ⟨later, isLater, early.trans late⟩
  paid _ _ pays := by simp at pays

theorem KeepsPools.congr (keeps : KeepsPools paying closes start final)
    (before : start.poolTables = db.poolTables) (after : db'.poolTables = final.poolTables) :
    KeepsPools paying closes db db' := by
  obtain ⟨sound, change, keys, paid⟩ := keeps
  rw [poolView_congr before, ← poolView_congr after] at keys paid
  exact ⟨sound.of_eq after, change.congr (Prod.mk.inj before).2 (Prod.mk.inj after).2, keys, paid⟩

end KeepsPools

/-! ## Minting and topping up -/

theorem mintShareKey_pools {issuer : DeviceId} {label : Option String} (sound : PoolsSound db)
    (ran : mintShareKey db issuer label expiresIn budget ids now = .ok result) :
    KeepsPools none false db result.1 := by
  simp only [mintShareKey, ok_iff, not_not] at ran
  obtain ⟨-, budgetRange, -, -, -, keyed, insertKey, funded, insertContribution, rfl⟩ := ran
  have positive : 0 < budget := by
    have := budgetRange.1
    simp only [shareKeyMinBudget] at this
    omega
  obtain ⟨noKey, touches, sameContributions⟩ := insertShareKey_pools insertKey
  have touches := touches.trans (touches_insertShareKeyContributionTx insertContribution) rfl
  have sound : PoolsSound (db.ensureBalance issuer) := sound.of_eq rfl
  refine KeepsPools.congr (.of_touches sound touches
    ((contributionsChange_insert insertContribution (by simp)).congr sameContributions rfl) ?_
    fun key isKey => by cases noKey.symm.trans isKey) rfl rfl
  cases sound.each ids.keyId with
  | absent _ empty =>
    refine .live rfl rfl rfl rfl ?_ rfl
    simp only [empty, state]
    omega
  | unfunded isKey | live isKey | closed isKey => cases noKey.symm.trans isKey

/-- The key a top-up names is unexpired although its refunds are settled. -/
def fundsSettledKey (db : Db) (fundingId : String) (now : Timestamp) : Bool :=
  (shareKeyByFundingId db fundingId).any fun target =>
    target.2.refundsSettledAt.isSome && now < target.2.expiresAt

theorem transferToShareKey_pools (sound : PoolsSound db)
    (unsettled : fundsSettledKey db fundingId now = false)
    (ran : transferToShareKey db sender fundingId amount contributionId now = .ok result) :
    KeepsPools none false db result.1 := by
  simp only [transferToShareKey, ok_iff, mapError_eq_ok]
    at ran
  obtain ⟨positive, target, named, notRevoked, notExpired, isFunded, -, funded, insert, rfl⟩ := ran
  have found := Table.mem_rows_iff_find?.mp (mem_of_find?_eq_some named)
  have notSettled : target.2.refundsSettledAt.isSome = false := by
    simp only [fundsSettledKey, named, any_some, Bool.and_eq_false_iff,
      decide_eq_false_iff_not] at unsettled
    rcases unsettled with notSettled | expired
    · exact notSettled
    · exact absurd (not_lt.mp expired) notExpired
  have touches := (touches_updateShareKey db target.1
    (fun row => { row with budgetCredits := row.budgetCredits + amount })
    (fun key => { key with budget := key.budget + amount }) fun _ => rfl).trans
      (touches_insertShareKeyContributionTx insert) rfl
  have inserted : ContributionsChange none false db funded :=
    (contributionsChange_insert insert (by simp)).congr rfl rfl
  have isFunded : target.2.funded = true := by simpa using isFunded
  have key := poolView_key_of_find? found
  refine KeepsPools.congr (.of_touches sound touches inserted ?_ fun _ isKey =>
    ⟨_, congrArg (Option.map _) isKey, id, id, id⟩) rfl rfl
  rcases (sound.of_funded found isFunded).2 with ⟨isLive, -, left⟩ | ⟨isRevoked | isSettled, -⟩
  · refine .live (congrArg (Option.map _) key) isFunded isLive notSettled ?_ rfl
    simp only [PoolView.withKey, left, state]
    omega
  · exact absurd isRevoked notRevoked
  · exact absurd (isSettled.symm.trans notSettled) (by simp)

/-! ## Closing -/

theorem touches_refundAndSettle (refundedEmpty : RefundedEmpty db) (keyId : KeyId)
    (now : Timestamp) (reason : RefundReason) : Touches keyId
      (fun view => { view with left := 0 }.withKey fun key => { key with settled := true }) db
      ((refundShareKeyContributionsTx db keyId now reason).1.settleRefunds keyId now) :=
  (touches_refundShareKeyContributionsTx refundedEmpty keyId now reason).trans
    (touches_updateShareKey _ keyId _ _ fun _ => rfl) rfl

theorem contributionsChange_refundAndSettle
    (db : Db) (keyId : KeyId) (now : Timestamp) (reason : RefundReason) :
    ContributionsChange none true db
      ((refundShareKeyContributionsTx db keyId now reason).1.settleRefunds keyId now) :=
  (contributionsChange_refund db keyId now reason).congr rfl rfl

def Db.markRevoked (db : Db) (keyId : KeyId) (now : Timestamp) : Db :=
  db.updateShareKey keyId fun row => { row with revokedAt := some now }

/-- Revoking does nothing, marks the key, or marks it and closes its pool. -/
theorem revokeShareKey_cases (db : Db) (issuer : DeviceId) (keyId : KeyId) (now : Timestamp) :
    (revokeShareKey db issuer keyId now).1 = db ∨ ∃ row, db.shareKeys.find? keyId = some row ∧
        (row.state.funded = true ∧ row.state.settled = false ∧
            (revokeShareKey db issuer keyId now).1 =
              (refundShareKeyContributionsTx (db.markRevoked keyId now) keyId
                now .revoked).1.settleRefunds keyId now ∨
          (row.state.funded = true → row.state.settled = true) ∧
            (revokeShareKey db issuer keyId now).1 = db.markRevoked keyId now) := by
  unfold revokeShareKey
  split
  · exact .inl rfl
  case h_2 row selected =>
    refine .inr ⟨row, (filter_eq_some_iff.mp selected).1, ?_⟩
    split
    case isTrue closes =>
      rw [Bool.and_eq_true, isNone_iff_eq_none] at closes
      exact .inl ⟨closes.1, by simp [state, closes.2], rfl⟩
    case isFalse stays =>
      refine .inr ⟨fun isFunded => ?_, rfl⟩
      simp only [state] at isFunded
      simpa [isFunded, state, isSome_iff_ne_none] using stays

theorem revokeShareKey_pools (sound : PoolsSound db) (issuer : DeviceId) (keyId : KeyId)
    (now : Timestamp) : KeepsPools none true db (revokeShareKey db issuer keyId now).1 := by
  have marked : Touches keyId (·.withKey fun key => { key with revoked := true }) db
    (db.markRevoked keyId now) := touches_updateShareKey db keyId _ _ fun _ => rfl
  rcases revokeShareKey_cases db issuer keyId now with result |
    ⟨row, found, ⟨isFunded, -, result⟩ | ⟨stays, result⟩⟩ <;> rw [result]
  · exact .of_eq sound rfl
  · have refundedEmpty : RefundedEmpty (db.markRevoked keyId now) := sound.refundedEmpty
    have touches := marked.trans (touches_refundAndSettle refundedEmpty keyId now .revoked) rfl
    refine .of_touches sound touches
      ((contributionsChange_refundAndSettle (db.markRevoked keyId now) keyId now .revoked).congr
        rfl rfl) ?_ ?_
    · simp only [PoolView.withKey, poolView_key_of_find? found, map_some]
      exact .closed rfl isFunded (.inl rfl) rfl (sound.of_funded found isFunded).1
    · intro key isKey
      simp only [PoolView.withKey, isKey, map_some]
      exact ⟨_, rfl, id, fun _ => rfl, fun _ => rfl⟩
  · refine .of_touches sound marked (contributionsChange_of_eq rfl) ?_ fun _ isKey =>
      ⟨_, congrArg (Option.map _) isKey, id, fun _ => rfl, id⟩
    have key := poolView_key_of_find? found
    cases sound.each keyId with
    | absent noKey => cases key.symm.trans noKey
    | unfunded isKey notFunded notSettled withinBudget empty uncontributed =>
      exact .unfunded (congrArg (Option.map _) isKey) notFunded notSettled withinBudget empty
        uncontributed
    | live isKey isFunded _ notSettled =>
      cases key.symm.trans isKey
      rw [stays isFunded] at notSettled
      simp at notSettled
    | closed isKey isFunded _ empty contributed =>
      exact .closed (congrArg (Option.map _) isKey) isFunded (.inl rfl) empty contributed

def Db.HasFunded (db : Db) (keyId : KeyId) : Prop :=
  ∃ row, db.shareKeys.find? keyId = some row ∧ row.funded = true

theorem hasFunded_of_mem_expiredShareKeys (listed : keyId ∈ expiredShareKeys db now) :
    db.HasFunded keyId := by
  obtain ⟨entry, selected, rfl⟩ := mem_map.mp listed
  obtain ⟨stored, conditions⟩ := mem_filter.mp selected
  simp only [Bool.and_eq_true] at conditions
  exact ⟨entry.2, Table.mem_rows_iff_find?.mp stored, conditions.1.1.1⟩

theorem hasFunded_refundExpiredKey (now : Timestamp) (keyId : KeyId)
    (isFunded : state.1.HasFunded other) :
    (refundExpiredKey now state keyId).1.HasFunded other := by
  obtain ⟨row, found, funded⟩ := isFunded
  simp only [Db.HasFunded, refundExpiredKey, settleRefunds,
    updateShareKey, shareKeys_refundShareKeyContributionsTx,
    Table.find?_modify, found]
  split <;> exact ⟨_, rfl, funded⟩

theorem refundExpiredKey_pools (now : Timestamp) (sound : PoolsSound state.1)
    (isFunded : state.1.HasFunded keyId) :
    KeepsPools none true state.1 (refundExpiredKey now state keyId).1 := by
  obtain ⟨row, found, funded⟩ := isFunded
  refine .of_touches sound (touches_refundAndSettle sound.refundedEmpty keyId now .expired)
    (contributionsChange_refundAndSettle state.1 keyId now .expired) ?_ fun _ isKey =>
      ⟨_, congrArg (Option.map _) isKey, id, id, fun _ => rfl⟩
  exact .closed (congrArg (Option.map _) (poolView_key_of_find? found)) funded (.inr rfl) rfl
    (sound.of_funded found funded).1

theorem refundExpiredShareKeys_pools (sound : PoolsSound db) (now : Timestamp) :
    KeepsPools none true db (refundExpiredShareKeys db now).1 := by
  have loop : KeepsPools none true db (refundExpiredShareKeys db now).1 ∧
      ∀ keyId ∈ expiredShareKeys db now, (refundExpiredShareKeys db now).1.HasFunded keyId := by
    refine foldl_preserves (fun state : Db × ExpiredShareKeyRefundReport =>
        KeepsPools none true db state.1 ∧
          ∀ keyId ∈ expiredShareKeys db now, state.1.HasFunded keyId) ?_
      ⟨.of_eq sound rfl, fun keyId listed => hasFunded_of_mem_expiredShareKeys listed⟩
    rintro state keyId listed ⟨kept, funded⟩
    exact ⟨kept.trans (refundExpiredKey_pools now kept.sound (funded keyId listed)),
      fun other member => hasFunded_refundExpiredKey now keyId (funded other member)⟩
  exact loop.1

/-! ## Settlements -/

def Db.tickConsumed (db : Db) (keyId : KeyId) (amount : ℤ) : Db :=
  db.updateShareKey keyId fun row => { row with consumedCredits := row.consumedCredits + amount }

theorem touches_tickConsumed (db : Db) (keyId : KeyId) (amount : ℤ) :
    Touches keyId (·.withKey fun key => { key with consumed := key.consumed + amount }) db
      (db.tickConsumed keyId amount) :=
  touches_updateShareKey db keyId _ _ fun _ => rfl

theorem keepsPools_of_charge {keyId : KeyId} {effect : PoolView → PoolView}
    (sound : PoolsSound db) (nonneg : 0 ≤ amount) (touches : Touches keyId effect db db')
    (change : ContributionsChange (some keyId) false db db')
    (here : (effect (db.poolView keyId)).Sound)
    (charged : (effect (db.poolView keyId)).key = (db.poolView keyId).key.map fun key =>
      { key with consumed := key.consumed + amount })
    (spent : ∀ key, (db.poolView keyId).key = some key → key.funded = true →
      (effect (db.poolView keyId)).left = (db.poolView keyId).left - amount) :
    KeepsPools (some keyId) false db db' where
  sound := sound.of_touches touches change here
  change := change
  keys := touches.keys fun key isKey => ⟨_, charged.trans (congrArg _ isKey), id, id, id⟩
  paid other key pays isKey isFunded := by
    cases pays
    rw [touches.here, charged, isKey, spent key isKey isFunded]
    exact ⟨amount, nonneg, rfl, rfl⟩

theorem spendPool_pools (sound : PoolsSound db) (positive : 0 < amount)
    (covered : amount ≤ sumShareKeyContributions db keyId) : KeepsPools (some keyId) false db
      (applyProRataShareKeySpendTx (db.tickConsumed keyId amount) keyId amount) := by
  have sameLeft : amount ≤ ((db.tickConsumed keyId amount).poolView keyId).left := covered
  have touches := (touches_tickConsumed db keyId amount).trans
    (touches_applyProRataShareKeySpendTx positive sameLeft) rfl
  refine keepsPools_of_charge sound positive.le touches
    ((contributionsChange_spend positive sameLeft).congr rfl rfl) ?_ rfl fun _ _ _ => rfl
  have isLeft : amount ≤ (db.poolView keyId).left := covered
  cases sound.each keyId with
  | live isKey isFunded notRevoked notSettled left contributed =>
    refine .live (congrArg (Option.map _) isKey) isFunded notRevoked notSettled ?_ contributed
    simp only [PoolView.withKey, left]
    omega
  | absent _ empty | unfunded _ _ _ _ empty | closed _ _ _ empty => omega

theorem tickConsumed_pools (sound : PoolsSound db) (notFunded : shareFunded db keyId = false)
    (positive : 0 < amount) (covered : amount ≤ keyRemaining db keyId) :
    KeepsPools (some keyId) false db (db.tickConsumed keyId amount) := by
  have remaining : keyRemaining db keyId =
      ((db.poolView keyId).key.map fun key => key.budget - key.consumed).getD 0 := by
    rw [poolView, Option.map_map]
    rfl
  have flag : shareFunded db keyId = (db.poolView keyId).key.any KeyState.funded := by
    rw [poolView, Option.any_map]
    rfl
  rw [remaining] at covered
  rw [flag] at notFunded
  refine keepsPools_of_charge sound positive.le (touches_tickConsumed db keyId amount)
    (contributionsChange_of_eq rfl) ?_ rfl
    (fun key isKey isFunded => by simp [isKey, isFunded] at notFunded)
  cases sound.each keyId with
  | absent noKey =>
    simp only [noKey, map_none, getD_none] at covered
    omega
  | unfunded isKey isLegacy notSettled _ empty uncontributed =>
    simp only [isKey, map_some, getD_some] at covered
    refine .unfunded (congrArg (Option.map _) isKey) isLegacy notSettled ?_ empty uncontributed
    simp only
    omega
  | live isKey isFunded | closed isKey isFunded => simp [isKey, isFunded] at notFunded

/-- The charge of a share-key settlement, as both settlement functions make
it. -/
def chargeShareKey (db : Db) (issuer : DeviceId) (keyId : KeyId) (cost : ℤ) (receipt : Receipt) :
    Db :=
  let amount := payableByShareKey (db.ensureBalance issuer) issuer keyId cost
  let db := (db.ensureBalance issuer).appendSpent receipt issuer amount
  if 0 < amount then debitShareKey db issuer keyId amount else db

theorem debitShareKey_pools {keyId : KeyId} (sound : PoolsSound db) (issuer : DeviceId)
    (positive : 0 < amount) (covered : amount ≤ if shareFunded db keyId then
      sumShareKeyContributions db keyId else keyRemaining db keyId) :
    KeepsPools (some keyId) false db (debitShareKey db issuer keyId amount) := by
  simp only [debitShareKey]
  split
  case isTrue funded =>
    rw [if_pos funded] at covered
    exact .congr (spendPool_pools sound positive covered) rfl (by rfl)
  case isFalse notFunded =>
    rw [if_neg notFunded] at covered
    exact .congr (tickConsumed_pools sound (Bool.eq_false_of_not_eq_true notFunded) positive
      covered) rfl (by rfl)

theorem chargeShareKey_pools (sound : PoolsSound db) (issuer : DeviceId) (keyId : KeyId)
    (cost : ℤ) (receipt : Receipt) : KeepsPools (some keyId) false db
      (chargeShareKey db issuer keyId cost receipt) := by
  simp only [chargeShareKey]
  generalize isAmount : payableByShareKey (db.ensureBalance issuer) issuer keyId cost = amount
  split
  case isFalse => exact .of_eq sound rfl
  case isTrue positive =>
    have noted : PoolsSound ((db.ensureBalance issuer).appendSpent receipt issuer amount) :=
      sound.of_eq rfl
    refine .congr (debitShareKey_pools noted issuer positive ?_) (by rfl) rfl
    change amount ≤ if shareFunded (db.ensureBalance issuer) keyId then
      sumShareKeyContributions (db.ensureBalance issuer) keyId
      else keyRemaining (db.ensureBalance issuer) keyId
    grind [payableByShareKey]

def ConsumerPrincipal.keyId : ConsumerPrincipal → Option KeyId
  | .share _ keyId => some keyId
  | .device _ | .account _ _ => none

theorem settleRequest_pools (sound : PoolsSound db)
    (ran : settleRequest db consumer provider online cost requestId model now = .ok db') :
    KeepsPools consumer.keyId false db db' := by
  have framed := (settleRequest_alters ran).within
  cases consumer with
  | device payer | account accountUserId apiKeyId =>
    exact .of_eq sound (framed.read poolTables fun _ => rfl)
  | share issuer keyId =>
    unfold settleRequest at ran
    split at ran
    · cases ran
      exact .of_eq sound rfl
    · cases ran
      exact (chargeShareKey_pools sound issuer keyId cost _).congr rfl
        ((distributeEarnings_alters ..).within.read poolTables fun _ => rfl)

theorem settleProviderRequest_pools (sound : PoolsSound db)
    (ran : settleProviderRequest db consumer providerId cost requestId model now = .ok db') :
    KeepsPools consumer.keyId false db db' := by
  have framed := (settleProviderRequest_alters ran).within
  cases consumer with
  | device payer | account accountUserId apiKeyId =>
    exact .of_eq sound (framed.read poolTables fun _ => rfl)
  | share issuer keyId =>
    unfold settleProviderRequest at ran
    split at ran
    · cases ran
      exact .of_eq sound rfl
    · simp only [ok_iff] at ran
      obtain ⟨charged, charge, credited, credit, rfl⟩ := ran
      cases charge
      have credits := (creditProvider_alters credit).within.read poolTables fun _ => rfl
      exact (chargeShareKey_pools sound issuer keyId cost _).congr rfl
        (((creditEarning_alters ..).within.read poolTables fun _ => rfl).trans credits)

end Teale.Gateway
