import Teale.Gateway.Books.Accounts
import Teale.Gateway.Ledger.ProRata

/-!
# What share-key functions post

Minting and topping up fund a pool, a spend takes exactly what was charged out
of it, and closing a key refunds every contribution to its funder.
-/

namespace Teale.Gateway

open Relational Transactional Bookkeeping List Relational.Table Db Entry

open Finsupp (single)

variable {spend funded remaining : ℤ} {state : Db × ℕ × ℤ}
  {funder issuer : DeviceId} {createdAt : Timestamp} {refundedAt : Option Timestamp}
  {reason : Option RefundReason}

variable {db db' : Db} {keyId : KeyId} {contributionId : String}
  {row : String × ContributionRow} {ids : MigrationIds} {now : Timestamp}
  {result : Db × ShareKeyMigrationReport} (settledAt : Timestamp)

/-! ## The contributions of a key -/

theorem mem_contributionsOf : entry ∈ db.contributionsOf keyId condition ↔
      db.contributions.find? entry.1 = some entry.2 ∧
        entry.2.keyId = keyId ∧ condition entry.2 = true := by
  rw [contributionsOf, mem_insertionSort, mem_filter,
    Bool.and_eq_true, beq_iff_eq, ← mem_rows_iff_find?]

theorem nodup_contributionsOf (db : Db) (keyId : KeyId) (condition : ContributionRow → Bool) :
    ((db.contributionsOf keyId condition).map Prod.fst).Nodup := by
  rw [contributionsOf, ((perm_insertionSort _ _).map Prod.fst).nodup_iff]
  exact db.contributions.keysNodup.sublist (filter_sublist.map Prod.fst)

theorem sum_contributionsOf (db : Db) (keyId : KeyId) (condition : ContributionRow → Bool)
    (amount : ContributionRow → ℤ) :
    ((db.contributionsOf keyId condition).map fun row => amount row.2).sum =
      db.contributions.sum fun _ row =>
        if row.keyId = keyId ∧ condition row = true then amount row else 0 := by
  rw [contributionsOf, ((perm_insertionSort _ _).map
      fun row : String × ContributionRow => amount row.2).sum_eq,
    Table.sum]
  induction db.contributions.rows with
  | nil => simp
  | cons head tail ih =>
    by_cases counts : head.2.keyId = keyId ∧ condition head.2 = true
    · simp [counts.1, counts.2, ih]
    · rw [map_cons, sum_cons, if_neg counts, zero_add, ← ih, filter_cons_of_neg]
      simpa using counts

theorem sum_weights_contributionsOf (db : Db) (keyId : KeyId) :
    (weights (db.contributionsOf keyId fun row =>
      0 < row.remainingCredits)).sum = sumShareKeyContributions db keyId := by
  rw [weights, sum_contributionsOf, sumShareKeyContributions]
  refine sum_congr _ fun _ row _ => ?_
  have := row.remainingNonneg
  by_cases sameKey : row.keyId = keyId <;> simp [sameKey]
  omega

theorem sumShareKeyContributions_nonneg (db : Db) (keyId : KeyId) :
    0 ≤ sumShareKeyContributions db keyId := by
  refine sum_nonneg fun _ row _ => ?_
  split
  · exact row.remainingNonneg
  · exact le_refl 0

theorem remainingCredits_le_sumShareKeyContributions {row : ContributionRow}
    (found : db.contributions.find? contributionId = some row) (sameKey : row.keyId = keyId) :
    row.remainingCredits ≤ sumShareKeyContributions db keyId := by
  have nonneg : ∀ id row, (id, row) ∈ db.contributions.rows →
      0 ≤ if row.keyId = keyId then row.remainingCredits else 0 := by
    intro _ row _
    split
    · exact row.remainingNonneg
    · exact le_refl 0
  have part := weight_le_sum nonneg
    (mem_rows_iff_find?.mpr found)
  rwa [if_pos sameKey] at part

/-! ## Spending -/

theorem books_foldl_setRemaining (entries : List ((String × ContributionRow) × Reduction))
    (nodup : (entries.map fun entry => entry.1.1).Nodup)
    (found : ∀ entry ∈ entries, db.contributions.find? entry.1.1 = some entry.1.2)
    (sameKey : ∀ entry ∈ entries, entry.1.2.keyId = keyId)
    (covered : ∀ entry ∈ entries, entry.2.amount ≤ entry.1.2.remainingCredits) :
    books (entries.foldl (fun db entry => db.setRemaining entry.1.1
        (entry.1.2.remainingCredits - entry.2.amount)) db) = books db + single (.pool keyId)
        (-(entries.map fun entry => entry.2.amount).sum) := by
  induction entries generalizing db with
  | nil => simp
  | cons head tail ih =>
    obtain ⟨headFresh, tailNodup⟩ := nodup_cons.mp nodup
    have headFound := found head mem_cons_self
    have headCovered := covered head mem_cons_self
    have headKey := sameKey head mem_cons_self
    have tailFound : ∀ entry ∈ tail, (db.setRemaining head.1.1 (head.1.2.remainingCredits -
          head.2.amount)).contributions.find? entry.1.1 = some entry.1.2 := by
      intro entry member
      have different : entry.1.1 ≠ head.1.1 := fun equal =>
        headFresh (mem_map.mpr ⟨entry, member, equal⟩)
      rw [setRemaining, find?_modify_of_ne _ _ different]
      exact found entry (mem_cons_of_mem head member)
    rw [foldl_cons, ih tailNodup tailFound
      (forall_mem_cons.mp sameKey).2
      (forall_mem_cons.mp covered).2,
      setRemaining, books_modifyContribution _ headFound]
    have uncut : max 0 (head.1.2.remainingCredits - head.2.amount) =
        head.1.2.remainingCredits - head.2.amount := by omega
    simp only [ContributionRow.books, headKey, uncut, ← Finsupp.single_sub,
      add_assoc, ← Finsupp.single_add, map_cons, sum_cons]
    congr 2
    omega

/-- The reductions a spend writes back: one for each contribution with
something left, together the spend. -/
structure Spends
    (db : Db) (keyId : KeyId) (spend : ℤ)
    (entries : List ((String × ContributionRow) × Reduction)) : Prop where
  nodup : (entries.map fun entry => entry.1.1).Nodup
  found : ∀ entry ∈ entries, db.contributions.find? entry.1.1 = some entry.1.2
  sameKey : ∀ entry ∈ entries, entry.1.2.keyId = keyId
  nonneg : ∀ entry ∈ entries, 0 ≤ entry.2.amount
  covered : ∀ entry ∈ entries, entry.2.amount ≤ entry.1.2.remainingCredits
  total : (entries.map fun entry => entry.2.amount).sum = spend

theorem applyProRataShareKeySpendTx_spends (positive : 0 < spend)
    (covered : spend ≤ sumShareKeyContributions db keyId) :
    ∃ entries, Spends db keyId spend entries ∧ applyProRataShareKeySpendTx db keyId spend =
        entries.foldl (fun db entry => db.setRemaining entry.1.1
          (entry.1.2.remainingCredits - entry.2.amount)) db ∧
      entries.map Prod.fst = (db.contributionsOf keyId fun row => 0 < row.remainingCredits) ∧
      ∀ entry ∈ entries,
        let share := Apportionment.floorShare spend (sumShareKeyContributions db keyId)
          entry.1.2.remainingCredits
        share ≤ entry.2.amount ∧ entry.2.amount ≤ share + 1 := by
  rw [← sum_weights_contributionsOf] at covered ⊢
  unfold applyProRataShareKeySpendTx
  rw [if_neg (by omega)]
  generalize listed : (db.contributionsOf keyId fun row =>
    0 < row.remainingCredits) = contributions at covered ⊢
  have totalPos : 0 < (weights contributions).sum := by omega
  have member : ∀ entry ∈ contributions.zip (proRataReductions spend contributions),
      db.contributions.find? entry.1.1 = some entry.1.2 ∧ entry.1.2.keyId = keyId := by
    intro entry inZip
    have inList := (of_mem_zip inZip).1
    rw [← listed] at inList
    have := mem_contributionsOf.mp inList
    exact ⟨this.1, this.2.1⟩
  have lengths := length_proRataReductions spend totalPos
  have fsts : (contributions.zip
      (proRataReductions spend contributions)).map Prod.fst = contributions :=
    map_fst_zip (by omega)
  have ids : (contributions.zip (proRataReductions spend contributions)).map
      (fun entry => entry.1.1) = contributions.map Prod.fst := by
    conv_rhs => rw [← fsts, map_map]
    rfl
  have amounts : (contributions.zip (proRataReductions spend contributions)).map
      (fun entry => entry.2.amount) =
        (proRataReductions spend contributions).map Reduction.amount := by
    have snds : (contributions.zip (proRataReductions spend contributions)).map Prod.snd =
          proRataReductions spend contributions :=
      map_snd_zip (by omega)
    conv_rhs => rw [← snds, map_map]
    rfl
  have total : (contributions.map fun row => row.2.remainingCredits).sum =
      (weights contributions).sum := rfl
  simp only [total, if_neg (show ¬ (weights contributions).sum ≤ 0 by omega),
    show min spend (weights contributions).sum = spend by omega]
  have reduced {entry} (inZip : entry ∈ contributions.zip (proRataReductions spend contributions)) :=
    amount_mem_proRataReductions totalPos positive.le covered inZip
  refine ⟨_, ⟨?_, fun entry inZip => (member entry inZip).1,
    fun entry inZip => (member entry inZip).2, fun entry inZip => (reduced inZip).1,
    fun entry inZip => (reduced inZip).2.1, ?_⟩, rfl, fsts,
    fun entry inZip => (reduced inZip).2.2⟩
  · rw [ids, ← listed]
    exact nodup_contributionsOf db keyId _
  · rw [amounts, sum_amount_proRataReductions totalPos]

theorem books_applyProRataShareKeySpendTx (positive : 0 < spend)
    (covered : spend ≤ sumShareKeyContributions db keyId) :
    books (applyProRataShareKeySpendTx db keyId spend) =
      books db + single (.pool keyId) (-spend) := by
  obtain ⟨entries, spends, isSpend, -⟩ := applyProRataShareKeySpendTx_spends positive covered
  rw [isSpend, books_foldl_setRemaining entries spends.nodup spends.found
    spends.sameKey spends.covered, spends.total]

/-! ## Refunding -/

/-- The refunds of a list of contributions; an empty one gives nothing
back. -/
def refundEntries (keyId : KeyId) (rows : List (String × ContributionRow)) : List Entry :=
  (rows.filter fun row => 0 < row.2.remainingCredits).map fun row =>
    .refund keyId row.2.funderDeviceId row.2.remainingCredits

theorem books_closeContribution {row : ContributionRow} (reason : RefundReason)
    (found : db.contributions.find? contributionId = some row) :
    books (db.closeContribution contributionId settledAt reason) =
      books db + single (.pool row.keyId) (-row.remainingCredits) := by
  rw [closeContribution, books_modifyContribution _ found]
  simp [ContributionRow.books]

theorem books_refundContribution (reason : RefundReason)
    (found : state.1.contributions.find? row.1 = some row.2) (sameKey : row.2.keyId = keyId) :
    books (refundContribution keyId settledAt reason state row).1 =
      books state.1 + post (refund keyId row.2.funderDeviceId
        row.2.remainingCredits).journal := by
  unfold refundContribution
  by_cases positive : 0 < row.2.remainingCredits
  · simp only [positive, if_true]
    rw [books_closeContribution settledAt reason (by exact found), books_appendLedger,
      books_updateBalance _ _ _ (find?_ensureBalance_self _ _),
      books_ensureBalance, sameKey]
    simp only [journal, Wallet.credit, post_cons, post_nil, add_zero]
    abel
  · have empty : row.2.remainingCredits = 0 := by
      have := row.2.remainingNonneg
      omega
    simp only [positive, if_false]
    rw [books_closeContribution settledAt reason (by exact found), empty, books_ensureBalance]
    simp [journal, Wallet.credit]

theorem refundContribution_posts (reason : RefundReason)
    (found : state.1.contributions.find? row.1 = some row.2)
    (sameKey : row.2.keyId = keyId) : Posts state.1 (refundEntries keyId [row])
      (refundContribution keyId settledAt reason state row).1 := by
  have moved := books_refundContribution settledAt reason found sameKey
  by_cases positive : 0 < row.2.remainingCredits
  · rw [show refundEntries keyId [row] = [.refund keyId row.2.funderDeviceId
      row.2.remainingCredits] by simp [refundEntries, positive]]
    exact posts_single positive moved
  · have empty : row.2.remainingCredits = 0 := by
      have := row.2.remainingNonneg
      omega
    rw [show refundEntries keyId [row] = [] by simp [refundEntries, empty]]
    refine posts_nil ?_
    rw [moved, empty]
    simp [journal, Wallet.credit]

theorem find?_refundContribution (keyId : KeyId) (settledAt : Timestamp) (reason : RefundReason)
    (state : Db × ℕ × ℤ) (different : other ≠ row.1) :
    (refundContribution keyId settledAt reason state row).1.contributions.find? other =
      state.1.contributions.find? other := by
  unfold refundContribution
  simp only
  split <;> exact find?_modify_of_ne _ _ different

/-- The loop finds every contribution as it was selected. -/
theorem refundShareKeyContributionsTx_rounds
    {motive : List (String × ContributionRow) → Db → Db → Prop} (db : Db) (keyId : KeyId)
    (settledAt : Timestamp) (reason : RefundReason) (nil : ∀ db, motive [] db db)
    (cons : ∀ head tail (state : Db × ℕ × ℤ) db', state.1.contributions.find? head.1 = some head.2 →
      head.2.keyId = keyId →
      motive tail (refundContribution keyId settledAt reason state head).1 db' →
      motive (head :: tail) state.1 db') :
    motive (db.contributionsOf keyId fun row => row.refundedAt.isNone) db
      (refundShareKeyContributionsTx db keyId settledAt reason).1 := by
  have rounds : ∀ (rows : List (String × ContributionRow)) (state : Db × ℕ × ℤ),
      (rows.map Prod.fst).Nodup → (∀ row ∈ rows,
        state.1.contributions.find? row.1 = some row.2 ∧ row.2.keyId = keyId) →
      motive rows state.1 (rows.foldl (refundContribution keyId settledAt reason) state).1 := by
    intro rows
    induction rows with
    | nil => exact fun state _ _ => nil state.1
    | cons head tail ih =>
      intro state nodup selected
      obtain ⟨headFresh, tailNodup⟩ := nodup_cons.mp nodup
      obtain ⟨found, sameKey⟩ := selected head mem_cons_self
      refine cons head tail state _ found sameKey (ih _ tailNodup fun row member => ?_)
      have different : row.1 ≠ head.1 := fun equal =>
        headFresh (mem_map.mpr ⟨row, member, equal⟩)
      rw [find?_refundContribution _ _ _ _ different]
      exact selected row (mem_cons_of_mem head member)
  refine rounds _ (db, 0, 0) (nodup_contributionsOf db keyId _) fun row member => ?_
  obtain ⟨found, sameKey, -⟩ := mem_contributionsOf.mp member
  exact ⟨found, sameKey⟩

theorem refundShareKeyContributionsTx_posts
    (db : Db) (keyId : KeyId) (settledAt : Timestamp) (reason : RefundReason) : Posts db
      (refundEntries keyId (db.contributionsOf keyId fun row => row.refundedAt.isNone))
      (refundShareKeyContributionsTx db keyId settledAt reason).1 := by
  refine refundShareKeyContributionsTx_rounds
    (motive := fun rows db db' => Posts db (refundEntries keyId rows) db')
    db keyId settledAt reason (fun _ => posts_nil rfl) ?_
  intro head tail state db' found sameKey rest
  have split : refundEntries keyId (head :: tail) =
      refundEntries keyId [head] ++ refundEntries keyId tail := by
    rw [refundEntries, refundEntries, refundEntries, ← map_append,
      ← filter_append, singleton_append]
  rw [split]
  exact (refundContribution_posts settledAt reason found sameKey).append rest

def AreRefunds (entries : List Entry) : Prop :=
  ∀ entry ∈ entries, ∃ keyId deviceId amount, entry = .refund keyId deviceId amount

theorem areRefunds_refundEntries (keyId : KeyId) (rows : List (String × ContributionRow)) :
    AreRefunds (refundEntries keyId rows) := by
  intro entry member
  obtain ⟨row, -, rfl⟩ := mem_map.mp member
  exact ⟨_, _, _, rfl⟩

theorem AreRefunds.append {first second : List Entry} (early : AreRefunds first)
    (late : AreRefunds second) : AreRefunds (first ++ second) := by
  exact forall_mem_append.mpr ⟨early, late⟩

theorem refundExpiredShareKeys_posts (db : Db) (now : Timestamp) : ∃ entries, AreRefunds entries ∧
      Posts db entries (refundExpiredShareKeys db now).1 := by
  -- the loop has refunded some keys already when it meets the next one
  refine foldl_preserves (fun state : Db × ExpiredShareKeyRefundReport =>
      ∃ entries, AreRefunds entries ∧ Posts db entries state.1)
    ?_ ⟨[], by simp [AreRefunds], posts_refl db⟩
  rintro state keyId - ⟨entries, areRefunds, posted⟩
  exact ⟨_, areRefunds.append (areRefunds_refundEntries keyId _),
    posted.append (refundShareKeyContributionsTx_posts state.1 keyId now .expired)⟩

theorem revokeShareKey_posts (db : Db) (issuer : DeviceId) (keyId : KeyId) (now : Timestamp) :
    ∃ entries, AreRefunds entries ∧ Posts db entries (revokeShareKey db issuer keyId now).1 := by
  unfold revokeShareKey
  split
  · exact ⟨[], by simp [AreRefunds], posts_refl db⟩
  · split
    · exact ⟨_, areRefunds_refundEntries keyId _, refundShareKeyContributionsTx_posts
          (db.updateShareKey keyId fun row => { row with revokedAt := some now })
          keyId now .revoked⟩
    · exact ⟨[], by simp [AreRefunds], posts_nil rfl⟩

/-! ## Funding -/

theorem insertShareKeyContributionTx_books
    (ran : insertShareKeyContributionTx db contributionId keyId funder
      funded remaining createdAt refundedAt reason = .ok db') :
    books db' = books db + single (.pool keyId) (max 0 remaining) := by
  simp only [insertShareKeyContributionTx, ok_iff] at ran
  obtain ⟨fresh, -, -, ran⟩ := ran
  split at ran
  · cases ran
    have absent : db.contributions.find? contributionId = none := by simpa using fresh
    simp only [books]
    rw [sum_insertOrIgnore_of_fresh _ _ _ absent]
    simp only [ContributionRow.books]
    abel
  · simp at ran

theorem insertShareKey_books {row : ShareKeyRow} (ran : db.insertShareKey keyId row = .ok db') :
    books db' = books db ∧ db'.balances = db.balances := by
  simp only [insertShareKey, ok_iff] at ran
  obtain ⟨-, -, -, -, -, rfl⟩ := ran
  exact ⟨rfl, rfl⟩

theorem mintShareKey_posts {label : Option String}
    {expiresIn budget : ℤ} {ids : ShareKeyIds} {result : Db × ShareKeyMinted}
    (ran : mintShareKey db issuer label expiresIn budget ids now = .ok result) :
    Posts db [.fund issuer ids.keyId budget] result.1 := by
  simp only [mintShareKey, ok_iff, not_not] at ran
  obtain ⟨-, budgetRange, -, -, affordable, keyed, insertKey, funded,
    insertContribution, rfl⟩ := ran
  have positive : 0 < budget := by
    have := budgetRange.1
    simp only [shareKeyMinBudget] at this
    omega
  obtain ⟨sameBooks, sameBalances⟩ := insertShareKey_books insertKey
  refine posts_single ⟨positive, ?_⟩ ?_
  · rw [← books_ensureBalance db issuer, books_device]
    omega
  · rw [insertShareKeyContributionTx_books insertContribution, books_debit _ _ _ _ _ _ (by
        rw [sameBalances]
        exact find?_ensureBalance_self _ _),
      sameBooks, books_ensureBalance, max_eq_right positive.le]
    simp only [journal, post_append, post_cons, post_nil, add_zero, add_assoc]

theorem transferToShareKey_posts {result : Db × ShareKeyFundingReceipt}
    (ran : transferToShareKey db sender fundingId amount contributionId now = .ok result) :
    ∃ keyId, Posts db [.fund sender keyId amount] result.1 := by
  simp only [transferToShareKey, ok_iff, mapError_eq_ok]
    at ran
  obtain ⟨positive, target, -, -, -, -, affordable, funded, insert, rfl⟩ := ran
  have sameBooks : books ((db.ensureDevice sender now).ensureBalance sender) = books db := by simp
  refine ⟨target.1, posts_single ⟨by omega, ?_⟩ ?_⟩
  · rw [← sameBooks, books_device]
    omega
  · rw [books_appendLedger, insertShareKeyContributionTx_books insert, books_updateShareKey,
      books_updateBalance _ _ _ (find?_ensureBalance_self _ _),
      sameBooks, max_eq_right (by omega)]
    simp only [journal, Wallet.credit, post_append, post_cons, post_nil, add_zero]
    abel

/-! ## Bringing old keys forward -/

theorem ensureShareKeyFundingIdTx_books {existing : Option String} {fresh : String}
    (ran : ensureShareKeyFundingIdTx db keyId existing fresh = .ok db') :
    books db' = books db := by
  unfold ensureShareKeyFundingIdTx at ran
  split at ran
  · cases ran
    rfl
  · simp only [ok_iff] at ran
    obtain ⟨-, rfl⟩ := ran
    rfl

def AreFundings (entries : List Entry) : Prop :=
  ∀ entry ∈ entries, ∃ deviceId keyId amount, entry = .fund deviceId keyId amount

theorem books_debitIssuer (now : Timestamp) (keyId : KeyId) (debit : ℤ)
    (nonneg : 0 ≤ debit) (found : (db.balances.find? issuer).isSome = true) :
    books (debitIssuer db now keyId issuer debit) =
      books db + post ((Wallet.device issuer).credit (-debit)) := by
  unfold debitIssuer
  split
  · exact books_debit _ _ _ _ _ _ found
  · have zero : debit = 0 := by omega
    simp [zero, Wallet.credit]

theorem migrateLiveKey_posts {report : ShareKeyMigrationReport} {row : ShareKeyRow}
    (ran : migrateLiveKey db ids now report keyId row = .ok result) :
    ∃ entries, AreFundings entries ∧ Posts db entries result.1 := by
  let debit := min (max (row.budgetCredits - row.consumedCredits) 0)
    (max ((db.ensureBalance row.issuerDeviceId).balanceOf row.issuerDeviceId) 0)
  have nonneg : 0 ≤ debit := by omega
  have moved : books result.1 = books db +
      post (fund row.issuerDeviceId keyId debit).journal := by
    have debited := books_debitIssuer now keyId debit nonneg
      (find?_ensureBalance_self db row.issuerDeviceId)
    have marked : ∀ marked inserted : Db,
        books marked = books (debitIssuer (db.ensureBalance row.issuerDeviceId)
          now keyId row.issuerDeviceId debit) →
        insertShareKeyContributionTx marked (ids.contributionId keyId) keyId
          row.issuerDeviceId (max debit 1) debit now none none = .ok inserted →
        books inserted = books db + post (fund row.issuerDeviceId keyId debit).journal := by
      intro marked inserted same insert
      rw [insertShareKeyContributionTx_books insert, same, debited,
        books_ensureBalance, max_eq_right nonneg]
      simp only [journal, post_append, post_cons, post_nil, add_zero, add_assoc]
    simp only [migrateLiveKey] at ran
    split at ran
    · simp only [ok_iff, shrinkShareKey] at ran
      obtain ⟨shrunk, ⟨-, rfl⟩, inserted, insert, rfl⟩ := ran
      exact marked _ _ (books_updateShareKey ..) insert
    · simp only [ok_iff] at ran
      obtain ⟨_, rfl, inserted, insert, rfl⟩ := ran
      exact marked _ _ (books_updateShareKey ..) insert
  by_cases positive : 0 < debit
  · refine ⟨[.fund row.issuerDeviceId keyId debit], ?_, posts_single ⟨positive, ?_⟩ moved⟩
    · intro entry member
      exact ⟨_, _, _, mem_singleton.mp member⟩
    · rw [← books_ensureBalance db row.issuerDeviceId, books_device]
      omega
  · refine ⟨[], by simp [AreFundings], posts_nil ?_⟩
    have zero : debit = 0 := by omega
    rw [moved, zero]
    simp [journal, Wallet.credit]

theorem migrateKey_posts {state : Db × ShareKeyMigrationReport} {entry : KeyId × ShareKeyRow}
    (ran : migrateKey ids now state entry = .ok result) :
    ∃ entries, AreFundings entries ∧ Posts state.1 entries result.1 := by
  simp only [migrateKey, bind_eq_ok] at ran
  obtain ⟨identified, identify, ran⟩ := ran
  have sameBooks := ensureShareKeyFundingIdTx_books identify
  split at ran
  · simp only [migrateDeadKey, ok_iff] at ran
    obtain ⟨inserted, insert, rfl⟩ := ran
    refine ⟨[], by simp [AreFundings], posts_nil ?_⟩
    rw [insertShareKeyContributionTx_books insert, books_updateShareKey, sameBooks]
    simp
  · split at ran
    · simp only [ok_iff] at ran
      obtain ⟨inserted, insert, rfl⟩ := ran
      refine ⟨[], by simp [AreFundings], posts_nil ?_⟩
      rw [insertShareKeyContributionTx_books insert, markFunded,
        books_updateShareKey, sameBooks]
      simp
    · obtain ⟨entries, areFundings, posted⟩ := migrateLiveKey_posts ran
      exact ⟨entries, areFundings, posted.of_books_eq sameBooks⟩

theorem migrateUnfundedShareKeys_posts (ran : migrateUnfundedShareKeys db ids now = .ok result) :
    ∃ entries, AreFundings entries ∧ Posts db entries result.1 := by
  refine foldlM_preserves (fun state : Db × ShareKeyMigrationReport =>
      ∃ entries, AreFundings entries ∧ Posts db entries state.1)
    ?_ ?_ ran
  case refine_2 => exact ⟨[], by simp [AreFundings], posts_refl db⟩
  rintro state entry state' - ⟨before, areBefore, posted⟩ round
  obtain ⟨after, areAfter, posted'⟩ := migrateKey_posts round
  exact ⟨before ++ after, forall_mem_append.mpr ⟨areBefore, areAfter⟩, posted.append posted'⟩

def AreEndowments (entries : List Entry) : Prop :=
  ∀ entry ∈ entries, ∃ keyId amount, entry = .endow keyId amount

theorem insertShareKeyContributionTx_posts
    (ran : insertShareKeyContributionTx db contributionId keyId funder
      funded remaining createdAt refundedAt reason = .ok db') :
    ∃ entries, AreEndowments entries ∧ Posts db entries db' := by
  refine ⟨[.endow keyId (max 0 remaining)], ?_, posts_single (le_max_left 0 remaining) ?_⟩
  · intro entry member
    exact ⟨_, _, mem_singleton.mp member⟩
  · rw [insertShareKeyContributionTx_books ran]
    simp [journal]

theorem backfillKey_posts {state : Db × ShareKeyContributionBackfillReport}
    {entry : (KeyId × ShareKeyRow) × Bool} {result : Db × ShareKeyContributionBackfillReport}
    (ran : backfillKey ids now state entry = .ok result) :
    ∃ entries, AreEndowments entries ∧ Posts state.1 entries result.1 := by
  simp only [backfillKey, bind_eq_ok] at ran
  obtain ⟨identified, identify, ran⟩ := ran
  have sameBooks := ensureShareKeyFundingIdTx_books identify
  split at ran
  · cases ran
    exact ⟨[], by simp [AreEndowments], posts_nil sameBooks⟩
  · simp only [ok_iff, backfillContribution] at ran
    obtain ⟨inserted, insert, rfl⟩ := ran
    have posted : ∃ entries, AreEndowments entries ∧ Posts identified entries inserted := by
      split at insert
      · exact insertShareKeyContributionTx_posts insert
      · split at insert <;> exact insertShareKeyContributionTx_posts insert
    obtain ⟨entries, areEndowments, posted⟩ := posted
    exact ⟨entries, areEndowments, posted.of_books_eq sameBooks⟩

theorem backfillFundedShareKeyContributions_posts {result : Db × ShareKeyContributionBackfillReport}
    (ran : backfillFundedShareKeyContributions db ids now = .ok result) :
    ∃ entries, AreEndowments entries ∧ Posts db entries result.1 := by
  refine foldlM_preserves (fun state : Db × ShareKeyContributionBackfillReport =>
      ∃ entries, AreEndowments entries ∧ Posts db entries state.1)
    ?_ ?_ ran
  case refine_2 => exact ⟨[], by simp [AreEndowments], posts_refl db⟩
  rintro state entry state' - ⟨before, areBefore, posted⟩ round
  obtain ⟨after, areAfter, posted'⟩ := backfillKey_posts round
  exact ⟨before ++ after, forall_mem_append.mpr ⟨areBefore, areAfter⟩, posted.append posted'⟩

end Teale.Gateway
