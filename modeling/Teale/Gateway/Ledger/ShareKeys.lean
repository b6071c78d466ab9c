import Teale.Gateway.Ledger.Wallets

/-!
# Share keys

A share key is a pool of credits funded by one or more devices: a settlement spends the
contributions pro rata, and revoking or expiring a key refunds what is left of each.
-/

namespace Teale.Gateway

open Relational Transactional

def shareKeyMinExpiresIn : ℤ := 60

def shareKeyMaxExpiresIn : ℤ := 30 * 86400

def shareKeyMinBudget : ℤ := 1

def shareKeyMaxBudget : ℤ := 50000000

def shareKeyMaxActivePerIssuer : ℕ := 50

def shareKeyMaxLabelLen : ℕ := 64

/-! ## Contributions -/

def insertShareKeyContributionTx (db : Db) (contributionId : String) (keyId : KeyId)
    (funderDeviceId : DeviceId) (fundedCredits remainingCredits : ℤ)
    (createdAt : Timestamp) (refundedAt : Option Timestamp)
    (refundReason : Option RefundReason) : Tx Db := do
  failIf ((db.contributions.find? contributionId).isSome = true)
    (.sql (.unique "share_key_contributions" "contribution_id"))
  failIf ((db.shareKeys.find? keyId).isNone = true) (.sql (.foreignKey "share_key_contributions"))
  failIf ((db.devices.find? funderDeviceId).isNone = true)
    (.sql (.foreignKey "share_key_contributions"))
  if fundedPos : 0 < fundedCredits then
    pure { db with
        contributions := db.contributions.insertOrIgnore contributionId
          { keyId, funderDeviceId, fundedCredits, createdAt, refundedAt, refundReason, fundedPos
            remainingCredits := max 0 remainingCredits
            remainingNonneg := le_max_left 0 remainingCredits } }
  else
    .error (.sql (.check "share_key_contributions" "funded_credits"))

def sumShareKeyContributions (db : Db) (keyId : KeyId) : ℤ := db.contributions.sum fun _ row =>
    if row.keyId = keyId then row.remainingCredits else 0

/-- `ensure_share_key_funding_id_tx`; `fresh` is the value of
`new_share_key_funding_id`. -/
def ensureShareKeyFundingIdTx
    (db : Db) (keyId : KeyId) (existing : Option String) (fresh : String) : Tx Db :=
  match existing with
  | some _ => pure db
  | none => do
    failIf ((db.shareKeys.rows.any fun row => row.1 ≠ keyId && row.2.fundingId = some fresh) = true)
      (.sql (.unique "share_keys" "funding_id"))
    pure (db.updateShareKey keyId fun row => { row with fundingId := some fresh })

def Db.closeContribution (db : Db) (contributionId : String) (settledAt : Timestamp)
    (reason : RefundReason) : Db :=
  { db with contributions := db.contributions.modify contributionId fun row => { row with
        remainingCredits := 0
        refundedAt := some settledAt
        refundReason := some reason
        remainingNonneg := le_refl 0 } }

def refundContribution (keyId : KeyId) (settledAt : Timestamp) (reason : RefundReason)
    (state : Db × ℕ × ℤ) (row : String × ContributionRow) : Db × ℕ × ℤ :=
  let funder := row.2.funderDeviceId
  let remaining := row.2.remainingCredits
  let db := state.1.ensureBalance funder
  if 0 < remaining then
    (((db.updateBalance funder remaining 0 0).appendLedger
        { deviceId := funder
          type := .shareKeyRefund
          amount := remaining
          timestamp := settledAt
          note := some ("share_key:" ++ keyId ++ " refunded (" ++
            reason.asStr ++ ")") }).closeContribution row.1 settledAt reason,
      state.2.1 + 1, state.2.2 + remaining)
  else
    (db.closeContribution row.1 settledAt reason, state.2)

/-- `refund_share_key_contributions_tx`: the database, the number of
contributions refunded and the credits refunded. -/
def refundShareKeyContributionsTx
    (db : Db) (keyId : KeyId) (settledAt : Timestamp) (reason : RefundReason) : Db × ℕ × ℤ :=
  (db.contributionsOf keyId fun row => row.refundedAt.isNone).foldl
    (refundContribution keyId settledAt reason) (db, 0, 0)

/-! ## Pro-rata spending -/

structure Reduction where
  contributionId : String
  amount : ℤ
  remainder : ℤ
  createdAt : Timestamp

def floorReductions (spend totalRemaining : ℤ) (contributions : List (String × ContributionRow)) :
    List Reduction :=
  contributions.map fun row =>
    let numerator := spend * row.2.remainingCredits
    { contributionId := row.1
      amount := numerator / totalRemaining
      remainder := numerator % totalRemaining
      createdAt := row.2.createdAt }

/-- Largest remainder first, then the older contribution, then the smaller
identifier. -/
def Reduction.precedes (left right : Reduction) : Prop :=
  right.remainder < left.remainder ∨
    (left.remainder = right.remainder ∧ (left.createdAt < right.createdAt ∨
        (left.createdAt = right.createdAt ∧ left.contributionId ≤ right.contributionId)))

instance (left right : Reduction) : Decidable (left.precedes right) :=
  inferInstanceAs (Decidable (_ ∨ _))

/-- The positions of the reductions in the order in which they get one of the
credits left over. -/
def leftoverOrder (reductions : List Reduction) : List ℕ :=
  (reductions.zipIdx.insertionSort fun left right =>
    left.1.precedes right.1).map Prod.snd

/-- One more credit for each position of the order until nothing is left. -/
def spreadLeftover : ℤ → List ℕ → List Reduction → List Reduction
  | _, [], reductions => reductions
  | leftover, position :: order, reductions =>
    if leftover = 0 then
      reductions
    else
      spreadLeftover (leftover - 1) order (reductions.modify position fun reduction =>
          { reduction with amount := reduction.amount + 1 })

def proRataReductions (spend : ℤ) (contributions : List (String × ContributionRow)) :
    List Reduction :=
  let totalRemaining := (contributions.map fun row =>
    row.2.remainingCredits).sum
  let reductions := floorReductions spend totalRemaining contributions
  let leftover := spend - (reductions.map Reduction.amount).sum
  if 0 < leftover then
    spreadLeftover leftover (leftoverOrder reductions) reductions
  else
    reductions

def Db.setRemaining (db : Db) (contributionId : String) (remaining : ℤ) : Db :=
  { db with contributions := db.contributions.modify contributionId fun row => { row with
        remainingCredits := max 0 remaining
        remainingNonneg := le_max_left 0 remaining } }

def applyProRataShareKeySpendTx (db : Db) (keyId : KeyId) (spend : ℤ) : Db :=
  if spend ≤ 0 then
    db
  else
    let contributions := db.contributionsOf keyId fun row =>
      0 < row.remainingCredits
    let totalRemaining := (contributions.map fun row =>
      row.2.remainingCredits).sum
    if totalRemaining ≤ 0 then
      db
    else
      (contributions.zip (proRataReductions (min spend totalRemaining) contributions)).foldl
          (fun db entry => db.setRemaining entry.1.1
            (entry.1.2.remainingCredits - entry.2.amount)) db

/-! ## Minting, topping up and closing -/

structure ShareKeyMinted where
  keyId : KeyId
  fundingId : String
  token : String
  label : Option String
  budgetCredits : ℤ
  expiresAt : Timestamp
  createdAt : Timestamp
  deriving DecidableEq, Repr

structure ShareKeyIds where
  keyId : KeyId
  fundingId : String
  token : String
  contributionId : String
  deriving DecidableEq, Repr

def Db.insertShareKey (db : Db) (keyId : KeyId) (row : ShareKeyRow) : Tx Db := do
  failIf ((db.shareKeys.find? keyId).isSome = true) (.sql (.unique "share_keys" "key_id"))
  failIf ((db.shareKeys.rows.any fun other => other.2.token = row.token) = true)
    (.sql (.unique "share_keys" "token"))
  failIf ((row.fundingId.isSome && db.shareKeys.rows.any fun other =>
      other.2.fundingId = row.fundingId) = true)
    (.sql (.unique "share_keys" "funding_id"))
  failIf (row.budgetCredits ≤ 0) (.sql (.check "share_keys" "budget_credits"))
  failIf ((db.devices.find? row.issuerDeviceId).isNone = true) (.sql (.foreignKey "share_keys"))
  pure { db with shareKeys := db.shareKeys.insertOrIgnore keyId row }

def activeShareKeys (db : Db) (issuerDeviceId : DeviceId) (now : Timestamp) : ℕ :=
  db.shareKeys.rows.countP fun row =>
    row.2.issuerDeviceId = issuerDeviceId && row.2.revokedAt.isNone && now < row.2.expiresAt

def mintShareKey (db : Db) (issuerDeviceId : DeviceId) (label : Option String)
    (expiresInSeconds budgetCredits : ℤ) (ids : ShareKeyIds)
    (now : Timestamp) : Tx (Db × ShareKeyMinted) := do
  failIf (¬ (shareKeyMinExpiresIn ≤ expiresInSeconds ∧ expiresInSeconds ≤ shareKeyMaxExpiresIn))
    (.message s!"expiresInSeconds must be between {shareKeyMinExpiresIn} and {shareKeyMaxExpiresIn}")
  failIf (¬ (shareKeyMinBudget ≤ budgetCredits ∧ budgetCredits ≤ shareKeyMaxBudget))
    (.message s!"budgetCredits must be between {shareKeyMinBudget} and {shareKeyMaxBudget}")
  let normalizedLabel := normalizedOptionalString label
  failIf ((normalizedLabel.any fun text => shareKeyMaxLabelLen < text.toList.length) = true)
    (.message s!"label must be ≤ {shareKeyMaxLabelLen} chars")
  failIf (shareKeyMaxActivePerIssuer ≤ activeShareKeys db issuerDeviceId now)
    (.message s!"too many active share keys ({shareKeyMaxActivePerIssuer} max)")
  let db := db.ensureBalance issuerDeviceId
  let issuerBalance := db.balanceOf issuerDeviceId
  failIf (issuerBalance < budgetCredits)
    (.message s!"insufficient wallet balance: have {issuerBalance}, need {budgetCredits}")
  let expiresAt := now + expiresInSeconds
  let db ← db.insertShareKey ids.keyId
    { token := ids.token
      issuerDeviceId
      label := normalizedLabel
      expiresAt
      budgetCredits
      consumedCredits := 0
      createdAt := now
      revokedAt := none
      funded := true
      fundingId := some ids.fundingId
      refundsSettledAt := none }
  -- the budget moves to the pool and is not counted as spent
  let db := (db.updateBalance issuerDeviceId (-budgetCredits) 0 0).appendLedger
    { deviceId := issuerDeviceId
      type := .shareKeyFund
      amount := -budgetCredits
      timestamp := now
      note := some ("share_key:" ++ ids.keyId ++ " funded") }
  let db ← insertShareKeyContributionTx db ids.contributionId ids.keyId
    issuerDeviceId budgetCredits budgetCredits now none none
  pure (db, ⟨ids.keyId, ids.fundingId, ids.token, normalizedLabel, budgetCredits, expiresAt, now⟩)

structure ShareKeyFundingReceipt where
  fundingId : String
  keyId : KeyId
  fundedCredits : ℤ
  budgetCredits : ℤ
  consumedCredits : ℤ
  remainingCredits : ℤ
  senderBalanceCredits : ℤ
  expiresAt : Timestamp
  deriving DecidableEq, Repr

def shareKeyByFundingId (db : Db) (fundingId : String) : Option (KeyId × ShareKeyRow) :=
  db.shareKeys.rows.find? fun row => row.2.fundingId = some fundingId

def transferToShareKey (db : Db) (senderDeviceId : DeviceId) (fundingId : String)
    (amountCredits : ℤ) (contributionId : String) (now : Timestamp) :
    Tx (Db × ShareKeyFundingReceipt) := do
  failIf (amountCredits ≤ 0) (.fund (.insufficientBalance 0 (max amountCredits 1)))
  let target ← getOr (shareKeyByFundingId db fundingId) (.fund .notFound)
  failIf (target.2.revokedAt.isSome = true) (.fund .revoked)
  failIf (target.2.expiresAt ≤ now) (.fund .expired)
  failIf (target.2.funded = false) (.fund .notMigrated)
  let db := (db.ensureDevice senderDeviceId now).ensureBalance senderDeviceId
  let senderBalance := db.balanceOf senderDeviceId
  failIf (senderBalance < amountCredits) (.fund (.insufficientBalance senderBalance amountCredits))
  let db := (db.updateBalance senderDeviceId (-amountCredits) 0 0).updateShareKey
    target.1 fun row =>
      { row with budgetCredits := row.budgetCredits + amountCredits }
  let db ← (insertShareKeyContributionTx db contributionId target.1
    senderDeviceId amountCredits amountCredits now none none).mapError fun _ =>
      .fund .notFound
  let db := db.appendLedger
    { deviceId := senderDeviceId
      type := .shareKeyFund
      amount := -amountCredits
      timestamp := now
      note := some ("share_key:" ++ target.1 ++ " funded") }
  pure (db,
    { fundingId
      keyId := target.1
      fundedCredits := amountCredits
      budgetCredits := target.2.budgetCredits + amountCredits
      consumedCredits := target.2.consumedCredits
      remainingCredits := sumShareKeyContributions db target.1
      senderBalanceCredits := senderBalance - amountCredits
      expiresAt := target.2.expiresAt })

structure ExpiredShareKeyRefundReport where
  keysClosed : ℕ := 0
  contributionsRefunded : ℕ := 0
  creditsRefunded : ℤ := 0
  deriving DecidableEq, Repr

def Db.settleRefunds (db : Db) (keyId : KeyId) (now : Timestamp) : Db :=
  db.updateShareKey keyId fun row => { row with refundsSettledAt := some now }

def refundExpiredKey (now : Timestamp) (state : Db × ExpiredShareKeyRefundReport)
    (keyId : KeyId) : Db × ExpiredShareKeyRefundReport :=
  let refunded := refundShareKeyContributionsTx state.1 keyId now .expired
  (refunded.1.settleRefunds keyId now,
    { keysClosed := state.2.keysClosed + 1
      contributionsRefunded := state.2.contributionsRefunded + refunded.2.1
      creditsRefunded := state.2.creditsRefunded + refunded.2.2 })

def expiredShareKeys (db : Db) (now : Timestamp) : List KeyId :=
  (db.shareKeys.rows.filter fun row =>
    row.2.funded && row.2.revokedAt.isNone && row.2.expiresAt ≤ now &&
      row.2.refundsSettledAt.isNone).map Prod.fst

def refundExpiredShareKeys (db : Db) (now : Timestamp) : Db × ExpiredShareKeyRefundReport :=
  (expiredShareKeys db now).foldl (refundExpiredKey now) (db, {})

/-- `revoke_share_key`: false, and nothing changed, when the issuer has no
such key or it is already revoked. -/
def revokeShareKey (db : Db) (issuerDeviceId : DeviceId) (keyId : KeyId) (now : Timestamp) :
    Db × Bool :=
  match (db.shareKeys.find? keyId).filter fun row =>
      row.issuerDeviceId = issuerDeviceId && row.revokedAt.isNone with
  | none => (db, false)
  | some row =>
    let db := db.updateShareKey keyId fun row =>
      { row with revokedAt := some now }
    if row.funded && row.refundsSettledAt.isNone then
      ((refundShareKeyContributionsTx db keyId now .revoked).1.settleRefunds keyId now, true)
    else
      (db, true)

/-! ## Bringing old keys forward -/

structure MigrationIds where
  fundingId : KeyId → String
  contributionId : KeyId → String

structure ShareKeyContributionBackfillReport where
  keysBackfilled : ℕ := 0
  fundingIdsBackfilled : ℕ := 0
  contributionsBackfilled : ℕ := 0
  deriving DecidableEq, Repr

/-- The contribution `backfill_funded_share_key_contributions` writes for a
funded key that has none. -/
def backfillContribution (db : Db) (ids : MigrationIds) (now : Timestamp) (keyId : KeyId)
    (row : ShareKeyRow) : Tx Db :=
  let remaining := max (row.budgetCredits - row.consumedCredits) 0
  let insert := insertShareKeyContributionTx db (ids.contributionId keyId)
    keyId row.issuerDeviceId (max row.budgetCredits 1)
  match row.revokedAt with
  | some revokedAt =>
    insert 0 revokedAt (some (row.refundsSettledAt.getD revokedAt)) (some .legacyRevoked)
  | none =>
    if row.expiresAt ≤ now && row.refundsSettledAt.isSome then
      insert 0 row.expiresAt row.refundsSettledAt (some .legacyExpiredRefunded)
    else
      insert remaining now none none

/-- One round of the loop of `backfill_funded_share_key_contributions`;
`hasContribution` is the count taken before the loop. -/
def backfillKey (ids : MigrationIds) (now : Timestamp)
    (state : Db × ShareKeyContributionBackfillReport) (entry : (KeyId × ShareKeyRow) × Bool) :
    Tx (Db × ShareKeyContributionBackfillReport) := do
  let keyId := entry.1.1
  let row := entry.1.2
  let db ← ensureShareKeyFundingIdTx state.1 keyId row.fundingId
    (ids.fundingId keyId)
  let fundingIdsBackfilled :=
    state.2.fundingIdsBackfilled + (if row.fundingId.isNone then 1 else 0)
  if entry.2 then
    pure (db, { state.2 with fundingIdsBackfilled })
  else
    let db ← backfillContribution db ids now keyId row
    pure (db,
      { keysBackfilled := state.2.keysBackfilled + 1
        fundingIdsBackfilled
        contributionsBackfilled := state.2.contributionsBackfilled + 1 })

/-- `backfill_funded_share_key_contributions`, which also runs when the
database is opened. -/
def backfillFundedShareKeyContributions (db : Db) (ids : MigrationIds) (now : Timestamp) :
    Tx (Db × ShareKeyContributionBackfillReport) :=
  ((db.shareKeys.rows.filter fun row => row.2.funded).map fun row =>
      (row, db.contributions.rows.any fun other => other.2.keyId = row.1)).foldlM
    (backfillKey ids now) (db, {})

structure ShareKeyMigrationReport where
  fundedFully : ℕ := 0
  fundedPartially : ℕ := 0
  skippedRevoked : ℕ := 0
  totalDebitedCredits : ℤ := 0
  totalShrunkCredits : ℤ := 0
  deriving DecidableEq, Repr

def Db.shrinkShareKey (db : Db) (keyId : KeyId) (budget : ℤ) : Tx Db := do
  failIf (budget ≤ 0) (.sql (.check "share_keys" "budget_credits"))
  pure (db.updateShareKey keyId fun row => { row with budgetCredits := budget, funded := true })

def Db.markFunded (db : Db) (keyId : KeyId) : Db :=
  db.updateShareKey keyId fun row => { row with funded := true }

/-- A key that can no longer be spent is marked funded without a debit. -/
def migrateDeadKey (db : Db) (ids : MigrationIds) (now : Timestamp) (keyId : KeyId)
    (row : ShareKeyRow) : Tx Db :=
  insertShareKeyContributionTx (db.updateShareKey keyId fun current => { current with
        funded := true
        refundsSettledAt := some (row.revokedAt.getD now) })
    (ids.contributionId keyId) keyId row.issuerDeviceId
    (max row.budgetCredits 1) 0 (row.revokedAt.getD row.expiresAt)
    (some (row.revokedAt.getD now))
    (some (if row.revokedAt.isSome then .legacyRevoked else .legacyExpired))

def debitIssuer (db : Db) (now : Timestamp) (keyId : KeyId) (issuer : DeviceId) (debit : ℤ) : Db :=
  if 0 < debit then
    (db.updateBalance issuer (-debit) 0 0).appendLedger
      { deviceId := issuer
        type := .shareKeyFund
        amount := -debit
        timestamp := now
        note := some ("share_key:" ++ keyId ++ " retroactive funding") }
  else
    db

/-- A live key with something owed: debit what the issuer can pay and shrink
the budget to it. -/
def migrateLiveKey (db : Db) (ids : MigrationIds) (now : Timestamp)
    (report : ShareKeyMigrationReport) (keyId : KeyId) (row : ShareKeyRow) :
    Tx (Db × ShareKeyMigrationReport) := do
  let issuer := row.issuerDeviceId
  let owed := max (row.budgetCredits - row.consumedCredits) 0
  let db := db.ensureBalance issuer
  let debit := min owed (max (db.balanceOf issuer) 0)
  let newBudget := row.consumedCredits + debit
  let db := debitIssuer db now keyId issuer debit
  let shrinks := newBudget < row.budgetCredits
  let db ← if shrinks then db.shrinkShareKey keyId newBudget
    else pure (db.markFunded keyId)
  let db ← insertShareKeyContributionTx db (ids.contributionId keyId) keyId
    issuer (max debit 1) debit now none none
  let totalDebitedCredits := report.totalDebitedCredits + debit
  pure (db,
    if shrinks then
      { report with
        fundedPartially := report.fundedPartially + 1
        totalShrunkCredits := report.totalShrunkCredits + (row.budgetCredits - newBudget)
        totalDebitedCredits }
    else
      { report with
        fundedFully := report.fundedFully + 1
        totalDebitedCredits })

def migrateKey (ids : MigrationIds) (now : Timestamp) (state : Db × ShareKeyMigrationReport)
    (entry : KeyId × ShareKeyRow) : Tx (Db × ShareKeyMigrationReport) := do
  let keyId := entry.1
  let row := entry.2
  let db ← ensureShareKeyFundingIdTx state.1 keyId row.fundingId
    (ids.fundingId keyId)
  if row.revokedAt.isSome || row.expiresAt ≤ now then
    let db ← migrateDeadKey db ids now keyId row
    pure (db, { state.2 with skippedRevoked := state.2.skippedRevoked + 1 })
  else if max (row.budgetCredits - row.consumedCredits) 0 = 0 then
    let db ← insertShareKeyContributionTx (db.markFunded keyId)
      (ids.contributionId keyId) keyId row.issuerDeviceId
      (max row.budgetCredits 1) 0 now none none
    pure (db, { state.2 with fundedFully := state.2.fundedFully + 1 })
  else
    migrateLiveKey db ids now state.2 keyId row

def migrateUnfundedShareKeys (db : Db) (ids : MigrationIds) (now : Timestamp) :
    Tx (Db × ShareKeyMigrationReport) :=
  (db.shareKeys.rows.filter fun row => !row.2.funded).foldlM (migrateKey ids now) (db, {})

end Teale.Gateway
