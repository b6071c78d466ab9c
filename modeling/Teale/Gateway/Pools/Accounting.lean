import Teale.Gateway.Pools.Migration

/-!
# The credits of share keys

The pool of a live key is what it has left to spend, and the pool of a closed key is empty for
good.
-/

namespace Teale.Gateway

open Relational Transactional Bookkeeping List Option Db ContributionRow

variable {call : Call} {db db' : Db} {keyId : KeyId} {row : ContributionRow}
  {calls : List Call}

/-! ## Calls on share keys -/

def Call.paysFrom : Call → Option KeyId
  | .settleRequest consumer .. | .settleProviderRequest consumer .. => consumer.keyId
  | _ => none

def Call.closesKeys : Call → Bool
  | .revokeShareKey .. | .refundExpiredShareKeys .. => true
  | _ => false

theorem Call.paysFrom_of_closesKeys (closes : call.closesKeys = true) : call.paysFrom = none := by
  cases call with
  | revokeShareKey | refundExpiredShareKeys => rfl
  | _ => simp [Call.closesKeys] at closes

def Call.contributes : Call → Bool
  | .mintShareKey .. | .transferToShareKey .. => true
  | _ => false

def Call.fundsSettled (db : Db) : Call → Bool
  | .transferToShareKey _ fundingId _ _ now => fundsSettledKey db fundingId now
  | _ => false

theorem execute_pools (sound : PoolsSound db) (keeps : call ≠ .resetGenesis)
    (unsettled : call.fundsSettled db = false) (ran : execute sha256 db call = .ok db') :
    KeepsPools call.paysFrom call.closesKeys db db' := by
  have framed := execute_within ran
  cases call with
  | resetGenesis => exact absurd rfl keeps
  | mintShareKey =>
    exact of_map_eq_ok ran (mintShareKey_pools sound)
  | transferToShareKey =>
    exact of_map_eq_ok ran (transferToShareKey_pools sound unsettled)
  | revokeShareKey issuer keyId now =>
    cases ran
    exact revokeShareKey_pools sound issuer keyId now
  | refundExpiredShareKeys now =>
    cases ran
    exact refundExpiredShareKeys_pools sound now
  | backfillFundedShareKeyContributions =>
    exact of_map_eq_ok ran (backfillFundedShareKeyContributions_pools sound)
  | migrateUnfundedShareKeys =>
    exact of_map_eq_ok ran (migrateUnfundedShareKeys_pools sound)
  | settleRequest => exact settleRequest_pools sound ran
  | settleProviderRequest => exact settleProviderRequest_pools sound ran
  | _ =>
    exact .of_eq sound (framed.read poolTables fun _ => rfl)

theorem poolsSound_empty : PoolsSound Db.empty where
  each keyId := .absent rfl rfl rfl
  refundedEmpty := by
    intro contributionId row found
    simp [empty] at found

theorem commit_pools (sha256 : String → String) (sound : PoolsSound db)
    (keeps : call ≠ .resetGenesis) (unsettled : call.fundsSettled db = false) :
    KeepsPools call.paysFrom call.closesKeys db (commit (execute sha256) db call) := by
  refine commit_cases (.of_eq sound rfl) fun db' ran => ?_
  exact execute_pools sound keeps unsettled ran

/-! ## Refunds reach the funder -/

def Db.contributedBy (db : Db) (deviceId : DeviceId) : ℤ := db.contributions.sum fun _ row =>
    if row.funderDeviceId = deviceId then row.remainingCredits else 0

theorem refundContribution_funder (settledAt : Timestamp) (reason : RefundReason)
    {state : Db × ℕ × ℤ} {row : String × ContributionRow}
    (found : state.1.contributions.find? row.1 = some row.2)
    (sameKey : row.2.keyId = keyId) (deviceId : DeviceId) :
    let db' := (refundContribution keyId settledAt reason state row).1
    db'.balanceOf deviceId + db'.contributedBy deviceId =
      state.1.balanceOf deviceId + state.1.contributedBy deviceId := by
  have wallet := congrArg (fun books => books (.wallet (.device deviceId)))
    (books_refundContribution settledAt reason found sameKey)
  simp only [books_device, Finsupp.add_apply, Entry.journal, Wallet.credit,
    post_cons, post_nil, Finsupp.single_apply, reduceCtorEq, if_false, zero_add,
    Book.wallet.injEq, Wallet.device.injEq, add_zero] at wallet
  simp only [contributedBy, contributions_refundContribution,
    Table.sum_modify _ _ _ found, wallet, close]
  split <;> omega

theorem refundShareKeyContributionsTx_funder
    (db : Db) (keyId : KeyId) (settledAt : Timestamp) (reason : RefundReason)
    (deviceId : DeviceId) :
    let db' := (refundShareKeyContributionsTx db keyId settledAt reason).1
    db'.balanceOf deviceId + db'.contributedBy deviceId =
      db.balanceOf deviceId + db.contributedBy deviceId := by
  refine refundShareKeyContributionsTx_rounds
    (motive := fun _ db db' => db'.balanceOf deviceId + db'.contributedBy deviceId =
      db.balanceOf deviceId + db.contributedBy deviceId)
    db keyId settledAt reason (fun _ => rfl) ?_
  intro head tail state db' found sameKey rest
  exact rest.trans (refundContribution_funder settledAt reason found sameKey deviceId)

theorem execute_refunds (closes : call.closesKeys = true)
    (ran : execute sha256 db call = .ok db') (deviceId : DeviceId) :
    db'.balanceOf deviceId + db'.contributedBy deviceId =
      db.balanceOf deviceId + db.contributedBy deviceId := by
  cases call with
  | revokeShareKey issuer keyId now =>
    cases ran
    rcases revokeShareKey_cases db issuer keyId now with unchanged |
      ⟨row, -, ⟨-, -, result⟩ | ⟨-, result⟩⟩
    · rw [unchanged]
    · rw [result]
      exact refundShareKeyContributionsTx_funder (db.markRevoked keyId now)
        keyId now .revoked deviceId
    · rw [result]
      rfl
  | refundExpiredShareKeys now =>
    cases ran
    refine foldl_preserves (fun state : Db × ExpiredShareKeyRefundReport =>
        state.1.balanceOf deviceId + state.1.contributedBy deviceId =
          db.balanceOf deviceId + db.contributedBy deviceId) ?_ rfl
    intro state keyId _ kept
    rw [← kept]
    exact refundShareKeyContributionsTx_funder state.1 keyId now .expired deviceId
  | _ => simp [Call.closesKeys] at closes

/-! ## What becomes of a contribution -/

def Db.remainingOf (db : Db) (contributionId : String) : ℤ :=
  ((db.contributions.find? contributionId).map remainingCredits).getD 0

/-- The calls of a run that change what is left of a contribution, with what
they take out of it. -/
def contributionEvents (sha256 : String → String) (contributionId : String) :
    Db → List Call → List (Call × ℤ)
  | _, [] => []
  | db, call :: calls =>
    let db' := commit (execute sha256) db call
    let taken := db.remainingOf contributionId - db'.remainingOf contributionId
    (if taken = 0 then [] else [(call, taken)]) ++
      contributionEvents sha256 contributionId db' calls

theorem remainingOf_eq_sum_contributionEvents
    (sha256 : String → String) (contributionId : String) (db : Db) (calls : List Call) :
    db.remainingOf contributionId = (runCalls sha256 db calls).remainingOf contributionId +
        ((contributionEvents sha256 contributionId db calls).map Prod.snd).sum := by
  induction calls generalizing db with
  | nil => simp [contributionEvents, runCalls]
  | cons call rest ih =>
    have later := ih (commit (execute sha256) db call)
    have runRest : runCalls sha256 db (call :: rest) =
        runCalls sha256 (commit (execute sha256) db call) rest := rfl
    simp only [contributionEvents, runRest]
    split
    case isTrue same =>
      rw [nil_append]
      omega
    case isFalse =>
      rw [cons_append, nil_append, map_cons, sum_cons]
      omega

def Unsettled (sha256 : String → String) (db : Db) (calls : List Call) : Prop :=
  Admissible (fun db call => call.fundsSettled db = false) (commit (execute sha256)) db calls

section Events

variable {sha256 : String → String} {contributionId : String}

/-- Whatever is taken from a contribution is spent or refunded, and it is
refunded once. -/
theorem contributionEvents_sources (sound : PoolsSound db)
    (keeps : ∀ call ∈ calls, call ≠ .resetGenesis) (unsettled : Unsettled sha256 db calls)
    (found : db.contributions.find? contributionId = some row) :
    let events := contributionEvents sha256 contributionId db calls
    (∀ event ∈ events,
        0 < event.2 ∧ (event.1.paysFrom = some row.keyId ∨ event.1.closesKeys = true)) ∧
      (events.filter fun event => event.1.closesKeys).length ≤ 1 ∧
      (row.refundedAt.isSome = true → events = []) := by
  induction calls generalizing db row with
  | nil => simp [contributionEvents]
  | cons call rest ih =>
    have kept := commit_pools sha256 sound (keeps call mem_cons_self) unsettled.1
    obtain ⟨later, foundLater, change⟩ := kept.change.kept _ _ found
    obtain ⟨sources, once, closed⟩ := ih kept.sound
      (forall_mem_cons.mp keeps).2 unsettled.2 foundLater
    have empty := sound.refundedEmpty _ _ found
    have taken : db.remainingOf contributionId - (commit (execute sha256) db
        call).remainingOf contributionId = row.remainingCredits - later.remainingCredits := by
      simp [remainingOf, found, foundLater]
    simp only [contributionEvents, taken]
    cases change with
    | same =>
      rw [sub_self, if_pos rfl]
      exact ⟨sources, once, closed⟩
    | spent pays nonneg covered =>
      -- a settlement closes nothing
      have stays : call.closesKeys = false := by
        by_contra closes
        rw [Call.paysFrom_of_closesKeys (by simpa using closes)] at pays
        cases pays
      split
      · exact ⟨sources, once, closed⟩
      case isFalse changed =>
        simp only [withRemaining] at changed ⊢
        refine ⟨forall_mem_cons.mpr ⟨⟨by omega, .inl pays⟩, sources⟩,
          by simpa [stays] using once, ?_⟩
        intro refunded
        have := empty refunded
        omega
    | refunded closing isOpen =>
      rw [closed rfl]
      have := row.remainingNonneg
      by_cases none : row.remainingCredits = 0
      · simp [close, none]
      · simp [close, none, closing, isOpen]
        omega

end Events

/-! ## New contributions -/

theorem insertShareKeyContributionTx_whole {contributionId other : String}
    {funder : DeviceId} {amount : ℤ} {createdAt : Timestamp} (nonneg : 0 ≤ amount)
    (ran : insertShareKeyContributionTx db contributionId keyId funder
      amount amount createdAt none none = .ok db') (fresh : db.contributions.find? other = none)
    (stored : db'.contributions.find? other = some row) :
    row.remainingCredits = row.fundedCredits := by
  obtain ⟨absent, inserted, -, -, funded, remaining, -, rfl⟩ := insertShareKeyContributionTx_ok ran
  rw [Table.find?_insertOrIgnore, absent, getD_none] at stored
  split at stored
  · rw [← some.inj stored, funded, remaining, max_eq_right nonneg]
  · cases fresh.symm.trans stored

theorem execute_contributes
    (contributes : call.contributes = true) (ran : execute sha256 db call = .ok db')
    (fresh : db.contributions.find? contributionId = none)
    (stored : db'.contributions.find? contributionId = some row) :
    row.remainingCredits = row.fundedCredits := by
  cases call with
  | mintShareKey =>
    obtain ⟨_, called, rfl⟩ := map_eq_ok.mp ran
    simp only [mintShareKey, ok_iff, not_not] at called
    obtain ⟨-, budgetRange, -, -, -, keyed, insertKey, funded, insertContribution, rfl⟩ := called
    have sameContributions := (insertShareKey_pools insertKey).2.2
    refine insertShareKeyContributionTx_whole ?_ insertContribution ?_ stored
    · have := budgetRange.1
      simp only [shareKeyMinBudget] at this
      omega
    · exact (congrArg (fun table => table.find? contributionId) sameContributions).trans fresh
  | transferToShareKey =>
    obtain ⟨_, called, rfl⟩ := map_eq_ok.mp ran
    simp only [transferToShareKey, ok_iff, mapError_eq_ok]
      at called
    obtain ⟨positive, _, -, -, -, -, -, funded, insert, rfl⟩ := called
    exact insertShareKeyContributionTx_whole (by omega) insert fresh stored
  | _ => simp [Call.contributes] at contributes

/-! ## The pools over a run -/

/-- What is known about share keys, their pools and their contributions after a
run. -/
structure PoolsSettled
    (sha256 : String → String) (start : Db) (calls : List Call) : Prop where
  /-- The pool of a live key is what the key has left to spend. -/
  live : ∀ keyId row, (runCalls sha256 start calls).shareKeys.find? keyId = some row →
    row.funded = true → row.revokedAt = none → row.refundsSettledAt = none →
    sumShareKeyContributions (runCalls sha256 start calls) keyId =
        row.budgetCredits - row.consumedCredits ∧
      0 ≤ sumShareKeyContributions (runCalls sha256 start calls) keyId
  /-- The pool of a key that was closed before is empty. -/
  closed : ∀ keyId row, start.shareKeys.find? keyId = some row → row.funded = true →
    row.revokedAt.isSome = true ∨ row.refundsSettledAt.isSome = true →
    sumShareKeyContributions (runCalls sha256 start calls) keyId = 0
  /-- A contribution made from a wallet starts with all its credits. -/
  whole : ∀ call contributionId row, call.contributes = true →
    (runCalls sha256 start calls).contributions.find? contributionId = none →
    (commit (execute sha256) (runCalls sha256 start calls)
      call).contributions.find? contributionId = some row →
    row.remainingCredits = row.fundedCredits
  /-- Every credit of a contribution is left, or was taken out by a settlement
  its key paid for, or by the one call that gave the contribution back. -/
  accounted : ∀ contributionId row, start.contributions.find? contributionId = some row →
    row.remainingCredits = (runCalls sha256 start calls).remainingOf contributionId +
          ((contributionEvents sha256 contributionId start calls).map Prod.snd).sum ∧
      (∀ event ∈ contributionEvents sha256 contributionId start calls,
        0 < event.2 ∧ (event.1.paysFrom = some row.keyId ∨ event.1.closesKeys = true)) ∧
      ((contributionEvents sha256 contributionId start calls).filter
        fun event => event.1.closesKeys).length ≤ 1
  /-- What a settlement takes out of the pool of its key is what the key is
  charged. -/
  consumed : ∀ call keyId row, call.paysFrom = some keyId →
    (runCalls sha256 start calls).shareKeys.find? keyId = some row →
    row.funded = true →
    ∃ later, (commit (execute sha256) (runCalls sha256 start calls)
        call).shareKeys.find? keyId = some later ∧
      row.consumedCredits ≤ later.consumedCredits ∧
      sumShareKeyContributions (commit (execute sha256) (runCalls sha256 start calls) call) keyId =
        sumShareKeyContributions (runCalls sha256 start calls) keyId -
          (later.consumedCredits - row.consumedCredits)
  /-- What a closing call takes out of the contributions of a device goes to
  the wallet of the device. -/
  refunded : ∀ call deviceId, call.closesKeys = true →
    (commit (execute sha256) (runCalls sha256 start calls) call).balanceOf deviceId +
      (commit (execute sha256) (runCalls sha256 start calls) call).contributedBy deviceId =
    (runCalls sha256 start calls).balanceOf deviceId +
      (runCalls sha256 start calls).contributedBy deviceId

section

variable (sound : PoolsSound db)

include sound

theorem runCalls_poolsSound (unsettled : Unsettled sha256 db calls) :
    PoolsSound (runCalls sha256 db calls) := by
  refine run_commit_invariant PoolsSound ?_ sound unsettled
  intro state call state' isUnsettled before ran
  by_cases resets : call = .resetGenesis
  · subst resets
    cases execute_resetGenesis ran
    exact poolsSound_empty.of_eq rfl
  · exact (execute_pools before resets isUnsettled ran).sound

theorem runCalls_key {key : KeyState}
    (keeps : ∀ call ∈ calls, call ≠ .resetGenesis) (unsettled : Unsettled sha256 db calls)
    (isKey : (db.poolView keyId).key = some key) :
    ∃ later, ((runCalls sha256 db calls).poolView keyId).key = some later ∧ key.Becomes later := by
  induction calls generalizing db key with
  | nil => exact ⟨key, isKey, .refl key⟩
  | cons call rest ih =>
    have kept := commit_pools sha256 sound (keeps call mem_cons_self) unsettled.1
    obtain ⟨middle, isMiddle, first⟩ := kept.keys keyId key isKey
    obtain ⟨later, isLater, second⟩ := ih kept.sound
      (forall_mem_cons.mp keeps).2
      unsettled.2 isMiddle
    exact ⟨later, isLater, first.trans second⟩

theorem PoolsSound.left_of_live {row : ShareKeyRow}
    (found : db.shareKeys.find? keyId = some row) (isFunded : row.funded = true)
    (notRevoked : row.revokedAt = none) (notSettled : row.refundsSettledAt = none) :
    sumShareKeyContributions db keyId = row.budgetCredits - row.consumedCredits := by
  rcases (sound.of_funded found isFunded).2 with ⟨-, -, left⟩ | ⟨isClosed, -⟩
  · exact left
  · simp [ShareKeyRow.state, notRevoked, notSettled] at isClosed

theorem PoolsSound.left_of_closed {key : KeyState} (isKey : (db.poolView keyId).key = some key)
    (isClosed : key.revoked = true ∨ key.settled = true) :
    sumShareKeyContributions db keyId = 0 := by
  cases sound.each keyId with
  | absent _ empty | unfunded _ _ _ _ empty | closed _ _ _ empty => exact empty
  | live isSame _ notRevoked notSettled =>
    cases isKey.symm.trans isSame
    simp [notRevoked, notSettled] at isClosed

end

/-- In every run from an old database that has been opened, as long as no
top-up names an unexpired key whose refunds are settled. -/
theorem poolsSettled_runCalls (sha256 : String → String) {legacy : Db} {ids : MigrationIds}
    {now : Timestamp} {opened : Db × ShareKeyContributionBackfillReport}
    (old : LegacyKeys legacy now)
    (opening : backfillFundedShareKeyContributions legacy ids now = .ok opened)
    (history calls : List Call) (keeps : ∀ call ∈ calls, call ≠ .resetGenesis)
    (unsettled : Unsettled sha256 opened.1 (history ++ calls)) :
    PoolsSettled sha256 (runCalls sha256 opened.1 history) calls := by
  obtain ⟨early, late⟩ := admissible_append.mp unsettled
  have start : PoolsSound (runCalls sha256 opened.1 history) :=
    runCalls_poolsSound (poolsSound_of_legacy old opening) early
  have final : PoolsSound (runCalls sha256 (runCalls sha256 opened.1 history)
      calls) := runCalls_poolsSound start late
  refine
    { live := fun keyId row found isFunded notRevoked notSettled =>
        ⟨final.left_of_live found isFunded notRevoked notSettled,
          sumShareKeyContributions_nonneg _ keyId⟩
      closed := ?_
      whole := ?_
      accounted := ?_
      consumed := ?_
      refunded := ?_ }
  · intro keyId row found _ isClosed
    obtain ⟨later, isLater, becomes⟩ := runCalls_key start keeps late (poolView_key_of_find? found)
    exact final.left_of_closed isLater (isClosed.imp becomes.revoked becomes.settled)
  · intro call contributionId row contributes fresh
    refine commit_cases (fun stored => ?_) fun db' ran => execute_contributes contributes ran fresh
    cases fresh.symm.trans stored
  · intro contributionId row found
    obtain ⟨sources, once, -⟩ := contributionEvents_sources start keeps late found
    refine ⟨?_, sources, once⟩
    rw [← remainingOf_eq_sum_contributionEvents]
    simp [remainingOf, found]
  · intro call keyId row pays found isFunded
    have keepsOne : call ≠ .resetGenesis := by
      rintro rfl
      simp [Call.paysFrom] at pays
    have unsettledOne : ∀ db, call.fundsSettled db = false := by
      intro db
      cases call with
      | transferToShareKey => simp [Call.paysFrom] at pays
      | _ => rfl
    have kept := commit_pools sha256 final keepsOne (unsettledOne _)
    obtain ⟨amount, nonneg, isKey, left⟩ := kept.paid keyId row.state pays
      (poolView_key_of_find? found) isFunded
    obtain ⟨later, foundLater, isState⟩ := map_eq_some_iff.mp isKey
    have charged : later.consumedCredits = row.consumedCredits + amount :=
      congrArg KeyState.consumed isState
    refine ⟨later, foundLater, by omega, ?_⟩
    exact left.trans (by rw [charged, add_sub_cancel_left]; rfl)
  · intro call deviceId closes
    exact commit_cases rfl fun db' ran => execute_refunds closes ran deviceId

/-- A database with one key from before keys were pre-funded and one from
before contributions were kept. -/
def oldKeys : Db := { Db.empty with
    devices := (∅ : Table DeviceId DeviceRow).insertOrIgnore "alice" ⟨0, 0⟩
    balances := (∅ : Table DeviceId BalanceRow).insertOrIgnore "alice"
      { balance := 500 }
    shareKeys := ((∅ : Table KeyId ShareKeyRow).insertOrIgnore "old"
      { token := "t0"
        issuerDeviceId := "alice"
        label := none
        expiresAt := 1000
        budgetCredits := 300
        consumedCredits := 50
        createdAt := 0
        revokedAt := none
        funded := false
        fundingId := none
        refundsSettledAt := none }).insertOrIgnore "funded"
      { token := "t1"
        issuerDeviceId := "alice"
        label := none
        expiresAt := 20
        budgetCredits := 100
        consumedCredits := 30
        createdAt := 0
        revokedAt := none
        funded := true
        fundingId := none
        refundsSettledAt := none } }

def oldIds : MigrationIds := ⟨fun keyId => "f-" ++ keyId, fun keyId => "c-" ++ keyId⟩

def openedKeys : Db × ShareKeyContributionBackfillReport :=
  match backfillFundedShareKeyContributions oldKeys oldIds 1 with
  | .ok opened => opened
  | .error _ => (oldKeys, {})

/-- Two old keys and a new one are migrated, topped up, spent, revoked and
expired. -/
theorem poolsSettled_old_and_new : PoolsSettled id
      (runCalls id openedKeys.1 [.migrateUnfundedShareKeys oldIds 2,
          .mintShareKey "alice" none 60 100 ⟨"k", "f", "t", "c"⟩ 3,
          .transferToShareKey "alice" "f" 50 "d" 4])
      [.settleRequest (.share "alice" "k") (some "bob") [] 70 "r" "m" 5,
        .refundExpiredShareKeys 20, .revokeShareKey "alice" "k" 21] := by
  have old : LegacyKeys oldKeys 1 := ⟨rfl, by decide, by decide, by decide⟩
  have opening : backfillFundedShareKeyContributions oldKeys oldIds 1 = .ok openedKeys := rfl
  refine poolsSettled_runCalls id old opening _ _ (by simp) ?_
  simp only [Unsettled, cons_append, nil_append, Admissible]
  decide

/-- A key of 300 credits that expires at 60, and is closed at 100. -/
def expiredKeyRun : List Call := [.upsertDevice "alice" 0, .recordBonus "alice" 500 0,
    .mintShareKey "alice" none 60 300 ⟨"k", "f", "t", "c"⟩ 0,
    .refundExpiredShareKeys 100]

/-- The clock is put back after the refunds of an expired key have been
settled: a top-up is accepted, and the closed key has credits again. -/
theorem not_poolsSettled_clock_back : ¬ PoolsSettled id (runCalls id Db.empty expiredKeyRun)
      [.transferToShareKey "alice" "f" 50 "d" 50] := by
  intro settled
  have key : ((runCalls id Db.empty expiredKeyRun).shareKeys.find? "k").map
      ShareKeyRow.state = some ⟨true, false, true, 300, 0⟩ := by
    decide
  obtain ⟨row, found, isState⟩ := map_eq_some_iff.mp key
  have isFunded : row.funded = true := congrArg KeyState.funded isState
  have isSettled : row.refundsSettledAt.isSome = true := congrArg KeyState.settled isState
  have empty := settled.closed "k" row found isFunded (.inr isSettled)
  have funded : sumShareKeyContributions (runCalls id (runCalls id Db.empty expiredKeyRun)
        [.transferToShareKey "alice" "f" 50 "d" 50]) "k" = 50 := by
    decide
  cases funded.symm.trans empty

end Teale.Gateway
