import Teale.Gateway.NonNegative
import Teale.Gateway.Rederivation

/-!
# The availability drip

A tick credits wallets at once and writes the ledger row only when a session ends. What a device
received is what its session rows and its open session say; what all devices received is what left
the mint pool.
-/

namespace Teale.Gateway

open Relational Transactional Bookkeeping List Db Entry

variable {db start : Db} {recipients : List DripRecipient} {entry : Entry} {tick : Tick}

/-! ## Ticks -/

structure Tick where
  recipients : List DripRecipient
  now : Timestamp

def Tick.step (db : Db) (tick : Tick) : Db :=
  (reconcileAvailabilitySessions db tick.recipients tick.now).1

def Tick.Nonneg (tick : Tick) : Prop := ∀ recipient ∈ tick.recipients, 0 ≤ recipient.credits

instance (tick : Tick) : Decidable tick.Nonneg :=
  inferInstanceAs (Decidable (∀ recipient ∈ tick.recipients, _))

def Tick.credits (db : Db) (tick : Tick) (deviceId : DeviceId) : ℤ :=
  if dripSkipped db tick.recipients then 0
  else (tick.recipients.map fun recipient =>
    if recipient.deviceId = deviceId then recipient.credits else 0).sum

def drippedTo (deviceId : DeviceId) : Db → List Tick → ℤ
  | _, [] => 0
  | db, tick :: ticks => tick.credits db deviceId + drippedTo deviceId (tick.step db) ticks

theorem Tick.step_of_skipped (tick : Tick) (skipped : dripSkipped db tick.recipients) :
    tick.step db = (finalizeEndedSessions db tick.recipients tick.now).1 := by
  have same := mintPool_finalizeEndedSessions db tick.recipients tick.now
  unfold dripSkipped at skipped
  simp only [Tick.step, reconcileAvailabilitySessions, same, if_pos skipped]

theorem Tick.step_of_payable (tick : Tick) (payable : ¬ dripSkipped db tick.recipients) :
    let ended := (finalizeEndedSessions db tick.recipients tick.now).1
    tick.step db = tick.recipients.foldl (creditRecipientDrip tick.now) { ended with mintPool :=
        { ended.mintPool with
          remaining :=
            ended.mintPool.remaining - dripTotal tick.recipients } } := by
  have same := mintPool_finalizeEndedSessions db tick.recipients tick.now
  unfold dripSkipped at payable
  simp only [Tick.step, reconcileAvailabilitySessions, same, if_neg payable]

def totalBalances (db : Db) : ℤ := db.balances.sum fun _ row => row.balance

def sessionRowSum (db : Db) (deviceId : DeviceId) : ℤ := db.ledger.sum fun row =>
    if row.deviceId = deviceId ∧ row.type = .availabilitySession then row.amount
    else 0

/-- What is recorded of the drip of a device: its session rows and its open
session. -/
def recordedDrip (db : Db) (deviceId : DeviceId) : ℤ :=
  sessionRowSum db deviceId + accruedOf db deviceId

/-! ## The rows of a tick -/

def otherRowSum (db : Db) (deviceId : DeviceId) : ℤ := db.ledger.sum fun row =>
    if row.deviceId = deviceId ∧ row.type ≠ .availabilitySession then row.amount
    else 0

theorem ledgerSum_eq (db : Db) (deviceId : DeviceId) : ledgerSum db deviceId =
      sessionRowSum db deviceId + otherRowSum db deviceId := by
  rw [ledgerSum, sessionRowSum, otherRowSum, ← Log.sum_add]
  refine congrArg db.ledger.sum (funext fun row => ?_)
  by_cases same : row.deviceId = deviceId <;>
    by_cases session : row.type = .availabilitySession <;> simp [same, session]

theorem otherRowSum_step (db : Db) (tick : Tick) (deviceId : DeviceId) :
    otherRowSum (tick.step db) deviceId = otherRowSum db deviceId := by
  have ended : otherRowSum (finalizeEndedSessions db tick.recipients tick.now).1 deviceId =
        otherRowSum db deviceId := by
    refine foldl_preserves (fun state : Db => otherRowSum state deviceId = otherRowSum db deviceId)
      ?_ rfl
    intro state session _ same
    rw [← same]
    unfold finalizeAvailabilitySession
    split
    · simp [otherRowSum, appendLedger]
    · rfl
  by_cases skipped : dripSkipped db tick.recipients
  · rw [tick.step_of_skipped skipped, ended]
  · rw [tick.step_of_payable skipped]
    refine foldl_preserves (fun state : Db => otherRowSum state deviceId = otherRowSum db deviceId)
      ?_ ended
    intro state recipient _ same
    refine Eq.trans ?_ same
    unfold creditRecipientDrip accrueSession
    dsimp only
    split <;> rfl

/-! ## Readings of the books -/

def deviceWeight : Book → ℤ
  | .wallet (.device _) => 1
  | _ => 0

theorem weigh_deviceWeight (db : Db) : weigh deviceWeight (books db) = totalBalances db := by
  simp [weigh_books, totalBalances, deviceWeight]

def walletWeight (deviceId : DeviceId) : Book → ℤ
  | .wallet (.device other) => if other = deviceId then 1 else 0
  | _ => 0

theorem weigh_walletWeight (db : Db) (deviceId : DeviceId) :
    weigh (walletWeight deviceId) (books db) = db.balanceOf deviceId := by
  rw [balanceOf, ← Table.sum_ite_key]
  simp [weigh_books, walletWeight]

/-! ## One tick -/

theorem endedSessions_entry (balances : BalancesNonneg (books db))
    (listed : entry ∈ (endedSessions db recipients).map sessionEntry) :
    ∃ deviceId amount, entry = .endSession deviceId amount := by
  obtain ⟨session, member, rfl⟩ := mem_map.mp listed
  have found : db.availabilitySessions.find? session.1 = some session.2 :=
    Table.mem_rows_iff_find?.mp (mem_of_mem_filter member)
  have accrued : 0 ≤ session.2.accruedCredits := by
    have nonneg := balances (.session session.1) trivial
    rwa [books_session, found] at nonneg
  exact ⟨session.1, session.2.accruedCredits, if_pos accrued⟩

theorem tickEntries_cases (balances : BalancesNonneg (books db))
    (listed : entry ∈ tickEntries db recipients) :
    (∃ deviceId amount, entry = .endSession deviceId amount) ∨
      ∃ deviceId amount, entry = .drip deviceId amount := by
  rcases mem_append.mp listed with ended | dripped
  · exact .inl (endedSessions_entry balances ended)
  · split at dripped
    · simp at dripped
    · obtain ⟨recipient, -, rfl⟩ := mem_map.mp dripped
      exact .inr ⟨_, _, rfl⟩

theorem weigh_step (tick : Tick) (weight : Book → ℤ) (balances : BalancesNonneg (books db))
    (unseen : ∀ deviceId amount, (endSession deviceId amount).journal.total weight = 0) :
    weigh weight (books (tick.step db)) = weigh weight (books db) +
      if dripSkipped db tick.recipients then 0
      else (tick.recipients.map fun recipient =>
        (drip recipient.deviceId recipient.credits).journal.total weight).sum := by
  have posted := reconcileAvailabilitySessions_posts db tick.recipients tick.now
  have ended : (((endedSessions db tick.recipients).map sessionEntry).map
      fun entry => entry.journal.total weight).sum = 0 := by
    refine sum_eq_zero ?_
    simp only [mem_map (f := fun entry : Entry =>
      entry.journal.total weight), forall_exists_index, and_imp]
    rintro _ entry listed rfl
    obtain ⟨deviceId, amount, rfl⟩ := endedSessions_entry balances listed
    exact unseen deviceId amount
  have read := posted.weigh_eq weight
  simp only [rules, tickEntries, map_append, sum_append] at read
  rw [ended, zero_add] at read
  refine read.trans (congrArg (_ + ·) ?_)
  split
  · rfl
  · rw [map_map]
    rfl

theorem balanceOf_step (tick : Tick) (balances : BalancesNonneg (books db))
    (deviceId : DeviceId) : (tick.step db).balanceOf deviceId =
      db.balanceOf deviceId + tick.credits db deviceId := by
  have read := weigh_step tick (walletWeight deviceId) balances
    (by simp [journal, walletWeight])
  rw [weigh_walletWeight, weigh_walletWeight] at read
  rw [read, Tick.credits]
  simp [journal, walletWeight]

theorem totalBalances_step (tick : Tick) (balances : BalancesNonneg (books db)) :
    totalBalances (tick.step db) = totalBalances db +
      if dripSkipped db tick.recipients then 0
      else (tick.recipients.map DripRecipient.credits).sum := by
  have read := weigh_step tick deviceWeight balances (by simp [journal, deviceWeight])
  rw [weigh_deviceWeight, weigh_deviceWeight] at read
  rw [read]
  simp [journal, deviceWeight]

theorem recordedDrip_step (tick : Tick) (balances : BalancesNonneg (books db))
    (deviceId : DeviceId) : recordedDrip (tick.step db) deviceId =
      recordedDrip db deviceId + tick.credits db deviceId := by
  have posted := reconcileAvailabilitySessions_posts db tick.recipients tick.now
  have kept := posted.weigh_unchanged (deviceDrift deviceId) (by
    intro entry listed
    rcases tickEntries_cases balances listed with
      ⟨device, amount, rfl⟩ | ⟨device, amount, rfl⟩
    · exact total_deviceDrift deviceId (.endSession device amount) (by simp) (by simp)
    · exact total_deviceDrift deviceId (.drip device amount) (by simp) (by simp))
  change weigh _ (books (tick.step db)) = _ at kept
  simp only [weigh_deviceDrift, books_device, books_deviceRows, books_session] at kept
  change _ - ledgerSum _ _ - accruedOf _ _ = _ - ledgerSum _ _ - accruedOf _ _ at kept
  rw [ledgerSum_eq, ledgerSum_eq, otherRowSum_step, balanceOf_step tick balances] at kept
  unfold recordedDrip
  omega

theorem mintPool_step (db : Db) (tick : Tick) :
    (tick.step db).mintPool.remaining = db.mintPool.remaining -
      if dripSkipped db tick.recipients then 0
      else dripTotal tick.recipients := by
  have same := mintPool_finalizeEndedSessions db tick.recipients tick.now
  by_cases skipped : dripSkipped db tick.recipients
  · rw [tick.step_of_skipped skipped, same, if_pos skipped, sub_zero]
  · rw [tick.step_of_payable skipped, if_neg skipped, ← same]
    refine foldl_preserves (fun state : Db => state.mintPool.remaining = _) ?_ (Eq.refl _)
    intro state recipient _ kept
    refine Eq.trans ?_ kept
    unfold creditRecipientDrip accrueSession
    dsimp only
    split <;> rfl

theorem dripTotal_of_nonneg (nonneg : tick.Nonneg) : dripTotal tick.recipients =
      (tick.recipients.map DripRecipient.credits).sum := by
  refine congrArg sum (map_congr_left ?_)
  intro recipient listed
  exact max_eq_left (nonneg recipient listed)

theorem balances_step_of_skipped (skipped : dripSkipped db tick.recipients) :
    (tick.step db).balances = db.balances := by
  rw [tick.step_of_skipped skipped]
  refine foldl_preserves (fun state : Db => state.balances = db.balances) ?_ rfl
  intro state session _ kept
  refine Eq.trans ?_ kept
  unfold finalizeAvailabilitySession
  split <;> rfl

/-! ## Runs of ticks -/

theorem nonneg_step (nonneg : tick.Nonneg) (before : BalancesNonneg (books db) ∧ PoolNonneg db) :
    BalancesNonneg (books (tick.step db)) ∧ PoolNonneg (tick.step db) := by
  let call : Call := .reconcileAvailabilitySessions tick.recipients tick.now
  have ran : execute id db call = .ok (tick.step db) := rfl
  have promised : call.Promised := nonneg
  exact ⟨execute_balances before.1 promised ran, execute_pool before.2 ran⟩

theorem totalBalances_run (before : BalancesNonneg (books start) ∧ PoolNonneg start)
    (nonneg : ∀ tick ∈ ticks, tick.Nonneg) :
    totalBalances (run Tick.step start ticks) - totalBalances start = start.mintPool.remaining -
        (run Tick.step start ticks).mintPool.remaining := by
  induction ticks generalizing start with
  | nil => simp
  | cons tick rest ih =>
    have first := nonneg tick mem_cons_self
    have later := ih (nonneg_step first before)
      (forall_mem_cons.mp nonneg).2
    have added := totalBalances_step tick before.1
    have removed := mintPool_step start tick
    rw [dripTotal_of_nonneg first] at removed
    rw [run_cons]
    omega

theorem drippedTo_run (reading : Db → ℤ)
    (raised : ∀ (db : Db) (tick : Tick), BalancesNonneg (books db) →
      reading (tick.step db) = reading db + tick.credits db deviceId)
    (before : BalancesNonneg (books start) ∧ PoolNonneg start)
    (nonneg : ∀ tick ∈ ticks, tick.Nonneg) : drippedTo deviceId start ticks =
      reading (run Tick.step start ticks) - reading start := by
  induction ticks generalizing start with
  | nil => simp [drippedTo]
  | cons tick rest ih =>
    have later := ih (nonneg_step (nonneg tick mem_cons_self) before)
      (forall_mem_cons.mp nonneg).2
    have first := raised start tick before.1
    rw [run_cons, drippedTo]
    omega

/-- From every state the ledger can reach, over every run of ticks: the credits
added to balances left the mint pool, what a device received is recorded in its
session rows and its open session, a device has one open session at most, and a
tick that asks for more than the pool holds credits nobody. -/
theorem availabilityDrip_accounts (sha256 : String → String) (calls : List Call) (ticks : List Tick)
    (promised : ∀ call ∈ calls, call.Promised) (nonneg : ∀ tick ∈ ticks, tick.Nonneg) :
    let start := runCalls sha256 Db.empty calls
    let db := run Tick.step start ticks
    totalBalances db - totalBalances start = start.mintPool.remaining - db.mintPool.remaining ∧
      (∀ deviceId, drippedTo deviceId start ticks =
            db.balanceOf deviceId - start.balanceOf deviceId ∧
          drippedTo deviceId start ticks = recordedDrip db deviceId - recordedDrip start deviceId) ∧
      (db.availabilitySessions.rows.map Prod.fst).Nodup ∧
      ∀ tick : Tick, db.mintPool.remaining < dripTotal tick.recipients →
        (tick.step db).balances = db.balances := by
  intro start db
  have before : BalancesNonneg (books start) ∧ PoolNonneg start :=
    runCalls_balances balancesNonneg_empty (by decide : (0 : ℤ) ≤ initialMintPool) promised
  refine ⟨totalBalances_run before nonneg, ?_, ?_, ?_⟩
  · intro deviceId
    constructor
    · exact drippedTo_run (fun db => db.balanceOf deviceId)
        (fun db tick balances => balanceOf_step tick balances deviceId) before
        nonneg
    · exact drippedTo_run (fun db => recordedDrip db deviceId)
        (fun db tick balances => recordedDrip_step tick balances deviceId) before
        nonneg
  · exact db.availabilitySessions.keysNodup
  · intro tick exceeds
    have admissible : Admissible (fun _ tick => tick.Nonneg) Tick.step start ticks :=
      admissible_of_forall fun tick member _ => nonneg tick member
    have pool : PoolNonneg db := by
      refine (run_invariant (fun db => BalancesNonneg (books db) ∧ PoolNonneg db) ?_ before
        admissible).2
      intro state tick isNonneg holds
      exact nonneg_step isNonneg holds
    have remaining : 0 ≤ db.mintPool.remaining := pool
    exact balances_step_of_skipped ⟨by omega, exceeds⟩

def changingTicks : List Tick := [⟨[⟨"mac", 7, some "small"⟩, ⟨"mac", 2, some "small"⟩], 10⟩,
    ⟨[⟨"mac", 5, some "large"⟩, ⟨"mini", 1, none⟩], 20⟩,
    ⟨[⟨"mini", 1, none⟩], 30⟩]

theorem availabilityDrip_changing : drippedTo "mac" Db.empty changingTicks = 14 ∧
      totalBalances (run Tick.step Db.empty changingTicks) - totalBalances Db.empty =
        Db.empty.mintPool.remaining - (run Tick.step Db.empty changingTicks).mintPool.remaining :=
  ⟨by decide +kernel, (availabilityDrip_accounts id [] changingTicks (by simp) (by decide)).1⟩

end Teale.Gateway
