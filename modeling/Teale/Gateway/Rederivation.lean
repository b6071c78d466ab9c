import Teale.Gateway.Books.Refinement

/-!
# Balances derived from the ledgers

The balance of a device follows from its ledger rows and its open session, that of an account from
its credit rows, except that a request paid from a share key writes a row for the issuer, and the
payout of a reserved withdrawal writes the debit a second time.
-/

namespace Teale.Gateway

open Relational Transactional Bookkeeping List Finsupp Entry

variable {call : Call} {sha256 : String → String} {db db' : Db} (deviceId : DeviceId)

/-! ## What a verifier adds up -/

def ledgerSum (db : Db) (deviceId : DeviceId) : ℤ :=
  db.ledger.sum fun row => if row.deviceId = deviceId then row.amount else 0

def accruedOf (db : Db) (deviceId : DeviceId) : ℤ :=
  ((db.availabilitySessions.find? deviceId).map AvailabilitySessionRow.accruedCredits).getD 0

def accountLedgerSum (db : Db) (accountUserId : AccountUserId) : ℤ :=
  db.accountLedger.sum fun row =>
    if row.accountUserId = accountUserId ∧ row.asset = .credits then row.amount
    else 0

/-- The balance of the device is what its rows and its session say. -/
def DeviceRederivable (db : Db) (deviceId : DeviceId) : Prop :=
  db.balanceOf deviceId = ledgerSum db deviceId + accruedOf db deviceId

def AccountRederivable (db : Db) (accountUserId : AccountUserId) : Prop :=
  db.creditsOf accountUserId = accountLedgerSum db accountUserId

instance (db : Db) (deviceId : DeviceId) : Decidable (DeviceRederivable db deviceId) :=
  inferInstanceAs (Decidable (_ = _))

instance (db : Db) (accountUserId : AccountUserId) :
    Decidable (AccountRederivable db accountUserId) :=
  inferInstanceAs (Decidable (_ = _))

/-! ## The difference as a reading of the books -/

def deviceDrift (deviceId : DeviceId) : Book → ℤ
  | .wallet (.device other) => if other = deviceId then 1 else 0
  | .rows (.device other) => -(if other = deviceId then 1 else 0)
  | .session other => -(if other = deviceId then 1 else 0)
  | _ => 0

def accountDrift (accountUserId : AccountUserId) : Book → ℤ
  | .wallet (.account other) => if other = accountUserId then 1 else 0
  | .rows (.account other) => -(if other = accountUserId then 1 else 0)
  | _ => 0

theorem weigh_deviceDrift (books : Books Book) : weigh (deviceDrift deviceId) books =
      books (.wallet (.device deviceId)) - books (.rows (.device deviceId)) -
        books (.session deviceId) := by
  refine weigh_eq_of_single (applyAddHom (Book.wallet (.device deviceId)) -
    applyAddHom (Book.rows (.device deviceId)) -
    applyAddHom (Book.session deviceId)) ?_ books
  intro book amount
  cases book with
  | wallet owner | rows owner =>
    cases owner <;> simp [deviceDrift, single_apply]
  | _ => simp [deviceDrift, single_apply]

theorem weigh_accountDrift (account : AccountUserId) (books : Books Book) :
    weigh (accountDrift account) books = books (.wallet (.account account)) -
        books (.rows (.account account)) := by
  refine weigh_eq_of_single (applyAddHom (Book.wallet (.account account)) -
      applyAddHom (Book.rows (.account account))) ?_ books
  intro book amount
  cases book with
  | wallet owner | rows owner =>
    cases owner <;> simp [accountDrift, single_apply]
  | _ => simp [accountDrift]

theorem deviceRederivable_iff (db : Db) (deviceId : DeviceId) : DeviceRederivable db deviceId ↔
      weigh (deviceDrift deviceId) (books db) = 0 := by
  rw [weigh_deviceDrift, books_device, books_deviceRows, books_session,
    DeviceRederivable, ledgerSum, accruedOf]
  omega

theorem accountRederivable_iff (db : Db) (account : AccountUserId) :
    AccountRederivable db account ↔ weigh (accountDrift account) (books db) = 0 := by
  rw [weigh_accountDrift, books_account, books_accountRows, AccountRederivable, accountLedgerSum]
  omega

/-! ## Which entries keep it -/

theorem deviceDrift_credit (owner : Wallet) :
    deviceDrift deviceId (.wallet owner) + deviceDrift deviceId (.rows owner) = 0 := by
  cases owner <;> simp [deviceDrift]

theorem accountDrift_credit (account : AccountUserId) (owner : Wallet) :
    accountDrift account (.wallet owner) + accountDrift account (.rows owner) = 0 := by
  cases owner <;> simp [accountDrift]

theorem Entry.total_deviceDrift (entry : Entry)
    (notPool : ∀ issuer keyId amount earnings, entry ≠ .spendPool issuer keyId amount earnings)
    (notDropped : ∀ device amount, entry ≠ .dropSession device amount) :
    entry.journal.total (deviceDrift deviceId) = 0 := by
  have earnings := total_creditAll (deviceDrift deviceId) 0
    (fun device => deviceDrift_credit deviceId (.device device)) (fun _ => rfl)
  cases entry with
  | spendPool => exact absurd rfl (notPool _ _ _ _)
  | dropSession => exact absurd rfl (notDropped _ _)
  | drip => simp [journal, deviceDrift]
  | endSession device amount =>
    by_cases same : device = deviceId <;> simp [journal, deviceDrift, same]
  | endow | finalize | payout => simp [journal, deviceDrift]
  | grant | move => simp [journal, deviceDrift_credit]
  | charge => simp [journal, deviceDrift_credit, earnings]
  | fund | refund | deposit | hold | burn | release =>
    simp only [journal, Journal.total_append, Journal.total_cons,
      Journal.total_nil, Wallet.total_credit, deviceDrift_credit]
    simp [deviceDrift]

theorem Entry.total_accountDrift (accountUserId : AccountUserId) (entry : Entry)
    (notFinal : ∀ account credits cents, entry ≠ .finalize account credits cents) :
    entry.journal.total (accountDrift accountUserId) = 0 := by
  have earnings := total_creditAll (accountDrift accountUserId) 0
    (fun device => accountDrift_credit accountUserId (.device device))
    (fun _ => rfl)
  cases entry with
  | finalize => exact absurd rfl (notFinal _ _ _)
  | drip | endSession | dropSession | endow | payout => simp [journal, accountDrift]
  | grant | move => simp [journal, accountDrift_credit]
  | charge => simp [journal, accountDrift_credit, earnings]
  | spendPool => simp [journal, accountDrift, earnings]
  | fund | refund | deposit | hold | burn | release =>
    simp only [journal, Journal.total_append, Journal.total_cons,
      Journal.total_nil, Wallet.total_credit, accountDrift_credit]
    simp [accountDrift]

/-! ## Sessions -/

def IsSession : Book → Prop
  | .session _ => True
  | _ => False

def Call.DripsNonneg : Call → Prop
  | .reconcileAvailabilitySessions recipients _ => ∀ recipient ∈ recipients, 0 ≤ recipient.credits
  | _ => True

theorem creditAll_not_session {earnings : List (Earner × ℤ)} {entry : Book × ℤ}
    (member : entry ∈ creditAll earnings) : ¬ IsSession entry.1 := by
  obtain ⟨⟨earner, amount⟩, -, credited⟩ := mem_flatMap.mp member
  cases earner with
  | device =>
    simp only [Earner.credit, Wallet.credit, mem_cons, not_mem_nil, or_false] at credited
    rcases credited with rfl | rfl <;> exact not_false
  | provider =>
    obtain rfl := mem_singleton.mp credited
    exact not_false

theorem Entry.covered_sessions {books : Books Book} {entry : Entry}
    (drips : ∀ deviceId amount, entry = .drip deviceId amount → 0 ≤ amount)
    (before : ∀ book, IsSession book → 0 ≤ books book) (allowed : entry.Allowed books) :
    Covered IsSession books entry.journal := by
  cases entry with
  | drip deviceId amount =>
    refine covered_of_credits before ?_
    intro posting member _
    simp only [journal, mem_cons, not_mem_nil, or_false] at member
    rcases member with rfl | rfl <;> exact drips deviceId amount rfl
  | endSession deviceId amount =>
    exact covered_payment before (fun _ => le_of_eq allowed) (by simp [IsSession])
  | dropSession deviceId amount =>
    exact covered_payment before (fun _ => le_of_eq allowed.1) (by simp)
  | charge | spendPool =>
    refine covered_of_credits before ?_
    intro posting member isSession
    simp only [journal, Wallet.credit, cons_append, nil_append, mem_cons] at member
    rcases member with rfl | rfl | member
    · exact isSession.elim
    · exact isSession.elim
    · exact absurd isSession (creditAll_not_session member)
  | _ => exact covered_of_credits before (by simp [journal, Wallet.credit, IsSession])

/-! ## Devices -/

def SessionsNonneg (db : Db) : Prop := ∀ book, IsSession book → 0 ≤ books db book

/-- A call whose rows say what it does to device wallets: it is not a
settlement paid from the pool of a share key, and its drips are not
negative. -/
def Call.RowsFollowDevices (db : Db) (call : Call) : Prop :=
  call.spendsPool db = false ∧ call.DripsNonneg

theorem Call.DripsNonneg.drips {amount : ℤ} (nonneg : call.DripsNonneg)
    (drips : call.Drips amount) : 0 ≤ amount := by
  cases call with
  | reconcileAvailabilitySessions =>
    obtain ⟨recipient, listed, rfl⟩ := drips
    exact nonneg recipient listed
  | _ => exact drips.elim

theorem execute_sessions (before : SessionsNonneg db) (nonneg : call.DripsNonneg)
    (ran : execute sha256 db call = .ok db') : SessionsNonneg db' := by
  by_cases resets : call = .resetGenesis
  · subst resets
    cases execute_resetGenesis ran
    intro book isSession
    cases book with
    | session => rw [books_session]; exact le_refl 0
    | _ => exact isSession.elim
  · obtain ⟨entries, -, posted, arises⟩ := execute_accounted ran resets
    refine posted.nonneg ?_ before
    intro entry member current sessions allowed
    refine covered_sessions ?_ sessions allowed
    rintro deviceId amount rfl
    exact nonneg.drips (arises _ member)

theorem execute_deviceRederivable
    (follows : call.RowsFollowDevices db) (sessions : SessionsNonneg db)
    {deviceId : DeviceId} (before : DeviceRederivable db deviceId)
    (ran : execute sha256 db call = .ok db') : DeviceRederivable db' deviceId := by
  rw [deviceRederivable_iff] at before ⊢
  refine execute_weigh_eq_zero (fun _ => rfl) ?_ before ran
  intro entry origin
  refine entry.total_deviceDrift deviceId ?_ ?_
  · rintro issuer keyId amount earnings rfl
    have spends : call.spendsPool db = true := origin
    rw [follows.1] at spends
    exact Bool.false_ne_true spends
  · rintro device amount rfl
    have negative : books db (.session device) < 0 := origin
    have nonneg := sessions (.session device) trivial
    omega

/-- Along every run from the empty database in which no request is paid from
the pool of a share key and no drip is negative, every device balance can be
derived from its rows and its session. -/
theorem deviceRederivable_runCalls (sha256 : String → String) (calls : List Call)
    (follows : Admissible (fun db call => call.RowsFollowDevices db)
      (commit (execute sha256)) Db.empty calls) (deviceId : DeviceId) :
    DeviceRederivable (runCalls sha256 Db.empty calls) deviceId := by
  have invariant := run_commit_invariant
    (fun db => SessionsNonneg db ∧ DeviceRederivable db deviceId) ?_ ?_ follows
  · exact invariant.2
  · intro db call db' rowsFollow holds returned
    exact ⟨execute_sessions holds.1 rowsFollow.2 returned,
      execute_deviceRederivable rowsFollow holds.1 holds.2 returned⟩
  · refine ⟨?_, rfl⟩
    intro book _
    exact le_refl 0

/-- A device mints a share key, tops it up, pays for itself and gets back what
is left. -/
theorem deviceRederivable_shared_key :
    DeviceRederivable (runCalls id Db.empty [.upsertDevice "alice" 0, .recordBonus "alice" 500 0,
        .mintShareKey "alice" none 60 300 ⟨"k", "f", "t", "c"⟩ 1,
        .transferToShareKey "alice" "f" 50 "d" 2,
        .settleRequest (.device "alice") (some "bob") ["bob"] 100 "r" "m" 3,
        .revokeShareKey "alice" "k" 4]) "alice" :=
  deviceRederivable_runCalls id _
    (admissible_of_forall (by simp [Call.RowsFollowDevices, Call.spendsPool,
      Call.DripsNonneg, ConsumerPrincipal.funded])) "alice"

/-- A device that mints a share key of 300 credits and serves 100 of them has
a balance of 200, but its rows add up to 100. -/
theorem not_deviceRederivable_spent_pool :
    ¬ DeviceRederivable (runCalls id Db.empty [.upsertDevice "alice" 0, .recordBonus "alice" 500 0,
        .mintShareKey "alice" none 60 300 ⟨"k", "f", "t", "c"⟩ 1,
        .settleRequest (.share "alice" "k") (some "bob") [] 100 "r" "m" 2]) "alice" := by
  decide

/-! ## Accounts -/

theorem execute_accountRederivable (notFinal : call.finalizesWithdrawal db = false)
    (before : AccountRederivable db accountUserId) (ran : execute sha256 db call = .ok db') :
    AccountRederivable db' accountUserId := by
  rw [accountRederivable_iff] at before ⊢
  refine execute_weigh_eq_zero (fun _ => rfl) ?_ before ran
  intro entry origin
  refine entry.total_accountDrift accountUserId ?_
  rintro account credits cents rfl
  have finalizes : call.finalizesWithdrawal db = true := origin
  rw [notFinal] at finalizes
  exact Bool.false_ne_true finalizes

/-- Along every run from the empty database in which no reserved withdrawal is
paid out, every account balance can be derived from its credit rows. -/
theorem accountRederivable_runCalls (sha256 : String → String) (calls : List Call)
    (notFinal : Admissible (fun db call => call.finalizesWithdrawal db = false)
      (commit (execute sha256)) Db.empty calls) (accountUserId : AccountUserId) :
    AccountRederivable (runCalls sha256 Db.empty calls) accountUserId :=
  run_commit_invariant (fun db => AccountRederivable db accountUserId)
    (fun _ _ _ keeps before returned =>
      execute_accountRederivable keeps before returned) rfl notFinal

def depositRun : List Call :=
  [.linkDeviceToAccount "phone" "acct" {} 0, .recordAccountOnchainDeposit "phone"
      { solanaAddress := some "addr"
        txSignature := some "paid"
        amountUsdcCents := some 100 } "dep" 1]

/-- One withdrawal is signed when it is requested, another is given back. -/
theorem accountRederivable_rejected : AccountRederivable (runCalls id Db.empty (depositRun ++
      [.submitAccountWithdrawal "phone" ⟨"r1", "dest", 40, some "s1"⟩ "w1" 2,
        .submitAccountWithdrawal "phone" ⟨"r2", "dest", 60, none⟩ "w2" 3,
        .rejectAccountWithdrawal "r2" none 4])) "acct" := by
  refine accountRederivable_runCalls id _ ?_ "acct"
  simp only [depositRun, cons_append, nil_append, Admissible]
  decide

/-- A reserved withdrawal of the whole dollar is paid out: nothing is left,
but the rows add up to a dollar below zero. -/
theorem not_accountRederivable_completed : ¬ AccountRederivable (runCalls id Db.empty (depositRun ++
      [.submitAccountWithdrawal "phone" ⟨"r1", "dest", 100, none⟩ "w1" 2,
        .completeAccountWithdrawalFromTreasury "r1" "payout" 3])) "acct" := by
  decide

end Teale.Gateway
