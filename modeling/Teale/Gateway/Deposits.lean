import Teale.Gateway.AccountEvents
import Teale.Gateway.Books.Refinement

/-!
# Deposits are credited once

Two functions credit on-chain deposits, and both look the transaction signature up in one table
first.
-/

namespace Teale.Gateway

open Relational Transactional Bookkeeping Relational.Table Db

variable {db db' : Db} {sha256 : String → String} {call : Call}
  {txSignature : String}

/-! ## Deposit calls -/

def Call.depositSignature : Call → Option String
  | .recordAccountOnchainDeposit _ req _ _ => normalizedOptionalString req.txSignature
  | .recordAccountTreasuryDeposit _ txSignature _ _ _ _ _ => some txSignature
  | _ => none

def Call.depositAccount (db : Db) : Call → Option AccountUserId
  | .recordAccountOnchainDeposit requester _ _ _
  | .recordAccountTreasuryDeposit requester _ _ _ _ _ _ => db.accountUserIdForDevice requester
  | _ => none

def Call.depositCents : Call → Option ℤ
  | .recordAccountOnchainDeposit _ req _ _ => req.amountUsdcCents
  | .recordAccountTreasuryDeposit _ _ cents _ _ _ _ => some cents
  | _ => none

/-- A deposit call that names a signature either repeats the stored row and
changes no balance, or stores a row and credits one account. -/
inductive DepositOutcome
    (db : Db) (txSignature : String) (accountUserId : AccountUserId) (cents : ℤ)
    (db' : Db) : Prop
  | repeated {row : DepositRow} (found : db.deposits.find? txSignature = some row)
      (sameAccount : row.accountUserId = accountUserId)
      (sameCents : row.amountUsdcCents = cents)
      (kept : db'.deposits = db.deposits)
      (silent : balanceChanges db db' = [])
  | credited {row : DepositRow} (fresh : db.deposits.find? txSignature = none)
      (account : row.accountUserId = accountUserId)
      (amount : row.amountUsdcCents = cents)
      (stored : db'.deposits = db.deposits.insertOrIgnore txSignature row)
      (once : balanceChanges db db' = [(accountUserId, cents * creditsPerUsdcCent)])

theorem recordDeposit_outcome {enabled : Db} {deposit : Deposit} {wallet : AccountWalletRow}
    {compareSource : Bool} {depositId usdcNote creditsNote : String} {now : Timestamp}
    (ran : recordDeposit enabled deposit compareSource depositId usdcNote
      creditsNote now = .ok db') (isDeposits : enabled.deposits = db.deposits)
    (found : db.accountWallets.find? deposit.accountUserId = some wallet)
    (enables : ∃ enabledWallet : AccountWalletRow,
      enabled.accountWallets.find? deposit.accountUserId = some enabledWallet ∧
        enabledWallet.balanceCredits = wallet.balanceCredits)
    (elsewhere : ∀ other, other ≠ deposit.accountUserId →
      enabled.accountWallets.find? other = db.accountWallets.find? other)
    (converted : deposit.amountCredits = deposit.amountUsdcCents * creditsPerUsdcCent) :
    DepositOutcome db deposit.txSignature deposit.accountUserId deposit.amountUsdcCents db' := by
  obtain ⟨enabledWallet, foundEnabled, sameCredits⟩ := enables
  rcases recordDeposit_cases ran with ⟨row, stored, agrees, rfl⟩ |
    ⟨fresh, hasWallet, positive, depositId', usdcRow, creditsRow, -, -, -, -, rfl⟩
  · simp only [DepositRow.agrees, Bool.and_eq_true, beq_iff_eq] at agrees
    refine .repeated (isDeposits ▸ stored) agrees.1.1.1 agrees.1.2 isDeposits ?_
    rw [balanceChanges_of_one found foundEnabled elsewhere, if_pos sameCredits]
  · refine .credited (isDeposits ▸ fresh) rfl rfl
      (congrArg (fun table => insertOrIgnore table _ _) isDeposits) ?_
    have credited : (enabled.withDeposit deposit
        (deposit.row depositId' now positive) usdcRow creditsRow
        now).accountWallets.find? deposit.accountUserId =
          some (enabledWallet.addDeposit deposit.amountCredits deposit.amountUsdcCents now) := by
      simp [withDeposit, foundEnabled]
    have others : ∀ other, other ≠ deposit.accountUserId →
        (enabled.withDeposit deposit (deposit.row depositId' now positive)
          usdcRow creditsRow now).accountWallets.find? other = db.accountWallets.find? other := by
      intro other different
      rw [withDeposit, find?_modify_of_ne _ _ different, elsewhere other different]
    have raised : (enabledWallet.addDeposit deposit.amountCredits
        deposit.amountUsdcCents now).balanceCredits =
          wallet.balanceCredits + deposit.amountCredits := by
      rw [← sameCredits]
      rfl
    have changed : ¬ wallet.balanceCredits + deposit.amountCredits = wallet.balanceCredits := by
      omega
    rw [balanceChanges_of_one found credited others, raised, if_neg changed, ← converted]
    simp

theorem execute_depositOutcome (ran : execute sha256 db call = .ok db')
    (named : call.depositSignature = some txSignature) :
    ∃ account cents, call.depositAccount db = some account ∧
      call.depositCents = some cents ∧ DepositOutcome db txSignature account cents db' := by
  cases call with
  | recordAccountOnchainDeposit requester req depositId now =>
    obtain ⟨_, called, rfl⟩ := map_eq_ok.mp ran
    obtain ⟨account, wallet, address, linked, found, -, outcome⟩ :=
      recordAccountOnchainDeposit_cases called
    have isNamed : normalizedOptionalString req.txSignature = some txSignature := named
    rcases outcome with ⟨unnamed, -⟩ |
      ⟨signature, cents, usdcNote, creditsNote, signed, amount, -, recorded⟩
    · cases unnamed.symm.trans isNamed
    · cases signed.symm.trans isNamed
      refine ⟨account, cents, linked, amount, ?_⟩
      -- the wallet is enabled first, which changes no balance
      refine @recordDeposit_outcome db _ _ _ wallet _ _ _ _ _ recorded rfl
        found ⟨wallet.enableSolana address now, ?_, rfl⟩ ?_ rfl
      · simp [updateWallet, found]
      · intro other different
        exact find?_modify_of_ne _ _ different
  | recordAccountTreasuryDeposit requester signature cents =>
    obtain ⟨_, called, rfl⟩ := map_eq_ok.mp ran
    obtain ⟨account, wallet, _, _, linked, found, -, recorded⟩ :=
      recordAccountTreasuryDeposit_cases called
    cases named
    refine ⟨account, cents, linked, rfl, ?_⟩
    exact @recordDeposit_outcome db _ _ _ wallet _ _ _ _ _ recorded rfl found
      ⟨wallet, found, rfl⟩ (fun _ _ => rfl) rfl
  | _ => simp [Call.depositSignature] at named

/-! ## At most one credit -/

def Db.hasDeposit (db : Db) (txSignature : String) : Prop :=
  (db.deposits.find? txSignature).isSome = true

theorem execute_deposits_eq (ran : execute sha256 db call = .ok db')
    (keeps : call ≠ .resetGenesis) (unnamed : call.depositSignature = none) :
    db'.deposits = db.deposits := by
  cases call with
  | resetGenesis => exact absurd rfl keeps
  | recordAccountOnchainDeposit requester req =>
    obtain ⟨_, called, rfl⟩ := map_eq_ok.mp ran
    obtain ⟨_, _, _, -, -, -, ⟨-, unchanged⟩ | ⟨_, _, _, _, signed, -⟩⟩ :=
      recordAccountOnchainDeposit_cases called
    · rw [unchanged]
      rfl
    · have isUnnamed : normalizedOptionalString req.txSignature = none := unnamed
      cases isUnnamed.symm.trans signed
  | recordAccountTreasuryDeposit => simp [Call.depositSignature] at unnamed
  | _ =>
    exact (execute_within ran).read (·.deposits) fun _ => by
      first | rfl | simp [Db.without, writes]

theorem execute_hasDeposit (ran : execute sha256 db call = .ok db')
    (keeps : call ≠ .resetGenesis) (recorded : db.hasDeposit txSignature) :
    db'.hasDeposit txSignature := by
  unfold hasDeposit at recorded ⊢
  cases named : call.depositSignature with
  | none => rwa [execute_deposits_eq ran keeps named]
  | some signature =>
    obtain ⟨_, _, -, -, outcome⟩ := execute_depositOutcome ran named
    cases outcome with
    | repeated _ _ _ kept => rwa [kept]
    | credited _ _ _ stored =>
      rw [stored, find?_insertOrIgnore]
      split
      · rfl
      · exact recorded

def namesDeposit (txSignature : String) (call : Call) : Bool :=
  call.depositSignature = some txSignature

/-- A call that names a signature changes no balance when the signature is
recorded, and otherwise at most one; then the signature is recorded. -/
theorem commit_namesDeposit (named : namesDeposit txSignature call = true) :
    balanceChanges db (commit (execute sha256) db call) = [] ∨
      (¬ db.hasDeposit txSignature ∧ (commit (execute sha256) db call).hasDeposit txSignature ∧
        ∃ change, balanceChanges db (commit (execute sha256) db call) = [change]) := by
  have isNamed : call.depositSignature = some txSignature := of_decide_eq_true named
  refine commit_cases (.inl (balanceChanges_self db)) fun db' ran => ?_
  obtain ⟨_, _, -, -, outcome⟩ := execute_depositOutcome ran isNamed
  cases outcome with
  | repeated _ _ _ _ silent => exact .inl silent
  | credited fresh _ _ stored once =>
    refine .inr ⟨?_, ?_, _, once⟩
    · simp [hasDeposit, fresh]
    · simp [hasDeposit, stored]

theorem accountEvents_of_hasDeposit (keeps : ∀ call ∈ calls, call ≠ .resetGenesis)
    (recorded : db.hasDeposit txSignature) :
    accountEvents sha256 (namesDeposit txSignature) db calls = [] := by
  refine accountEvents_eq_nil (fun db => db.hasDeposit txSignature)
    (fun _ _ kept recorded => commit_cases recorded fun _ ran =>
      execute_hasDeposit ran kept recorded) ?_ keeps recorded
  intro current call _ isRecorded named
  rcases commit_namesDeposit named with silent | ⟨unrecorded, -⟩
  · exact silent
  · exact absurd isRecorded unrecorded

/-- Whatever the state, a signature raises at most one balance once. -/
theorem length_depositEvents_le_one (sha256 : String → String) (txSignature : String) (db : Db)
    (keeps : ∀ call ∈ calls, call ≠ .resetGenesis) :
    (accountEvents sha256 (namesDeposit txSignature) db calls).length ≤ 1 := by
  induction calls generalizing db with
  | nil => simp [accountEvents]
  | cons call rest ih =>
    have restKeeps : ∀ other ∈ rest, other ≠ .resetGenesis :=
      fun other member => keeps other (List.mem_cons_of_mem call member)
    have later := ih (commit (execute sha256) db call) restKeeps
    rw [accountEvents_cons]
    split
    case isFalse => exact later
    case isTrue named =>
      rcases commit_namesDeposit named with silent | ⟨-, recorded, _, once⟩
      · rw [silent]
        exact later
      · rw [once, accountEvents_of_hasDeposit restKeeps recorded]
        simp

/-! ## Totals -/

def Db.depositedCents (db : Db) (accountUserId : AccountUserId) : ℤ :=
  ((db.accountWallets.find? accountUserId).map AccountWalletRow.depositedUsdcCentsTotal).getD 0

def Db.depositRowCents (db : Db) (accountUserId : AccountUserId) : ℤ := db.deposits.sum fun _ row =>
    if row.accountUserId = accountUserId then row.amountUsdcCents else 0

def depositDrift (accountUserId : AccountUserId) : Book → ℤ
  | .deposited other => if other = accountUserId then 1 else 0
  | .depositRows other => -(if other = accountUserId then 1 else 0)
  | _ => 0

theorem weigh_depositDrift (account : AccountUserId) (books : Books Book) :
    weigh (depositDrift account) books =
      books (.deposited account) - books (.depositRows account) := by
  refine weigh_eq_of_single (Finsupp.applyAddHom (Book.deposited account) -
    Finsupp.applyAddHom (Book.depositRows account)) ?_ books
  intro book amount
  cases book <;> simp [depositDrift, Finsupp.single_apply]

theorem Entry.total_depositDrift (account : AccountUserId) (entry : Entry) :
    entry.journal.total (depositDrift account) = 0 := by
  have earnings := total_creditAll (depositDrift account) 0 (fun _ => rfl) (fun _ => rfl)
  cases entry <;> simp [Entry.journal, depositDrift, earnings]

/-! ## Conflicting replays -/

/-- A call that names a recorded signature for another account or another
amount. -/
def Call.Conflicts (db : Db) (row : DepositRow) (call : Call) : Prop :=
  call.depositAccount db ≠ some row.accountUserId ∨ call.depositCents ≠ some row.amountUsdcCents

theorem execute_conflict (named : call.depositSignature = some txSignature)
    (found : db.deposits.find? txSignature = some row) (conflicts : call.Conflicts db row) :
    ∃ failure, execute sha256 db call = .error failure := by
  cases ran : execute sha256 db call with
  | error failure => exact ⟨failure, rfl⟩
  | ok db' =>
    obtain ⟨accountUserId, cents, account, amount, outcome⟩ := execute_depositOutcome ran named
    cases outcome with
    | repeated stored sameAccount sameCents =>
      cases stored.symm.trans found
      rcases conflicts with otherAccount | otherCents
      · exact absurd (account.trans (congrArg some sameAccount.symm)) otherAccount
      · exact absurd (amount.trans (congrArg some sameCents.symm)) otherCents
    | credited fresh =>
      cases found.symm.trans fresh

/-! ## The deposits of a run -/

/-- What is known about the deposits after a run: the calls of its last part
credited every signature at most once, the totals are those of the rows, and
a replay that does not repeat its row fails and changes nothing. -/
structure DepositsSettled
    (sha256 : String → String) (start : Db) (calls : List Call) : Prop where
  once : ∀ txSignature, (accountEvents sha256 (namesDeposit txSignature) start calls).length ≤ 1
  totals : ∀ accountUserId, (runCalls sha256 start calls).depositedCents accountUserId =
      (runCalls sha256 start calls).depositRowCents accountUserId
  conflict : ∀ call txSignature row, call.depositSignature = some txSignature →
    (runCalls sha256 start calls).deposits.find? txSignature = some row →
    call.Conflicts (runCalls sha256 start calls) row →
    (∃ failure, execute sha256 (runCalls sha256 start calls) call = .error failure) ∧
      commit (execute sha256) (runCalls sha256 start calls) call = runCalls sha256 start calls

/-- In every reachable state, for every run of calls that does not delete the
database. -/
theorem depositsSettled_runCalls (sha256 : String → String) (history calls : List Call)
    (keeps : ∀ call ∈ calls, call ≠ .resetGenesis) :
    DepositsSettled sha256 (runCalls sha256 Db.empty history) calls where
  once txSignature := length_depositEvents_le_one sha256 txSignature _ keeps
  totals accountUserId := by
    have read := @weigh_runCalls_eq_zero sha256 (depositDrift accountUserId)
      (fun _ => rfl) (Entry.total_depositDrift accountUserId) (history ++ calls)
    rw [weigh_depositDrift, books_deposited, books_depositRows, runCalls_append] at read
    exact sub_eq_zero.mp read
  conflict call txSignature row named found conflicts := by
    obtain ⟨failure, failed⟩ := @execute_conflict _ sha256 _ _ _ named found conflicts
    exact ⟨⟨failure, failed⟩, commit_of_error failed⟩

/-- One transaction claimed through both functions, and twice. -/
theorem depositsSettled_both_paths : DepositsSettled id
      (runCalls id Db.empty [.linkDeviceToAccount "phone" "acct" {} 0])
      [.recordAccountTreasuryDeposit "phone" "paid" 100 none "treasury" "d1" 1,
        .recordAccountOnchainDeposit "phone"
          { solanaAddress := some "treasury"
            txSignature := some " paid "
            amountUsdcCents := some 100 } "d2" 2,
        .recordAccountTreasuryDeposit "phone" "paid" 100 none "treasury" "d3" 3] :=
  depositsSettled_runCalls id _ _ (by simp)

end Teale.Gateway
