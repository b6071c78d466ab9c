import Teale.Gateway.Deposits

/-!
# The life cycle of a withdrawal

A withdrawal request is opened once, and then submitted or rejected at most once, however often
and in whatever order the requests are submitted again, completed and rejected.
-/

namespace Teale.Gateway

open Relational Transactional Bookkeeping List Option Relational.Table Db

/-! ## Withdrawal calls -/

variable {sha256 : String → String} {db db' : Db} {call : Call} {requestId : String}
  {row : WithdrawalRow} {now : Timestamp} {entry : Entry} (account : AccountUserId)

def namesRequest (requestId : String) (call : Call) : Bool := call.requestId = some requestId

/-- The requests change in no call but a withdrawal call, and there by a step. -/
theorem execute_withdrawals (ran : execute sha256 db call = .ok db') (keeps : call ≠ .resetGenesis) :
    (call.requestId = none ∧ db'.withdrawals = db.withdrawals) ∨ ∃ requestId,
      call.requestId = some requestId ∧ ((db' = db ∧ Records db [] call) ∨
        ∃ now entry, WithdrawalStep db requestId now entry db' ∧ Records db [entry] call ∧
          entry.Arises db call) := by
  by_cases listed : .withdrawals ∈ writes call
  · exact .inr (execute_request ran listed keeps)
  · refine .inl ⟨?_, (execute_within ran).read (·.withdrawals) fun _ => if_neg listed⟩
    cases call with
    | submitAccountWithdrawal | completeAccountWithdrawalFromTreasury | rejectAccountWithdrawal =>
      simp [writes] at listed
    | _ => rfl

/-! ## The steps of a request -/

inductive StatusMoves : WithdrawalStatus → WithdrawalStatus → Prop
  | stays (status : WithdrawalStatus) : StatusMoves status status
  | submits : StatusMoves .pending .submitted
  | rejects : StatusMoves .pending .rejected

theorem StatusMoves.trans (early : StatusMoves first second) (late : StatusMoves second third) :
    StatusMoves first third := by
  cases early with
  | stays => exact late
  | submits =>
    cases late
    exact .submits
  | rejects =>
    cases late
    exact .rejects

theorem StatusMoves.eq_of_ne_pending
    {first second : WithdrawalStatus} (moves : StatusMoves first second)
    (closed : first ≠ .pending) : second = first := by
  cases moves with
  | stays => rfl
  | submits | rejects => exact absurd rfl closed

structure WithdrawalRow.Becomes (row later : WithdrawalRow) : Prop where
  account : later.accountUserId = row.accountUserId
  credits : later.amountCredits = row.amountCredits
  cents : later.amountUsdcCents = row.amountUsdcCents
  status : StatusMoves row.status later.status

theorem WithdrawalRow.Becomes.refl (row : WithdrawalRow) : row.Becomes row :=
  ⟨rfl, rfl, rfl, .stays row.status⟩

theorem WithdrawalRow.Becomes.trans (first : row.Becomes middle) (second : middle.Becomes later) :
    row.Becomes later where
  account := second.account.trans first.account
  credits := second.credits.trans first.credits
  cents := second.cents.trans first.cents
  status := first.status.trans second.status

inductive RequestChange (db : Db) (requestId : String) (db' : Db) : Prop
  | opened {row : WithdrawalRow} (fresh : db.withdrawals.find? requestId = none)
      (stored : db'.withdrawals.find? requestId = some row)
      (isOpen : row.status = .pending ∨ row.status = .submitted)
      (debit : balanceChanges db db' = [(row.accountUserId, -row.amountCredits)])
  | submitted {row later : WithdrawalRow} (found : db.withdrawals.find? requestId = some row)
      (stored : db'.withdrawals.find? requestId = some later)
      (becomes : row.Becomes later) (isSubmitted : later.status = .submitted)
      (silent : balanceChanges db db' = [])
  | rejected {row later : WithdrawalRow} (found : db.withdrawals.find? requestId = some row)
      (isPending : row.status = .pending)
      (stored : db'.withdrawals.find? requestId = some later)
      (becomes : row.Becomes later) (isRejected : later.status = .rejected)
      (credit : balanceChanges db db' = [(row.accountUserId, row.amountCredits)])

theorem balanceChanges_wallet {account : AccountUserId} {wallet : AccountWalletRow} {amount : ℤ}
    (change : AccountWalletRow → AccountWalletRow)
    (found : db.accountWallets.find? account = some wallet)
    (result : db'.accountWallets = db.accountWallets.modify account change)
    (moved : (change wallet).balanceCredits = wallet.balanceCredits + amount) :
    balanceChanges db db' = if amount = 0 then [] else [(account, amount)] := by
  have stored : db'.accountWallets.find? account = some (change wallet) := by
    rw [result, find?_modify_self, found, map_some]
  rw [balanceChanges_of_one found stored, moved]
  · simp
  · intro other different
    rw [result, find?_modify_of_ne _ _ different]

theorem WithdrawalStep.requestChange (step : WithdrawalStep db requestId now entry db') :
    RequestChange db requestId db' := by
  cases step with
  | @reserved row wallet _ fresh isPending unsigned found =>
    refine .opened fresh (by simp [fresh]) (.inl isPending) ?_
    rw [balanceChanges_wallet (fun wallet => wallet.debitWithdrawal row.amountCredits
      row.amountUsdcCents false now) found rfl (sub_eq_add_neg _ _), if_neg]
    exact (neg_neg_of_pos row.creditsPos).ne
  | @burned row wallet _ _ txSignature fresh found =>
    have stored : ((db.withdrawals.insertOrIgnore requestId row).modify
        requestId fun row => row.submit txSignature now).find? requestId =
          some (row.submit txSignature now) := by
      simp [fresh]
    refine .opened fresh stored (.inr rfl) ?_
    rw [balanceChanges_wallet (fun wallet => wallet.debitWithdrawal row.amountCredits
      row.amountUsdcCents true now) found rfl (sub_eq_add_neg _ _), if_neg]
    · rfl
    · exact (neg_neg_of_pos row.creditsPos).ne
  | @finalized row _ _ txSignature found isPending hasWallet =>
    obtain ⟨wallet, foundWallet⟩ := isSome_iff_exists.mp hasWallet
    have becomes : row.Becomes (row.submit txSignature now) := ⟨rfl, rfl, rfl, isPending ▸ .submits⟩
    refine .submitted found (by simp [found]) becomes rfl ?_
    exact balanceChanges_wallet (fun wallet => wallet.finalizeWithdrawn
      row.amountUsdcCents now) foundWallet rfl (add_zero _).symm
  | @released row _ found isPending hasWallet =>
    obtain ⟨wallet, foundWallet⟩ := isSome_iff_exists.mp hasWallet
    have becomes : row.Becomes (row.reject now) := ⟨rfl, rfl, rfl, isPending ▸ .rejects⟩
    refine .rejected found isPending (by simp [found]) becomes rfl ?_
    rw [balanceChanges_wallet (fun wallet => wallet.releaseWithdrawal
      row.amountCredits row.amountUsdcCents now) foundWallet rfl rfl, if_neg row.creditsPos.ne']

theorem WithdrawalStep.find?_other (step : WithdrawalStep db requestId now entry db')
    (different : other ≠ requestId) : db'.withdrawals.find? other = db.withdrawals.find? other := by
  cases step with
  | reserved => simp [find?_insertOrIgnore, different]
  | burned => simp [find?_modify_of_ne, find?_insertOrIgnore, different]
  | finalized | released => exact find?_modify_of_ne _ _ different

/-! ## Requests along a run -/

/-- One committed call leaves a request as it is or takes a step of it. -/
theorem commit_request (keeps : call ≠ .resetGenesis) :
    ((commit (execute sha256) db call).withdrawals.find? requestId =
        db.withdrawals.find? requestId ∧
      (namesRequest requestId call = true →
        balanceChanges db (commit (execute sha256) db call) = [])) ∨
      (namesRequest requestId call = true ∧
        RequestChange db requestId (commit (execute sha256) db call)) := by
  refine commit_cases (.inl ⟨rfl, fun _ => balanceChanges_self db⟩) fun db' ran => ?_
  rcases execute_withdrawals ran keeps with
    ⟨named, kept⟩ | ⟨other, named, ⟨rfl, -⟩ | ⟨_, _, step, -⟩⟩
  · exact .inl ⟨by rw [kept], by simp [namesRequest, named]⟩
  · exact .inl ⟨rfl, fun _ => balanceChanges_self db'⟩
  · by_cases same : other = requestId
    · subst same
      exact .inr ⟨by simp [namesRequest, named], step.requestChange⟩
    · refine .inl ⟨step.find?_other (Ne.symm same), ?_⟩
      simp [namesRequest, named, same]

theorem commit_becomes (keeps : call ≠ .resetGenesis)
    (found : db.withdrawals.find? requestId = some row) :
    ∃ later, (commit (execute sha256) db call).withdrawals.find? requestId =
      some later ∧ row.Becomes later := by
  rcases @commit_request sha256 db call requestId keeps with
    ⟨same, -⟩ | ⟨-, change⟩
  · exact ⟨row, same.trans found, .refl row⟩
  · cases change with
    | opened fresh =>
      cases found.symm.trans fresh
    | submitted foundRow stored becomes | rejected foundRow _ stored becomes =>
      cases foundRow.symm.trans found
      exact ⟨_, stored, becomes⟩

theorem commit_opens (keeps : call ≠ .resetGenesis) (fresh : db.withdrawals.find? requestId = none)
    (stored : (commit (execute sha256) db call).withdrawals.find? requestId = some row) :
    row.status = .pending ∨ row.status = .submitted := by
  rcases @commit_request sha256 db call requestId keeps with
    ⟨same, -⟩ | ⟨-, change⟩
  · rw [same, fresh] at stored
    simp at stored
  · cases change with
    | opened _ storedRow isOpen =>
      cases storedRow.symm.trans stored
      exact isOpen
    | submitted found | rejected found =>
      cases fresh.symm.trans found

theorem runCalls_becomes (keeps : ∀ call ∈ calls, call ≠ .resetGenesis)
    (found : db.withdrawals.find? requestId = some row) :
    ∃ later, (runCalls sha256 db calls).withdrawals.find? requestId =
      some later ∧ row.Becomes later := by
  induction calls generalizing db row with
  | nil => exact ⟨row, found, .refl row⟩
  | cons call rest ih =>
    obtain ⟨middle, stored, first⟩ := commit_becomes (keeps call mem_cons_self) found
    obtain ⟨later, foundLater, second⟩ := ih (forall_mem_cons.mp keeps).2 stored
    exact ⟨later, foundLater, first.trans second⟩

/-! ## What a request does to the balance -/

/-- The balance changes between two states of a request: the debit when it is
opened, and the credit when it is rejected. -/
def requestEvents (before after : Option WithdrawalRow) : List (AccountUserId × ℤ) :=
  match after with
  | none => []
  | some row =>
    (if before.isNone then [(row.accountUserId, -row.amountCredits)]
      else []) ++
      if row.status = .rejected ∧
          before.map WithdrawalRow.status ≠ some .rejected then
        [(row.accountUserId, row.amountCredits)]
      else []

theorem requestEvents_self (row : Option WithdrawalRow) : requestEvents row row = [] := by
  cases row with
  | none => rfl
  | some row => simp [requestEvents]

/-- The changes of a step and those of the rest of the run make up the changes
of the whole run. -/
theorem RequestChange.events (change : RequestChange db requestId db')
    (becomes : ∀ row, db'.withdrawals.find? requestId = some row → row.Becomes final) :
    balanceChanges db db' ++ requestEvents (db'.withdrawals.find? requestId) (some final) =
      requestEvents (db.withdrawals.find? requestId) (some final) := by
  cases change with
  | @opened row fresh stored isOpen debit =>
    have later := becomes _ stored
    have notRejected : row.status ≠ .rejected := by
      rcases isOpen with isOpen | isOpen <;> simp [isOpen]
    rw [debit, stored, fresh]
    simp [requestEvents, later.account, later.credits, notRejected]
  | @submitted row submitted found stored first isSubmitted silent =>
    have later := becomes _ stored
    have staysSubmitted : final.status = .submitted :=
      (later.status.eq_of_ne_pending (by simp [isSubmitted])).trans isSubmitted
    rw [silent, stored, found]
    simp [requestEvents, staysSubmitted]
  | rejected found isPending stored first isRejected credit =>
    have later := becomes _ stored
    have staysRejected : final.status = .rejected :=
      (later.status.eq_of_ne_pending (by simp [isRejected])).trans isRejected
    have account := later.account.trans first.account
    have credits := later.credits.trans first.credits
    rw [credit, stored, found]
    simp [requestEvents, isRejected, isPending, staysRejected, account, credits]

theorem accountEvents_request (sha256 : String → String) (requestId : String) (db : Db)
    (keeps : ∀ call ∈ calls, call ≠ .resetGenesis) :
    (accountEvents sha256 (namesRequest requestId) db calls).map Prod.snd =
      requestEvents (db.withdrawals.find? requestId)
        ((runCalls sha256 db calls).withdrawals.find? requestId) := by
  induction calls generalizing db with
  | nil => exact (requestEvents_self _).symm
  | cons call rest ih =>
    have restKeeps : ∀ other ∈ rest, other ≠ .resetGenesis :=
      (forall_mem_cons.mp keeps).2
    have later := ih (commit (execute sha256) db call) restKeeps
    have runRest : runCalls sha256 db (call :: rest) =
        runCalls sha256 (commit (execute sha256) db call) rest := rfl
    rw [accountEvents_cons, map_append, later, runRest]
    rcases @commit_request sha256 db call requestId
      (keeps call mem_cons_self) with ⟨same, silent⟩ | ⟨named, change⟩
    · rw [same]
      split
      case isTrue named => simp [silent named]
      case isFalse => simp
    · -- the request is stored now, and what it becomes is found at the end
      obtain ⟨row, stored⟩ : ∃ row, (commit (execute sha256) db
          call).withdrawals.find? requestId = some row := by
        cases change with
        | opened _ stored | submitted _ stored | rejected _ _ stored => exact ⟨_, stored⟩
      obtain ⟨final, foundFinal, becomes⟩ := @runCalls_becomes sha256 _ _ _ _ restKeeps stored
      rw [if_pos named, foundFinal, ← change.events]
      · simp [Function.comp_def]
      · intro other foundOther
        cases stored.symm.trans foundOther
        exact becomes

/-! ## Signatures -/

def SignaturesUnique (db : Db) : Prop :=
  ∀ first second firstRow secondRow txSignature, db.withdrawals.find? first = some firstRow →
    db.withdrawals.find? second = some secondRow →
    firstRow.txSignature = some txSignature →
    secondRow.txSignature = some txSignature → first = second

/-- The row of the request after the step: it has the amounts of the entry, and
its signature is new or was its own. -/
theorem WithdrawalStep.stored (step : WithdrawalStep db requestId now entry db') :
    ∃ row, db'.withdrawals.find? requestId = some row ∧
      entry ∈ [.hold row.accountUserId row.amountCredits row.amountUsdcCents,
        .burn row.accountUserId row.amountCredits row.amountUsdcCents,
        .finalize row.accountUserId row.amountCredits row.amountUsdcCents,
        .release row.accountUserId row.amountCredits row.amountUsdcCents] ∧
      ∀ txSignature, row.txSignature = some txSignature →
        SignatureFree db requestId txSignature ∨
          ∃ before, db.withdrawals.find? requestId = some before ∧
            before.txSignature = some txSignature := by
  cases step with
  | @reserved row _ _ fresh _ unsigned =>
    exact ⟨row, by simp [fresh], by simp, fun _ signed => nomatch unsigned.symm.trans signed⟩
  | @burned row _ _ _ txSignature fresh _ _ _ _ free =>
    exact ⟨row.submit txSignature now, by simp [fresh], by simp [WithdrawalRow.submit],
      fun _ signed => .inl (some.inj signed ▸ free)⟩
  | @finalized row _ _ txSignature found _ _ _ _ free =>
    exact ⟨row.submit txSignature now, by simp [found], by simp [WithdrawalRow.submit],
      fun _ signed => .inl (some.inj signed ▸ free)⟩
  | @released row _ found =>
    exact ⟨row.reject now, by simp [found], by simp [WithdrawalRow.reject],
      fun _ signed => .inr ⟨row, found, signed⟩⟩

theorem WithdrawalStep.signaturesUnique (step : WithdrawalStep db requestId now entry db')
    (before : SignaturesUnique db) : SignaturesUnique db' := by
  have clash : ∀ other otherRow row txSignature, other ≠ requestId →
      db'.withdrawals.find? other = some otherRow →
      db'.withdrawals.find? requestId = some row →
      otherRow.txSignature = some txSignature →
      row.txSignature = some txSignature → False := by
    intro other otherRow row txSignature different foundOther found otherSigned signed
    rw [step.find?_other different] at foundOther
    obtain ⟨_, stored, -, signature⟩ := step.stored
    cases stored.symm.trans found
    rcases signature txSignature signed with free | ⟨_, foundBefore, kept⟩
    · exact free other otherRow foundOther different otherSigned
    · exact different (before _ _ _ _ _ foundOther foundBefore otherSigned kept)
  intro first second firstRow secondRow txSignature foundFirst foundSecond firstSigned secondSigned
  by_cases isFirst : first = requestId
  · by_cases isSecond : second = requestId
    · rw [isFirst, isSecond]
    · exact (clash second secondRow firstRow txSignature isSecond foundSecond
        (isFirst ▸ foundFirst) secondSigned firstSigned).elim
  · by_cases isSecond : second = requestId
    · exact (clash first firstRow secondRow txSignature isFirst foundFirst
        (isSecond ▸ foundSecond) firstSigned secondSigned).elim
    · rw [step.find?_other isFirst] at foundFirst
      rw [step.find?_other isSecond] at foundSecond
      exact before _ _ _ _ _ foundFirst foundSecond firstSigned secondSigned

theorem signaturesUnique_empty : SignaturesUnique Db.empty := by
  intro first second firstRow secondRow txSignature foundFirst
  simp [Db.empty] at foundFirst

theorem execute_signaturesUnique (before : SignaturesUnique db)
    (ran : execute sha256 db call = .ok db') : SignaturesUnique db' := by
  by_cases resets : call = .resetGenesis
  · subst resets
    cases execute_resetGenesis ran
    exact signaturesUnique_empty
  · rcases execute_withdrawals ran resets with
      ⟨-, kept⟩ | ⟨requestId, -, ⟨rfl, -⟩ | ⟨_, _, step, -⟩⟩
    · rw [SignaturesUnique, kept]
      exact before
    · exact before
    · exact step.signaturesUnique before

/-! ## Cents -/

def Db.usdcCents (db : Db) (accountUserId : AccountUserId) : ℤ :=
  ((db.accountWallets.find? accountUserId).map AccountWalletRow.usdcCents).getD 0

def Db.withdrawnCents (db : Db) (accountUserId : AccountUserId) : ℤ :=
  ((db.accountWallets.find? accountUserId).map AccountWalletRow.withdrawnUsdcCentsTotal).getD 0

def Db.requestCents (db : Db) (accountUserId : AccountUserId) (status : WithdrawalStatus) : ℤ :=
  db.withdrawals.sum fun _ row =>
    if row.accountUserId = accountUserId ∧ row.status = status then
      row.amountUsdcCents
    else 0

/-- The cents of a wallet less its deposits plus its open and paid
requests. -/
def usdcDrift (accountUserId : AccountUserId) : Book → ℤ
  | .usdc other | .pending other | .submitted other =>
    if other = accountUserId then 1 else 0
  | .deposited other => -(if other = accountUserId then 1 else 0)
  | _ => 0

def withdrawnDrift (accountUserId : AccountUserId) : Book → ℤ
  | .withdrawn other => if other = accountUserId then 1 else 0
  | .submitted other => -(if other = accountUserId then 1 else 0)
  | _ => 0

theorem weigh_usdcDrift (books : Books Book) : weigh (usdcDrift account) books =
      books (.usdc account) + books (.pending account) +
        books (.submitted account) - books (.deposited account) := by
  refine weigh_eq_of_single (Finsupp.applyAddHom (Book.usdc account) +
    Finsupp.applyAddHom (Book.pending account) +
    Finsupp.applyAddHom (Book.submitted account) -
    Finsupp.applyAddHom (Book.deposited account)) ?_ books
  intro book amount
  cases book <;> simp [usdcDrift, Finsupp.single_apply]

theorem weigh_withdrawnDrift (books : Books Book) : weigh (withdrawnDrift account) books =
      books (.withdrawn account) - books (.submitted account) := by
  refine weigh_eq_of_single (Finsupp.applyAddHom (Book.withdrawn account) -
    Finsupp.applyAddHom (Book.submitted account)) ?_ books
  intro book amount
  cases book <;> simp [withdrawnDrift, Finsupp.single_apply]

theorem Entry.total_usdcDrift (accountUserId : AccountUserId) (entry : Entry) :
    entry.journal.total (usdcDrift accountUserId) = 0 := by
  have earnings := total_creditAll (usdcDrift accountUserId) 0 (fun _ => rfl) (fun _ => rfl)
  cases entry with
  | deposit account | hold account | burn account | finalize account
  | release account =>
    by_cases same : account = accountUserId <;> simp [Entry.journal, usdcDrift, same]
  | _ => simp [Entry.journal, usdcDrift, earnings]

theorem Entry.total_withdrawnDrift (entry : Entry) :
    entry.journal.total (withdrawnDrift account) = 0 := by
  have earnings := total_creditAll (withdrawnDrift account) 0 (fun _ => rfl) (fun _ => rfl)
  cases entry <;> simp [Entry.journal, withdrawnDrift, earnings]

/-! ## The life cycle -/

/-- What is known about the withdrawals after a run that starts from a
database and ends in another. -/
structure WithdrawalsSettled
    (sha256 : String → String) (start : Db) (calls : List Call) : Prop where
  /-- A call that stores a new request stores it open or paid. -/
  opens : ∀ call requestId row, call ≠ .resetGenesis →
    (runCalls sha256 start calls).withdrawals.find? requestId = none →
    (commit (execute sha256) (runCalls sha256 start calls)
      call).withdrawals.find? requestId = some row →
    row.status = .pending ∨ row.status = .submitted
  /-- A stored request stays, and only a pending one moves. -/
  status : ∀ requestId row, start.withdrawals.find? requestId = some row →
    ∃ later, (runCalls sha256 start calls).withdrawals.find? requestId =
      some later ∧ row.Becomes later
  /-- The calls that name a request of the run take its amount once, and give
  it back once if it ends rejected. -/
  amounts : ∀ requestId, start.withdrawals.find? requestId = none →
    (accountEvents sha256 (namesRequest requestId) start calls).map Prod.snd =
      match (runCalls sha256 start calls).withdrawals.find? requestId with
      | none => []
      | some row =>
        if row.status = .rejected then
          [(row.accountUserId, -row.amountCredits), (row.accountUserId, row.amountCredits)]
        else [(row.accountUserId, -row.amountCredits)]
  /-- A request of an earlier run is not taken again, and is given back once if
  it was not rejected before. -/
  returns : ∀ requestId row, start.withdrawals.find? requestId = some row →
    (accountEvents sha256 (namesRequest requestId) start calls).map Prod.snd =
      if row.status ≠ .rejected ∧
          ((runCalls sha256 start calls).withdrawals.find? requestId).map
            WithdrawalRow.status = some .rejected then
        [(row.accountUserId, row.amountCredits)]
      else []
  signatures : SignaturesUnique (runCalls sha256 start calls)
  usdc : ∀ accountUserId, (runCalls sha256 start calls).usdcCents accountUserId =
      (runCalls sha256 start calls).depositedCents accountUserId -
        (runCalls sha256 start calls).requestCents accountUserId .pending -
        (runCalls sha256 start calls).requestCents accountUserId .submitted
  withdrawn : ∀ accountUserId, (runCalls sha256 start calls).withdrawnCents accountUserId =
      (runCalls sha256 start calls).requestCents accountUserId .submitted

section Answers

variable {requester : DeviceId} {req : AccountWithdrawalRequest} {fresh txSignature : String}
  {result : Db × AccountWithdrawalRecord} {intent : WithdrawalIntent} {wallet : AccountWalletRow}
  {signature : Option String}

/-! ## What a submission returns -/

/-- The record is that of the request, as it is stored. -/
structure WithdrawalIntent.AnsweredBy (intent : WithdrawalIntent) (signature : Option String)
    (result : Db × AccountWithdrawalRecord) : Prop where
  request : result.2.1 = intent.requestId
  destination : result.2.2.destinationAddress = intent.destinationAddress
  amount : result.2.2.amountUsdcCents = intent.amountUsdcCents
  signed : ∀ given, signature = some given → result.2.2.txSignature = some given
  stored : result.1.withdrawals.find? result.2.1 = some result.2.2

/-- The row stands below one with this time and id in the list of its account. -/
def WithdrawalRow.Below (row : WithdrawalRow) (createdAt : Timestamp) (withdrawalId : String) :
    Prop :=
  row.createdAt < createdAt ∨ createdAt = row.createdAt ∧ row.withdrawalId ≤ withdrawalId

theorem head?_listAccountWithdrawals {account : AccountUserId} {record : AccountWithdrawalRecord}
    (headed : (listAccountWithdrawals db account 1).head? = some record) :
    (record ∈ db.withdrawals.rows ∧ record.2.accountUserId = account) ∧
      ∀ other ∈ db.withdrawals.rows, other.2.accountUserId = account →
        other.2.Below record.2.createdAt record.2.withdrawalId := by
  rw [listAccountWithdrawals, head?_take, if_neg one_ne_zero] at headed
  have first := head?_insertionSort_filter headed (fun left right => by
    grind [String.le_total left.2.withdrawalId right.2.withdrawalId]) (by grind [String.le_trans])
  simpa only [decide_eq_true_eq, WithdrawalRow.Below] using first

theorem burnWithdrawal_answers {reserved : Bool}
    (ran : burnWithdrawal db intent wallet reserved txSignature now = .ok result)
    (found : db.withdrawals.find? intent.requestId = some row)
    (sameDestination : row.destinationAddress = intent.destinationAddress)
    (sameAmount : row.amountUsdcCents = intent.amountUsdcCents) :
    intent.AnsweredBy (some txSignature) result := by
  simp only [burnWithdrawal, ok_iff] at ran
  obtain ⟨_, -, -, paid, pay, record, stored, rfl⟩ := ran
  obtain ⟨-, -, _, _, -, -, rfl⟩ := finishWithdrawal_ok pay
  have isRecord : record = row.submit txSignature now := by
    simpa [updateWallet, found, eq_comm] using stored
  subst isRecord
  exact ⟨rfl, sameDestination, sameAmount, fun _ given => given, stored⟩

theorem submitIntent_answers_iff
    (ran : submitIntent db intent wallet signature fresh now = .ok result) :
    intent.AnsweredBy signature result ↔
    (db.withdrawals.find? intent.requestId = none → signature = none →
      ∀ other ∈ db.withdrawals.rows, other.2.accountUserId = intent.accountUserId →
        other.2.Below now fresh) := by
  unfold submitIntent at ran
  split at ran
  case h_1 row found =>
    refine iff_of_true ?_ (by simp [found])
    simp only [ok_iff] at ran
    obtain ⟨repeats, ran⟩ := ran
    simp only [WithdrawalIntent.repeats, Bool.not_eq_false, Bool.and_eq_true, beq_iff_eq] at repeats
    obtain ⟨⟨⟨-, sameDestination⟩, sameCents⟩, -⟩ := repeats
    split at ran
    case isTrue settled =>
      simp only [ok_iff, not_and_or, not_not] at ran
      obtain ⟨signed, rfl⟩ := ran
      refine ⟨rfl, sameDestination, sameCents, fun given isGiven => ?_, found⟩
      simp_all
    case isFalse pending =>
      split at ran
      · cases ran
        exact ⟨rfl, sameDestination, sameCents, by simp, found⟩
      · exact burnWithdrawal_answers ran found sameDestination sameCents
  case h_2 unused =>
    rw [bind_eq_ok] at ran
    obtain ⟨inserted, insert, ran⟩ := ran
    have idFree : ∀ other ∈ db.withdrawals.rows, other.2.withdrawalId ≠ fresh := by
      simp only [insertWithdrawal, ok_iff] at insert
      simpa using insert.1
    obtain ⟨-, positive, rfl⟩ := insertWithdrawal_ok insert
    cases signature with
    | none =>
      simp only [reserveWithdrawal, ok_iff] at ran
      obtain ⟨-, held, writeHold, record, headed, rfl⟩ := ran
      obtain ⟨-, rfl⟩ := appendAccountLedger_ok writeHold
      obtain ⟨⟨stored, own⟩, first⟩ := head?_listAccountWithdrawals headed
      simp only [updateWallet, rows_insertOrIgnore_of_fresh _ _ unused, mem_append,
        mem_singleton] at stored first
      constructor
      · rintro ⟨sameId, -, -, -, kept⟩ _ _ other listed ownOther
        have isNew : intent.row fresh now positive = record.2 := by
          rw [show record.1 = intent.requestId from sameId] at kept
          simpa [updateWallet, unused] using kept
        have below := first other (.inl listed) ownOther
        rwa [← isNew] at below
      · intro below
        rcases stored with listed | rfl
        · have older := below unused rfl record listed own
          have newer := first _ (.inr rfl) rfl
          simp only [WithdrawalRow.Below, WithdrawalIntent.row] at older newer
          grind [String.le_antisymm]
        · exact ⟨rfl, rfl, rfl, by simp, by simp [updateWallet, unused]⟩
    | some txSignature =>
      refine iff_of_true ?_ (by simp)
      have found : (db.withdrawals.insertOrIgnore intent.requestId
          (intent.row fresh now positive)).find? intent.requestId =
            some (intent.row fresh now positive) := by simp [unused]
      exact burnWithdrawal_answers ran found rfl rfl

/-- A submission returns its own request, except that a new request without a
signature is answered with the first withdrawal of the account's list. -/
theorem submitAccountWithdrawal_answers_iff (db : Db) (requester : DeviceId)
    (req : AccountWithdrawalRequest) (fresh : String) (now : Timestamp) :
    match submitAccountWithdrawal db requester req fresh now with
    | .error _ => True
    | .ok result => ∃ requestId destination account,
      normalizedOptionalString (some req.requestId) = some requestId ∧
      normalizedOptionalString (some req.destinationAddress) = some destination ∧
      db.accountUserIdForDevice requester = some account ∧
      ((req.intent requester account requestId destination).AnsweredBy
          (normalizedOptionalString req.txSignature) result ↔
        (db.withdrawals.find? requestId = none → normalizedOptionalString req.txSignature = none →
          ∀ other ∈ db.withdrawals.rows, other.2.accountUserId = account →
            other.2.Below now fresh)) := by
  split
  · trivial
  rename_i result ran
  simp only [submitAccountWithdrawal, ok_iff] at ran
  obtain ⟨requestId, named, destination, sent, -, loaded, load, -, credits, converted, -,
    submitted⟩ := ran
  obtain ⟨linked, -⟩ := loadRequesterWallet_ok load
  obtain rfl := creditsFromUsdcCents_ok converted
  exact ⟨requestId, destination, loaded.1, named, sent, linked, submitIntent_answers_iff submitted⟩

/-- Two withdrawals of one account in the same second: the second call is
answered with the record of the first. -/
theorem submitAccountWithdrawal_answers_older : ∃ result, submitAccountWithdrawal
      (runCalls id Db.empty [.linkDeviceToAccount "phone" "acct" {} 0,
        .recordAccountTreasuryDeposit "phone" "paid" 300 none "treasury" "d1" 1,
        .recordAccountOnchainDeposit "phone" ⟨some "wallet", none, none, none⟩ "d2" 1,
        .submitAccountWithdrawal "phone" ⟨"first", "dest", 100, none⟩ "wd_b" 5])
      "phone" ⟨"second", "dest", 200, none⟩ "wd_a" 5 = .ok result ∧
    result.2.1 = "first" ∧ result.2.2.amountUsdcCents = 100 := by
  exact ⟨_, rfl, rfl, rfl⟩

end Answers

end Teale.Gateway
