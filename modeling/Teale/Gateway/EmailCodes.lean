import Teale.Gateway.Frame

/-!
# The life of an email code

The calls that issue and check codes and magic links are observed as events on the rows of
`account_email_codes`; the table after a run reflects the list of events.
-/

namespace Teale.Gateway

open Relational Transactional List Relational.Table Db EmailCodeRow Option

variable {db : Db} {sha256 : String → String} {email : String} {now : Timestamp}
  {condition : EmailCodeRow → Bool}

/-! ## Events -/

inductive Channel
  | code
  | link
  deriving DecidableEq, Repr

inductive EmailEvent
  | issued (id email : String) (expiresAt : Timestamp)
  | failed (id : String)
  | accepted (id email : String) (channel : Channel) (now : Timestamp)
  deriving DecidableEq, Repr

def codeRow (db : Db) (email : String) : Option (String × EmailCodeRow) :=
  newestOpenCode db fun row => row.email = email

def linkRow (sha256 : String → String) (db : Db) (linkToken : String) :
    Option (String × EmailCodeRow) :=
  newestOpenCode db fun row => row.linkTokenHash = some (hashAccountSessionToken sha256 linkToken)

def emailEvent (sha256 : String → String) (db : Db) : Call → Option EmailEvent
  | .createAccountEmailCode email code linkToken id now =>
    (createAccountEmailCode sha256 db email code linkToken id
      now).toOption.map fun result => .issued id result.2.1 result.2.2
  | .verifyAccountEmailCode email code now => do
    let outcome ← (verifyAccountEmailCode sha256 db email code now).toOption
    let address ← normalizeAccountEmail email
    let row ← codeRow db address
    match outcome.2 with
    | .accepted _ => some (.accepted row.1 row.2.email .code now)
    | .invalidCode => some (.failed row.1)
  | .verifyAccountEmailLinkToken linkToken now => do
    let _ ← (verifyAccountEmailLinkToken sha256 db linkToken now).toOption
    let row ← linkRow sha256 db linkToken
    some (.accepted row.1 row.2.email .link now)
  | _ => none

def emailHistory (sha256 : String → String) : Db → List Call → List EmailEvent
  | _, [] => []
  | db, call :: calls =>
    (emailEvent sha256 db call).toList ++
      emailHistory sha256 (commit (execute sha256) db call) calls

theorem emailHistory_append (sha256 : String → String) (db : Db) (calls : List Call) (call : Call) :
    emailHistory sha256 db (calls ++ [call]) = emailHistory sha256 db calls ++
        (emailEvent sha256 (runCalls sha256 db calls) call).toList := by
  induction calls generalizing db with
  | nil => simp [emailHistory, runCalls]
  | cons head tail ih =>
    simp only [cons_append, emailHistory, ih, append_assoc]
    rfl

/-! ## The row a query selects -/

theorem newestOpenCode_some {entry : String × EmailCodeRow}
    (selected : newestOpenCode db condition = some entry) :
    db.emailCodes.find? entry.1 = some entry.2 ∧ condition entry.2 = true ∧
      entry.2.consumedAt = none ∧
      ∀ other ∈ db.emailCodes.rows, condition other.2 = true →
        other.2.consumedAt = none → other.2.createdAt ≤ entry.2.createdAt := by
  rw [newestOpenCode] at selected
  have first := head?_insertionSort_filter selected (fun _ _ => le_total _ _)
    fun _ _ _ later latest => le_trans latest later
  simpa only [← mem_rows_iff_find?, Bool.and_eq_true, isNone_iff_eq_none, and_imp, and_assoc]
    using first

theorem newestOpenCode_none (absent : newestOpenCode db condition = none) :
    ∀ other ∈ db.emailCodes.rows, condition other.2 = true → other.2.consumedAt ≠ none := by
  intro other stored holds isOpen
  have nothing : other ∉ (db.emailCodes.rows.filter fun row =>
      condition row.2 && row.2.consumedAt.isNone).insertionSort
        fun left right => right.2.createdAt ≤ left.2.createdAt := by
    rw [head?_eq_none_iff.mp absent]
    exact not_mem_nil
  apply nothing
  rw [mem_insertionSort, mem_filter]
  exact ⟨stored, by simp [holds, isOpen]⟩

/-! ## What one event does to the table -/

abbrev Codes := Table String EmailCodeRow

def Channel.attempts : Channel → ℤ
  | code => 1
  | link => 0

def EmailCodeRow.countFailure (row : EmailCodeRow) : EmailCodeRow :=
  { row with attempts := row.attempts + 1 }

def EmailCodeRow.consume (channel : Channel) (now : Timestamp)
    (row : EmailCodeRow) : EmailCodeRow :=
  { row with
    consumedAt := some now
    attempts := row.attempts + channel.attempts }

inductive CodeStep (codes : Codes) : EmailEvent → Codes → Prop
  | issued {id email : String} {expiresAt : Timestamp} {row : EmailCodeRow}
      (fresh : codes.find? id = none) (isEmail : row.email = email)
      (expires : row.expiresAt = expiresAt) (unused : row.attempts = 0)
      (isOpen : row.consumedAt = none)
      (spaced : ∀ other ∈ codes.rows, other.2.email = email →
        other.2.consumedAt = none → other.2.createdAt < row.createdAt) :
      CodeStep codes (.issued id email expiresAt) (codes.insertOrIgnore id row)
  | failed {id : String} {row : EmailCodeRow}
      (found : codes.find? id = some row) (isOpen : row.consumedAt = none) :
      CodeStep codes (.failed id) (codes.modify id countFailure)
  | accepted {id : String} {row : EmailCodeRow} {channel : Channel} {now : Timestamp}
      (found : codes.find? id = some row) (isOpen : row.consumedAt = none)
      (inTime : now ≤ row.expiresAt)
      (limited : channel = .code → row.attempts < emailCodeMaxAttempts) :
      CodeStep codes (.accepted id row.email channel now)
        (codes.modify id (consume channel now))

variable {code : String} (row : EmailCodeRow)

theorem createAccountEmailCode_step {linkToken : Option String} {id : String}
    {result : Db × String × Timestamp}
    (ran : createAccountEmailCode sha256 db email code linkToken id now = .ok result) :
    CodeStep db.emailCodes (.issued id result.2.1 result.2.2) result.1.emailCodes := by
  simp only [createAccountEmailCode, ok_iff] at ran
  obtain ⟨address, -, waited, fresh, rfl⟩ := ran
  apply CodeStep.issued
  case fresh => simpa using fresh
  case isEmail => rfl
  case expires => rfl
  case unused => rfl
  case isOpen => rfl
  intro other stored sameEmail isOpen
  cases newest : newestOpenCode db fun row => row.email = address with
  | none => exact absurd isOpen (newestOpenCode_none newest other stored (by simpa using sameEmail))
  | some entry =>
    have latest := (newestOpenCode_some newest).2.2.2 other stored (by simpa using sameEmail) isOpen
    simp only [newest, any_some, decide_eq_true_eq, not_lt] at waited
    have positive : 0 < emailCodeResendWindowSeconds := by decide
    calc other.2.createdAt ≤ entry.2.createdAt := latest
      _ < now := sub_pos.mp (positive.trans_le waited)

theorem verifyAccountEmailCode_step {result : Db × EmailCheck}
    (ran : verifyAccountEmailCode sha256 db email code now = .ok result) :
    ∃ event, emailEvent sha256 db (.verifyAccountEmailCode email code now) =
      some event ∧ CodeStep db.emailCodes event result.1.emailCodes := by
  have called := ran
  simp only [verifyAccountEmailCode, ok_iff] at ran
  obtain ⟨address, normalized, -, row, selected, inTime, limited, ran⟩ := ran
  obtain ⟨found, -, isOpen, -⟩ := newestOpenCode_some selected
  have isRow : codeRow db address = some row := selected
  split at ran
  case isTrue =>
    cases ran
    refine ⟨.accepted row.1 row.2.email .code now, ?_, ?_⟩
    · simp [emailEvent, called, Except.toOption, normalized, isRow]
    · exact .accepted found isOpen (not_lt.mp inTime) fun _ => not_le.mp limited
  case isFalse =>
    cases ran
    refine ⟨.failed row.1, ?_, .failed found isOpen⟩
    simp [emailEvent, called, Except.toOption, normalized, isRow]

theorem verifyAccountEmailLinkToken_step {linkToken : String} {result : Db × String}
    (ran : verifyAccountEmailLinkToken sha256 db linkToken now = .ok result) :
    ∃ event, emailEvent sha256 db (.verifyAccountEmailLinkToken linkToken now) =
      some event ∧ CodeStep db.emailCodes event result.1.emailCodes := by
  have called := ran
  simp only [verifyAccountEmailLinkToken, ok_iff] at ran
  obtain ⟨row, selected, inTime, rfl⟩ := ran
  obtain ⟨found, -, isOpen, -⟩ := newestOpenCode_some selected
  have isRow : linkRow sha256 db linkToken = some row := selected
  refine ⟨.accepted row.1 row.2.email .link now, ?_, ?_⟩
  · simp [emailEvent, called, Except.toOption, isRow]
  · have step : CodeStep db.emailCodes (.accepted row.1 row.2.email .link now) _ :=
      .accepted found isOpen (not_lt.mp inTime) (by simp)
    have plain : consume .link now = fun current =>
        { current with consumedAt := some now } := by
      funext current
      simp [consume, Channel.attempts]
    rwa [plain] at step

/-- Every call leaves the codes as they are or takes the step of its event. -/
theorem emailEvent_cases (sha256 : String → String) (db : Db) (call : Call) :
    (emailEvent sha256 db call = none ∧
        (commit (execute sha256) db call).emailCodes = db.emailCodes) ∨
      ∃ event, emailEvent sha256 db call = some event ∧ CodeStep db.emailCodes event
          (commit (execute sha256) db call).emailCodes := by
  cases ran : execute sha256 db call with
  | error failure =>
    rw [commit_of_error ran]
    refine .inl ⟨?_, rfl⟩
    cases call with
    | createAccountEmailCode | verifyAccountEmailCode | verifyAccountEmailLinkToken =>
      simp [emailEvent, map_eq_error.mp ran, Except.toOption]
    | _ => rfl
  | ok db' =>
    rw [commit_of_ok ran]
    cases call with
    | createAccountEmailCode email code linkToken id now =>
      obtain ⟨result, called, rfl⟩ := map_eq_ok.mp ran
      refine .inr ⟨_, ?_, createAccountEmailCode_step called⟩
      simp [emailEvent, called, Except.toOption]
    | verifyAccountEmailCode =>
      obtain ⟨_, called, rfl⟩ := map_eq_ok.mp ran
      exact .inr (verifyAccountEmailCode_step called)
    | verifyAccountEmailLinkToken =>
      obtain ⟨_, called, rfl⟩ := map_eq_ok.mp ran
      exact .inr (verifyAccountEmailLinkToken_step called)
    | _ =>
      refine .inl ⟨rfl, (execute_within ran).read (·.emailCodes) fun _ => ?_⟩
      first | rfl | simp [without, writes]

/-! ## Rows over one event -/

structure EmailCodeRow.Becomes (row later : EmailCodeRow) : Prop where
  email : later.email = row.email
  createdAt : later.createdAt = row.createdAt
  expiresAt : later.expiresAt = row.expiresAt
  isOpen : later.consumedAt = none → row.consumedAt = none

theorem EmailCodeRow.Becomes.refl : row.Becomes row := ⟨rfl, rfl, rfl, id⟩

theorem EmailCodeRow.becomes_countFailure : row.Becomes row.countFailure :=
  ⟨rfl, rfl, rfl, fun isOpen => isOpen⟩

theorem EmailCodeRow.becomes_consume (channel : Channel) (now : Timestamp) (row : EmailCodeRow) :
    row.Becomes (row.consume channel now) :=
  ⟨rfl, rfl, rfl, fun isOpen => by simp [consume] at isOpen⟩

namespace CodeStep

variable {codes codes' : Codes} {event : EmailEvent}

theorem becomes (step : CodeStep codes event codes') {id : String} {row : EmailCodeRow}
    (found : codes.find? id = some row) :
    ∃ later, codes'.find? id = some later ∧ row.Becomes later ∧
      (later.consumedAt = none → later.attempts = row.attempts + [event].count (.failed id)) := by
  cases step with
  | @issued fresh =>
    refine ⟨row, ?_, .refl row, by simp⟩
    rw [find?_insertOrIgnore, if_neg, found]
    rintro rfl
    simp_all
  | @failed other stored isStored isOpen =>
    by_cases same : id = other
    · subst same
      refine ⟨row.countFailure, ?_, row.becomes_countFailure, ?_⟩
      · rw [find?_modify_self, found, map_some]
      · simp [countFailure]
    · refine ⟨row, by rw [find?_modify_of_ne _ _ same, found], .refl row, ?_⟩
      simp [Ne.symm same]
  | @accepted other stored channel now isStored isOpen =>
    by_cases same : id = other
    · subst same
      refine ⟨row.consume channel now, ?_, row.becomes_consume channel now, ?_⟩
      · rw [find?_modify_self, found, map_some]
      · simp [consume]
    · refine ⟨row, by rw [find?_modify_of_ne _ _ same, found], .refl row, by simp⟩

theorem origin (step : CodeStep codes event codes') {id : String} {later : EmailCodeRow}
    (found : codes'.find? id = some later) :
    (codes.find? id = none ∧ event = .issued id later.email later.expiresAt ∧ later.attempts = 0) ∨
      ∃ row, codes.find? id = some row := by
  cases step with
  | @issued other email expiresAt row fresh isEmail expires unused =>
    rw [find?_insertOrIgnore] at found
    by_cases same : id = other
    · subst same
      rw [if_pos rfl, fresh, getD_none] at found
      cases found
      exact .inl ⟨fresh, by rw [isEmail, expires], unused⟩
    · rw [if_neg same] at found
      exact .inr ⟨later, found⟩
  | failed | accepted =>
    rw [find?_modify] at found
    split at found
    · obtain ⟨row, present, -⟩ := map_eq_some_iff.mp found
      exact .inr ⟨row, present⟩
    · exact .inr ⟨later, found⟩

theorem find?_issued {id : String} {expiresAt : Timestamp}
    (step : CodeStep codes (.issued id email expiresAt) codes') :
    codes.find? id = none ∧ ∃ row, codes'.find? id = some row ∧
      row.email = email ∧ row.expiresAt = expiresAt := by
  cases step with
  | issued fresh isEmail expires =>
    refine ⟨fresh, _, ?_, isEmail, expires⟩
    rw [find?_insertOrIgnore_self, fresh, getD_none]

theorem find?_accepted {id : String} {channel : Channel}
    (step : CodeStep codes (.accepted id email channel now) codes') :
    ∃ row, codes.find? id = some row ∧ row.email = email ∧
      row.consumedAt = none ∧ now ≤ row.expiresAt ∧
      (channel = .code → row.attempts < emailCodeMaxAttempts) ∧
      ∃ later, codes'.find? id = some later ∧ later.consumedAt ≠ none := by
  cases step with
  | @accepted _ row _ _ found isOpen inTime limited =>
    refine ⟨row, found, rfl, isOpen, inTime, limited, row.consume channel now, ?_, ?_⟩
    · rw [find?_modify_self, found, map_some]
    · simp [consume]

end CodeStep

/-! ## The table reflects the events -/

structure Reflects (codes : Codes) (past : List EmailEvent) : Prop where
  issued : ∀ id email expiresAt, .issued id email expiresAt ∈ past ↔
    ∃ row, codes.find? id = some row ∧ row.email = email ∧ row.expiresAt = expiresAt
  accepted : ∀ id email channel now, .accepted id email channel now ∈ past →
    ∃ row, codes.find? id = some row ∧ row.consumedAt ≠ none
  failed : ∀ id, .failed id ∈ past → codes.find? id ≠ none
  attempts : ∀ id row, codes.find? id = some row → row.consumedAt = none →
    row.attempts = past.count (.failed id)

theorem reflects_empty : Reflects ∅ [] where
  issued := by simp
  accepted := by simp
  failed := by simp
  attempts := by simp

variable {past : List EmailEvent} {change : EmailCodeRow → EmailCodeRow}

theorem append_singleton_eq_iff {α : Type} {past before after : List α} {new event : α} :
    past ++ [new] = before ++ event :: after ↔ (before = past ∧ event = new ∧ after = []) ∨
        ∃ rest, after = rest ++ [new] ∧ past = before ++ event :: rest := by
  constructor
  · intro same
    rcases eq_nil_or_concat after with rfl | ⟨rest, last, rfl⟩
    · obtain ⟨rfl, isNew⟩ := append_inj' same rfl
      exact .inl ⟨rfl, (singleton_inj.mp isNew).symm, rfl⟩
    · have longer : past ++ [new] = (before ++ event :: rest) ++ [last] := by simpa using same
      obtain ⟨rfl, isNew⟩ := append_inj' longer rfl
      rw [singleton_inj.mp isNew]
      exact .inr ⟨rest, by simp, rfl⟩
  · rintro (⟨rfl, rfl, rfl⟩ | ⟨rest, rfl, rfl⟩) <;> simp

section Steps

variable (reflects : Reflects codes past) (took : CodeStep codes event codes')

include reflects took

theorem Reflects.step : Reflects codes' (past ++ [event]) where
  issued id email expiresAt := by
    rw [mem_append, mem_singleton, reflects.issued]
    constructor
    · rintro (⟨row, found, rfl, rfl⟩ | rfl)
      · obtain ⟨later, foundLater, becomes, -⟩ := took.becomes found
        exact ⟨later, foundLater, becomes.email, becomes.expiresAt⟩
      · exact took.find?_issued.2
    · rintro ⟨later, foundLater, rfl, rfl⟩
      rcases took.origin foundLater with ⟨-, isIssued, -⟩ | ⟨row, found⟩
      · exact .inr isIssued.symm
      · obtain ⟨_, again, becomes, -⟩ := took.becomes found
        cases foundLater.symm.trans again
        exact .inl ⟨row, found, becomes.email.symm, becomes.expiresAt.symm⟩
  accepted id email channel now member := by
    rcases mem_append.mp member with earlier | new
    · obtain ⟨row, found, consumed⟩ := reflects.accepted id email channel now earlier
      obtain ⟨later, foundLater, becomes, -⟩ := took.becomes found
      exact ⟨later, foundLater, fun isOpen => consumed (becomes.isOpen isOpen)⟩
    · obtain rfl := mem_singleton.mp new
      obtain ⟨_, _, _, _, _, _, later, foundLater, consumed⟩ := took.find?_accepted
      exact ⟨later, foundLater, consumed⟩
  failed id member := by
    have known : codes.find? id ≠ none := by
      rcases mem_append.mp member with earlier | new
      · exact reflects.failed id earlier
      · obtain rfl := mem_singleton.mp new
        cases took with
        | failed found => simp [found]
    obtain ⟨row, found⟩ := ne_none_iff_exists'.mp known
    obtain ⟨later, foundLater, -⟩ := took.becomes found
    simp [foundLater]
  attempts id later foundLater isOpen := by
    rw [count_append, Nat.cast_add]
    rcases took.origin foundLater with ⟨fresh, rfl, unused⟩ | ⟨row, found⟩
    · have never : past.count (.failed id) = 0 :=
        count_eq_zero.mpr fun member => reflects.failed id member fresh
      simp [never, unused]
    · obtain ⟨_, again, becomes, counted⟩ := took.becomes found
      cases foundLater.symm.trans again
      rw [counted isOpen, reflects.attempts id row found (becomes.isOpen isOpen)]

/-! ## What holds of every history -/

def EmailEvent.acceptedId : EmailEvent → Option String
  | accepted id _ _ _ => some id
  | _ => none

def AcceptedOnce (past : List EmailEvent) : Prop := (past.filterMap EmailEvent.acceptedId).Nodup

/-- What is accepted was issued and has not expired; a code has been missed
fewer than five times. -/
def WithinLimits (past : List EmailEvent) : Prop :=
  ∀ before after id email channel now, past = before ++ .accepted id email channel now :: after →
    (∃ expiresAt, .issued id email expiresAt ∈ before) ∧
      (∀ address expiresAt, .issued id address expiresAt ∈ before → now ≤ expiresAt) ∧
      (channel = .code → before.count (.failed id) < 5)

theorem AcceptedOnce.step (once : AcceptedOnce past) : AcceptedOnce (past ++ [event]) := by
  unfold AcceptedOnce at once ⊢
  cases event with
  | issued | failed =>
    rw [filterMap_append]
    exact (append_nil _).symm ▸ once
  | accepted id email channel now =>
    obtain ⟨row, found, -, isOpen, -⟩ := took.find?_accepted
    have new : id ∉ past.filterMap EmailEvent.acceptedId := by
      intro member
      obtain ⟨event, earlier, isId⟩ := mem_filterMap.mp member
      cases event with
      | issued | failed => simp [EmailEvent.acceptedId] at isId
      | accepted other address via time =>
        obtain rfl := some.inj isId
        obtain ⟨_, again, consumed⟩ := reflects.accepted other address via time earlier
        cases found.symm.trans again
        exact consumed isOpen
    rw [filterMap_append, nodup_append_comm]
    exact nodup_cons.mpr ⟨new, once⟩

theorem WithinLimits.step (limits : WithinLimits past) : WithinLimits (past ++ [event]) := by
  intro before after id email channel now split
  rcases append_singleton_eq_iff.mp split with ⟨rfl, rfl, -⟩ | ⟨rest, -, earlier⟩
  · obtain ⟨row, found, isEmail, isOpen, inTime, limited, -⟩ := took.find?_accepted
    refine ⟨⟨row.expiresAt, ?_⟩, ?_, ?_⟩
    · exact (reflects.issued id email row.expiresAt).mpr ⟨row, found, isEmail, rfl⟩
    · intro address expiresAt isIssued
      obtain ⟨_, again, -, rfl⟩ := (reflects.issued id address expiresAt).mp isIssued
      cases found.symm.trans again
      exact inTime
    · intro isCode
      have few := limited isCode
      rw [reflects.attempts id row found isOpen, emailCodeMaxAttempts] at few
      exact_mod_cast few
  · exact limits before rest id email channel now earlier

end Steps

/-! ## The code issued last -/

/-- The row issued last for an address; rows are kept in the order they were
inserted in. -/
def latestCode (codes : Codes) (email : String) : Option (String × EmailCodeRow) :=
  (codes.rows.filter fun row => row.2.email = email).getLast?

def Live (codes : Codes) (id email : String) : Prop :=
  ∃ row, latestCode codes email = some (id, row) ∧ row.consumedAt = none

theorem latestCode_insertOrIgnore {id : String} (fresh : codes.find? id = none) (email : String) :
    latestCode (codes.insertOrIgnore id row) email =
      if row.email = email then some (id, row) else latestCode codes email := by
  unfold latestCode
  rw [rows_insertOrIgnore_of_fresh codes row fresh, filter_append]
  by_cases same : row.email = email <;> simp [same]

theorem latestCode_modify (codes : Codes) (id : String)
    (sameEmail : ∀ row, (change row).email = row.email) (email : String) :
    latestCode (codes.modify id change) email = (latestCode codes email).map fun entry =>
        (entry.1, if entry.1 = id then change entry.2 else entry.2) := by
  unfold latestCode Table.modify update
  rw [List.filter_map, getLast?_map]
  congr 2
  refine filter_congr fun entry _ => ?_
  simp only [Function.comp_apply]
  split
  · rw [sameEmail]
  · rfl

theorem Live.of_modify {key id : String} (becomes : ∀ row : EmailCodeRow, row.Becomes (change row))
    (live : Live (codes.modify key change) id email) : Live codes id email := by
  obtain ⟨later, latest, isOpen⟩ := live
  rw [latestCode_modify codes key fun row => (becomes row).email] at latest
  obtain ⟨entry, found, shown⟩ := map_eq_some_iff.mp latest
  obtain ⟨rfl, rfl⟩ := Prod.mk.inj shown
  refine ⟨entry.2, found, ?_⟩
  split at isOpen
  · exact (becomes entry.2).isOpen isOpen
  · exact isOpen

theorem CodeStep.live {id : String}
    (step : CodeStep codes event codes') (known : codes.find? id ≠ none)
    (live : Live codes' id email) : Live codes id email := by
  cases step with
  | @issued other _ _ row fresh =>
    obtain ⟨later, latest, isOpen⟩ := live
    rw [latestCode_insertOrIgnore row fresh] at latest
    split at latest
    · obtain ⟨rfl, -⟩ := Prod.mk.inj (some.inj latest)
      exact absurd fresh known
    · exact ⟨later, latest, isOpen⟩
  | failed => exact live.of_modify becomes_countFailure
  | accepted => exact live.of_modify (becomes_consume _ _)

/-- The event issues a code for the address or is a successful verification
for it. -/
def EmailEvent.Renews (email : String) : EmailEvent → Prop
  | issued _ address _ => address = email
  | failed _ => False
  | accepted _ address _ _ => address = email

/-- Once a newer code has been issued for an address, or a verification for it
has succeeded, nothing issued for the address before is accepted. -/
def Superseded (past : List EmailEvent) : Prop :=
  ∀ before event after id email expiresAt, past = before ++ event :: after →
    event.Renews email → .issued id email expiresAt ∈ before →
    ∀ address channel now, .accepted id address channel now ∉ after

def Retired (codes : Codes) (past : List EmailEvent) : Prop :=
  ∀ before event after id email expiresAt, past = before ++ event :: after →
    event.Renews email → .issued id email expiresAt ∈ before →
    ¬ Live codes id email

def EmailEvent.AcceptsLive (codes : Codes) : EmailEvent → Prop
  | accepted id email _ _ => Live codes id email
  | _ => True

theorem Retired.step (retired : Retired codes past) (reflects : Reflects codes past)
    (acceptsLive : event.AcceptsLive codes)
    (step : CodeStep codes event codes') : Retired codes' (past ++ [event]) := by
  intro before renewing after id email expiresAt split renews isIssued live
  have cases := append_singleton_eq_iff.mp split
  have known : codes.find? id ≠ none := by
    have inPast : .issued id email expiresAt ∈ past := by
      rcases cases with ⟨rfl, -⟩ | ⟨_, -, rfl⟩ <;> simp [isIssued]
    obtain ⟨row, found, -⟩ := (reflects.issued id email expiresAt).mp inPast
    simp [found]
  rcases cases with ⟨rfl, rfl, -⟩ | ⟨rest, -, earlier⟩
  · cases step with
    | @issued other _ _ new fresh named =>
      obtain ⟨later, latest, -⟩ := live
      rw [latestCode_insertOrIgnore new fresh, if_pos (named.trans renews)] at latest
      obtain ⟨rfl, -⟩ := Prod.mk.inj (some.inj latest)
      exact known fresh
    | failed => exact renews
    | @accepted other stored channel now =>
      obtain ⟨later, latest, isOpen⟩ := live
      obtain ⟨current, wasLatest, -⟩ := acceptsLive
      rw [latestCode_modify codes other
        fun row => (row.becomes_consume channel now).email, ← renews,
        wasLatest, map_some, if_pos rfl] at latest
      obtain ⟨-, rfl⟩ := Prod.mk.inj (some.inj latest)
      simp [consume] at isOpen
  · exact retired before renewing rest id email expiresAt earlier renews
      isIssued (step.live known live)

theorem Superseded.step (superseded : Superseded past) (retired : Retired codes past)
    (reflects : Reflects codes past) (acceptsLive : event.AcceptsLive codes)
    (step : CodeStep codes event codes') : Superseded (past ++ [event]) := by
  intro before renewing after id email expiresAt split renews isIssued address
    channel now isAccepted
  rcases append_singleton_eq_iff.mp split with ⟨-, -, rfl⟩ | ⟨rest, rfl, earlier⟩
  · exact not_mem_nil isAccepted
  · rcases mem_append.mp isAccepted with old | new
    · exact superseded before renewing rest id email expiresAt earlier renews
        isIssued address channel now old
    · obtain rfl := mem_singleton.mp new
      obtain ⟨row, found, isEmail, -⟩ :=
        (reflects.issued id email expiresAt).mp (by simp [earlier, isIssued])
      obtain ⟨_, again, isAddress, -⟩ := step.find?_accepted
      cases found.symm.trans again
      obtain rfl := isEmail.symm.trans isAddress
      exact retired before renewing rest id _ expiresAt earlier renews isIssued acceptsLive

/-! ## Checking only the code issued last -/

/-- Of two codes for one address the earlier one is consumed or was created
earlier. -/
def Spaced (codes : Codes) : Prop := codes.rows.Pairwise fun earlier later =>
    earlier.2.email = later.2.email → earlier.2.consumedAt = none →
      earlier.2.createdAt < later.2.createdAt

theorem Spaced.modify (spaced : Spaced codes) (key : String)
    (becomes : ∀ row : EmailCodeRow, row.Becomes (change row)) :
    Spaced (codes.modify key change) := by
  have evolves : ∀ entry : String × EmailCodeRow,
      entry.2.Becomes (if entry.1 = key then change entry.2 else entry.2) := by
    intro entry
    split
    · exact becomes entry.2
    · exact .refl entry.2
  refine pairwise_map.mpr (spaced.imp ?_)
  intro earlier later apart sameEmail isOpen
  rw [(evolves earlier).email, (evolves later).email] at sameEmail
  rw [(evolves earlier).createdAt, (evolves later).createdAt]
  exact apart sameEmail ((evolves earlier).isOpen isOpen)

theorem Spaced.step (spaced : Spaced codes)
    (step : CodeStep codes event codes') : Spaced codes' := by
  cases step with
  | @issued _ _ _ row fresh isEmail _ _ _ apart =>
    rw [Spaced, rows_insertOrIgnore_of_fresh codes row fresh, pairwise_append]
    refine ⟨spaced, pairwise_singleton _ _, ?_⟩
    intro other stored new isNew sameEmail isOpen
    obtain rfl := mem_singleton.mp isNew
    exact apart other stored (sameEmail.trans isEmail) isOpen
  | failed => exact spaced.modify _ becomes_countFailure
  | accepted => exact spaced.modify _ (becomes_consume _ _)

/-- While the code issued last for an address is open, it is the one a code is
compared with. -/
theorem codeRow_eq_latestCode {entry last : String × EmailCodeRow}
    (spaced : Spaced db.emailCodes) (selected : codeRow db email = some entry)
    (latest : latestCode db.emailCodes email = some last)
    (isOpen : last.2.consumedAt = none) : entry = last := by
  obtain ⟨stored, isEmail, entryOpen, newest⟩ := newestOpenCode_some selected
  simp only [decide_eq_true_eq] at isEmail newest
  obtain ⟨front, split⟩ := getLast?_eq_some_iff.mp latest
  have listed : ∀ other, other ∈ front ++ [last] ↔
      other ∈ db.emailCodes.rows ∧ other.2.email = email := by
    intro other
    rw [← split, mem_filter, decide_eq_true_eq]
  obtain ⟨lastStored, lastEmail⟩ := (listed last).mp (by simp)
  rcases mem_append.mp ((listed entry).mpr ⟨mem_rows_iff_find?.mpr stored, isEmail⟩) with
    before | isLast
  · have apart : (front ++ [last]).Pairwise fun earlier later =>
        earlier.2.email = later.2.email → earlier.2.consumedAt = none →
          earlier.2.createdAt < later.2.createdAt := by
      rw [← split]
      exact spaced.filter _
    have earlier := (pairwise_append.mp apart).2.2 entry before last
      (mem_singleton_self last) (isEmail.trans lastEmail.symm) entryOpen
    exact absurd (newest last lastStored lastEmail isOpen) (not_le.mpr earlier)
  · exact mem_singleton.mp isLast

/-- A code is checked for an address only while the code issued last for it is
open, and a link is followed only if it was issued last for its address, unless
what is found has expired. -/
def Call.ChecksLatest (sha256 : String → String) (db : Db) : Call → Prop
  | .verifyAccountEmailCode email _ now =>
    ∀ address, normalizeAccountEmail email = some address →
      (∃ entry ∈ db.emailCodes.rows, entry.2.email = address ∧
        entry.2.consumedAt = none ∧ now ≤ entry.2.expiresAt) →
      ∃ last, latestCode db.emailCodes address = some last ∧ last.2.consumedAt = none
  | .verifyAccountEmailLinkToken linkToken now =>
    ∀ entry, linkRow sha256 db linkToken = some entry → now ≤ entry.2.expiresAt →
      (latestCode db.emailCodes entry.2.email).map Prod.fst = some entry.1
  | _ => True

theorem acceptsLive_of_checksLatest {call : Call}
    (spaced : Spaced db.emailCodes) (checks : call.ChecksLatest sha256 db)
    (happens : emailEvent sha256 db call = some event)
    (step : CodeStep db.emailCodes event codes') : event.AcceptsLive db.emailCodes := by
  cases call with
  | verifyAccountEmailCode email code now =>
    simp only [emailEvent, bind_eq_bind, bind_eq_some_iff] at happens
    obtain ⟨outcome, -, address, normalized, row, selected, happens⟩ := happens
    split at happens
    · cases happens
      obtain ⟨storedRow, isEmail, isOpen, -⟩ := newestOpenCode_some selected
      have isAddress : row.2.email = address := by simpa using isEmail
      obtain ⟨_, found, -, -, inTime, -⟩ := step.find?_accepted
      obtain rfl := some.inj (storedRow.symm.trans found)
      obtain ⟨last, latest, lastOpen⟩ := checks address normalized
        ⟨row, mem_rows_iff_find?.mpr storedRow, isAddress, isOpen, inTime⟩
      obtain rfl := codeRow_eq_latestCode spaced selected latest lastOpen
      rw [← isAddress] at latest
      exact ⟨row.2, latest, isOpen⟩
    · cases happens
      trivial
  | verifyAccountEmailLinkToken linkToken now =>
    simp only [emailEvent, bind_eq_bind, bind_eq_some_iff] at happens
    obtain ⟨_, -, row, selected, happens⟩ := happens
    cases happens
    obtain ⟨storedRow, -, isOpen, -⟩ := newestOpenCode_some selected
    obtain ⟨_, found, -, -, inTime, -⟩ := step.find?_accepted
    cases storedRow.symm.trans found
    obtain ⟨last, latest, sameId⟩ := map_eq_some_iff.mp (checks row selected inTime)
    have lastStored := mem_rows_iff_find?.mp
      (mem_filter.mp (mem_of_getLast? latest)).1
    rw [sameId] at lastStored
    obtain same := some.inj (lastStored.symm.trans storedRow)
    refine ⟨last.2, ?_, ?_⟩
    · rw [latest, ← sameId]
    · rw [same, isOpen]
  | createAccountEmailCode email code linkToken id now =>
    simp only [emailEvent, map_eq_some_iff] at happens
    obtain ⟨_, -, rfl⟩ := happens
    trivial
  | _ => simp [emailEvent] at happens

/-! ## Runs -/

structure Observed (codes : Codes) (past : List EmailEvent) : Prop where
  reflects : Reflects codes past
  spaced : Spaced codes
  once : AcceptedOnce past
  limits : WithinLimits past

theorem observed_empty : Observed ∅ [] where
  reflects := reflects_empty
  spaced := List.Pairwise.nil
  once := List.nodup_nil
  limits := by simp [WithinLimits]

theorem Observed.step (observed : Observed codes past) (step : CodeStep codes event codes') :
    Observed codes' (past ++ [event]) where
  reflects := observed.reflects.step step
  spaced := observed.spaced.step step
  once := observed.once.step observed.reflects step
  limits := observed.limits.step observed.reflects step

def sendCode (code linkToken id : String) (now : Timestamp) : Call :=
  .createAccountEmailCode "pilot@example.com" code (some linkToken) id now

def enterCode (code : String) (now : Timestamp) : Call :=
  .verifyAccountEmailCode "pilot@example.com" code now

theorem checksLatest_code (latest : ((latestCode db.emailCodes "pilot@example.com").any fun last =>
      last.2.consumedAt.isNone) = true) : (enterCode code now).ChecksLatest sha256 db := by
  intro address normalized _
  have isAddress : normalizeAccountEmail "pilot@example.com" =
      some "pilot@example.com" := by decide +kernel
  cases isAddress.symm.trans normalized
  cases found : latestCode db.emailCodes "pilot@example.com" with
  | none => simp [found] at latest
  | some last => exact ⟨last, rfl, by simpa [found] using latest⟩

theorem checksLatest_link (id email : String)
    (selected : (linkRow sha256 db linkToken).map (fun entry =>
      (entry.1, entry.2.email)) = some (id, email))
    (latest : (latestCode db.emailCodes email).map Prod.fst = some id) :
    (Call.verifyAccountEmailLinkToken linkToken now).ChecksLatest sha256 db := by
  intro entry found _
  rw [found, map_some] at selected
  obtain ⟨rfl, rfl⟩ := Prod.mk.inj (some.inj selected)
  exact latest

/-- In every run a code or link is accepted at most once, in time, and a code
before its fifth miss; what a newer code or a verification has superseded is
not accepted as long as only the code issued last is checked. -/
theorem email_code_life_cycle (sha256 : String → String) (calls : List Call) :
    AcceptedOnce (emailHistory sha256 Db.empty calls) ∧
      WithinLimits (emailHistory sha256 Db.empty calls) ∧
      (Admissible (Call.ChecksLatest sha256) (commit (execute sha256)) Db.empty calls →
        Superseded (emailHistory sha256 Db.empty calls)) := by
  suffices held : Observed (runCalls sha256 empty calls).emailCodes
      (emailHistory sha256 empty calls) ∧
      (Admissible (Call.ChecksLatest sha256) (commit (execute sha256)) empty calls →
        Superseded (emailHistory sha256 empty calls) ∧
          Retired (runCalls sha256 empty calls).emailCodes
            (emailHistory sha256 empty calls)) from
    ⟨held.1.once, held.1.limits, fun checks => (held.2 checks).1⟩
  induction calls using reverseRecOn with
  | nil => exact ⟨observed_empty, fun _ => by simp [Superseded, Retired, emailHistory]⟩
  | append_singleton calls call ih =>
    obtain ⟨observed, held⟩ := ih
    rw [emailHistory_append, runCalls_append_singleton, admissible_append]
    rcases emailEvent_cases sha256 (runCalls sha256 empty calls) call with
      ⟨silent, same⟩ | ⟨event, happens, step⟩
    · rw [silent, same, toList_none, append_nil]
      exact ⟨observed, fun checks => held checks.1⟩
    · rw [happens]
      refine ⟨observed.step step, fun ⟨earlier, check, _⟩ => ?_⟩
      obtain ⟨superseded, retired⟩ := held earlier
      have acceptsLive := acceptsLive_of_checksLatest observed.spaced check happens step
      exact ⟨superseded.step retired observed.reflects acceptsLive step,
        retired.step observed.reflects acceptsLive step⟩

theorem email_code_life_cycle_login : Superseded (emailHistory id Db.empty
      [sendCode "111111" "link-1" "first" 0, enterCode "999999" 1,
        enterCode "111111" 2, sendCode "222222" "link-2" "second" 60,
        .verifyAccountEmailLinkToken "link-2" 61]) := by
  refine (email_code_life_cycle id _).2.2 ⟨trivial, ?_, ?_, trivial, ?_, trivial⟩
  · exact checksLatest_code (by decide +kernel)
  · exact checksLatest_code (by decide +kernel)
  · exact checksLatest_link "second" "pilot@example.com" (by decide +kernel) (by decide +kernel)

/-- A second code leaves the first one open: it is accepted once the second is
consumed, and its link at any time. -/
theorem superseded_code_accepted :
    ¬ Superseded (emailHistory id Db.empty [sendCode "111111" "link-1" "first" 0,
          sendCode "222222" "link-2" "second" 60, enterCode "222222" 61,
          enterCode "111111" 62]) ∧ ¬ Superseded (emailHistory id Db.empty
        [sendCode "111111" "link-1" "first" 0, sendCode "222222" "link-2" "second" 60,
          .verifyAccountEmailLinkToken "link-1" 61]) := by
  constructor <;> intro superseded
  · exact superseded [.issued "first" "pilot@example.com" 600,
        .issued "second" "pilot@example.com" 660]
      (.accepted "second" "pilot@example.com" .code 61)
      [.accepted "first" "pilot@example.com" .code 62] "first"
      "pilot@example.com" 600 (by decide +kernel) rfl (by simp) "pilot@example.com" .code 62
      (by simp)
  · exact superseded [.issued "first" "pilot@example.com" 600]
      (.issued "second" "pilot@example.com" 660)
      [.accepted "first" "pilot@example.com" .link 61] "first"
      "pilot@example.com" 600 (by decide +kernel) rfl (by simp) "pilot@example.com" .link 61
      (by simp)

end Teale.Gateway
