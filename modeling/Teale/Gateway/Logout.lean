import Teale.Gateway.Authority

/-!
# Logging out

`require_bearer` takes the token of a session from either header; `logout`
revokes the one in `Authorization`.
-/

namespace Teale.Gateway

open Relational Transactional Service List

variable {sha256 : String → String} {db db' : Db} {call : Call} {token hash : String}
  {now : Timestamp} {sessions : Table String AccountSessionRow}

/-- A session with the hash was opened, and all such are revoked. -/
def Spent (hash : String) (sessions : Table String AccountSessionRow) : Prop :=
  (∃ row ∈ sessions.rows, row.2.tokenHash = hash) ∧
    ∀ row ∈ sessions.rows, row.2.tokenHash = hash → row.2.revokedAt ≠ none

theorem Spent.update {change : String → AccountSessionRow → AccountSessionRow}
    (spent : Spent hash sessions)
    (keeps : ∀ id row, (change id row).tokenHash = row.tokenHash ∧
      (row.revokedAt ≠ none → (change id row).revokedAt ≠ none)) :
    Spent hash (sessions.update change) := by
  obtain ⟨⟨row, listed, isHash⟩, revoked⟩ := spent
  simp only [Spent, Table.update, mem_map]
  refine ⟨⟨_, ⟨row, listed, rfl⟩, (keeps _ _).1.trans isHash⟩, ?_⟩
  rintro _ ⟨old, present, rfl⟩ sameHash
  exact (keeps _ _).2 (revoked old present ((keeps _ _).1.symm.trans sameHash))

theorem execute_spent (spent : Spent hash db.accountSessions)
    (ran : execute sha256 db call = .ok db') : Spent hash db'.accountSessions := by
  cases call with
  | createAccountSession =>
    rcases map_eq_ok.mp ran with ⟨_, called, rfl⟩
    simp only [createAccountSession, ok_iff] at called
    obtain ⟨freshId, freshHash, rfl⟩ := called
    obtain ⟨⟨row, listed, isHash⟩, revoked⟩ := spent
    simp only [Spent, Table.rows_insertOrIgnore_of_fresh _ _ (by simpa using freshId),
      mem_append, mem_singleton]
    refine ⟨⟨row, .inl listed, isHash⟩, ?_⟩
    -- the column is unique, so the new session has another hash
    rintro _ (present | rfl) sameHash
    · exact revoked _ present sameHash
    · exact absurd (any_eq_true.mpr ⟨row, listed, by simp [isHash, ← sameHash]⟩) freshHash
  | resolveAccountSession token now =>
    cases Except.ok.inj ran
    rcases resolveAccountSession_cases sha256 db token now with same | ⟨_, _, -, -, -, same⟩
    · rwa [same]
    · rw [same]
      apply spent.update
      intro _ row
      split <;> exact ⟨rfl, id⟩
  | revokeAccountSession =>
    cases Except.ok.inj ran
    apply spent.update
    intro _ row
    split
    · exact ⟨rfl, by simp⟩
    · exact ⟨rfl, id⟩
  | _ =>
    rwa [(execute_within ran).read (·.accountSessions) fun _ => by
      first | rfl | simp [Db.without, writes]]

/-- Whatever is called later, the token is not resolved. -/
def NeverResolved (sha256 : String → String) (token : String) (since : Timestamp) (db : Db) :
    Prop :=
  ∀ calls now, since ≤ now →
    (resolveAccountSession sha256 (runCalls sha256 db calls) token now).2 = none

theorem Spent.neverResolved
    (spent : Spent (hashAccountSessionToken sha256 token) db.accountSessions) :
    NeverResolved sha256 token now db := by
  intro calls later _
  have unrestricted : Admissible (fun _ _ => True) (commit (execute sha256)) db calls :=
    admissible_of_forall fun _ _ _ => trivial
  obtain ⟨-, revoked⟩ := run_commit_invariant (fun db : Db => Spent _ db.accountSessions)
    (fun _ _ _ _ kept ran => execute_spent kept ran) spent unrestricted
  rcases resolveAccountSession_cases sha256 (runCalls sha256 db calls) token later with
    same | ⟨row, _, -, found, -, -⟩
  · rw [same]
  · have matching := find?_some found
    simp only [Bool.and_eq_true, decide_eq_true_eq, Option.isNone_iff_eq_none] at matching
    exact absurd matching.2 (revoked row (mem_of_find?_eq_some found) matching.1)

theorem spent_revokeAccountSession {sessionId : String} {row : AccountSessionRow}
    (stored : db.accountSessions.find? sessionId = some row)
    (isHash : row.tokenHash = hashAccountSessionToken sha256 token) :
    Spent (hashAccountSessionToken sha256 token)
      (revokeAccountSession sha256 db token now).accountSessions := by
  have listed := Table.mem_rows_iff_find?.mpr stored
  simp only [Spent, revokeAccountSession, Table.update, mem_map]
  refine ⟨⟨_, ⟨(sessionId, row), listed, rfl⟩, by dsimp only; split <;> exact isHash⟩, ?_⟩
  rintro _ ⟨old, -, rfl⟩
  dsimp only
  split <;> simp_all

theorem find?_rows_update {pick : String × AccountSessionRow → Bool}
    {change : String → AccountSessionRow → AccountSessionRow}
    (keeps : ∀ row, pick (row.1, change row.1 row.2) = pick row) :
    (sessions.update change).rows.find? pick =
      (sessions.rows.find? pick).map fun row => (row.1, change row.1 row.2) := by
  rw [Table.update, List.find?_map]
  exact congrArg _ (congrArg (sessions.rows.find? ·) (funext keeps))

/-- A session that was resolved is resolved again right after another token is
revoked. -/
theorem not_neverResolved_revokeAccountSession {after : Db} {session : AccountSession}
    {other : String}
    (resolved : resolveAccountSession sha256 db token now = (after, some session))
    (different : hashAccountSessionToken sha256 other ≠ hashAccountSessionToken sha256 token) :
    ¬ NeverResolved sha256 token now (revokeAccountSession sha256 after other now) := by
  intro never
  have missing := never [] now le_rfl
  rcases resolveAccountSession_cases sha256 db token now with
    same | ⟨row, expiresAt, isSession, found, later, same⟩
  · cases same.symm.trans resolved
  · cases same.symm.trans resolved
    have matching := find?_some found
    simp only [Bool.and_eq_true, decide_eq_true_eq] at matching
    rw [runCalls, run_nil, resolveAccountSession, if_neg isSession, revokeAccountSession,
      find?_rows_update, Table.modify, find?_rows_update, found] at missing
    · simp [matching.1, different.symm, not_lt.mpr later] at missing
    · intro row
      split <;> rfl
    · intro row
      dsimp only
      split
      · rename_i revokes
        simp [revokes.1, different]
      · rfl

/-- A logout is answered; it closes the session for good exactly when the
bearer it revokes is the token the session was accepted with. -/
theorem logout_revokes_iff (config : Config) (db : Db) (headers : Headers) (moment : Moment) :
    match (requireBearer config headers moment.now).serve db with
    | (.ok (.accountSession _ _), _) =>
      ((handle config ⟨headers, .logout, moment⟩).serve db).1.isOk ∧
      (NeverResolved config.sha256 (tokenFromHeaders headers) moment.now
          (respond config db ⟨headers, .logout, moment⟩) ↔
        hashAccountSessionToken config.sha256 headers.bearer =
          hashAccountSessionToken config.sha256 (tokenFromHeaders headers))
    | _ => True := by
  split
  · rename_i account sessionId middle accepted
    have serves : Serves config ⟨headers, .logout, moment⟩ db
        (requireBearer config headers moment.now) db
        (Admitted config (tokenFromHeaders headers) moment.now db) := requireBearer_serves
    have admitted := serves.returned (.accountSession account sessionId) (by rw [accepted])
    rw [finish, accepted] at admitted
    obtain ⟨session, resolved⟩ := admitted.resolved account sessionId rfl
    have answered : (handle config ⟨headers, .logout, moment⟩).serve db =
        (.ok ⟨⟩, revokeAccountSession config.sha256 middle headers.bearer moment.now) :=
      serve_bind_of_ok accepted
    rw [respond, finish, answered]
    refine ⟨rfl, ?_, ?_⟩
    · intro never
      by_contra different
      exact not_neverResolved_revokeAccountSession resolved different never
    · intro same
      obtain ⟨row, stored, isHash, -⟩ := admitted.authenticated
      have spent : Spent _
          (revokeAccountSession config.sha256 middle headers.bearer moment.now).accountSessions :=
        spent_revokeAccountSession stored (isHash.trans same.symm)
      rw [same] at spent
      exact spent.neverResolved
  · trivial

/-- A session that came in `x-api-key` is answered and stays open. -/
theorem logout_by_apiKey_keeps_session :
    let db := runCalls id Db.empty
      [.createAccountSession "account" none none "session" "tsess_a" 0]
    let arrival : Arrival := ⟨⟨none, some "tsess_a"⟩, .logout,
      ⟨1, ⟨fun _ => .ok none, fun _ => .ok none⟩, false, .ok ⟨⟩, fun _ => ""⟩⟩
    ((requireBearer bareConfig arrival.headers 1).serve db).1 =
        .ok (.accountSession "account" "session") ∧
      ((handle bareConfig arrival).serve db).1.isOk ∧
      (resolveAccountSession id (respond bareConfig db arrival) "tsess_a" 2).2.isSome := by
  decide +kernel

end Teale.Gateway
