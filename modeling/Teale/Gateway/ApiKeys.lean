import Teale.Gateway.Auth
import Teale.Gateway.Frame

/-!
# API keys over a run

Deleting a key and disabling it write the same column. The row of a deleted key keeps answering
for its token: it refuses the bearer as long as nothing clears the column again.
-/

namespace Teale.Gateway

open Relational Transactional List Option Relational.Table RustText Db

variable {db db' : Db} {accountUserId : AccountUserId} {now : Timestamp}
  {sha256 : String → String} {call : Call} {keyId : KeyId} {row : ApiKeyRow}
  {keys : Table KeyId ApiKeyRow}

/-! ## What the use of a key does not change -/

def ApiKeyRow.terms (row : ApiKeyRow) : ApiKeyRow := { row with
    usageCredits := 0
    lastUsedAt := none }

def Db.keyTerms (db : Db) : Table KeyId ApiKeyRow := db.apiKeys.map ApiKeyRow.terms

theorem Within.keyTerms_eq (within : Within written db db') (absent : .apiKeys ∉ written) :
    db'.keyTerms = db.keyTerms := by
  rw [keyTerms, within.read (·.apiKeys) fun _ => if_neg absent, keyTerms]

theorem ChargesAccount.keyTerms
    (charges : ChargesAccount accountUserId apiKeyId type amount now db db') :
    db'.keyTerms = db.keyTerms := by
  obtain ⟨noted, row, write, -, -, -, -, rest⟩ := charges
  obtain ⟨-, rfl⟩ := appendAccountLedger_ok write
  rw [rest.keyTerms_eq (by decide)]
  split
  · cases apiKeyId with
    | none => rfl
    | some keyId => exact map_modify_of_invisible db.apiKeys keyId fun _ => rfl
  · rfl

def Call.managesKeys : Call → Bool
  | .createApiKey .. | .updateApiKey .. | .deleteApiKey .. | .resetGenesis => true
  | _ => false

theorem execute_keyTerms (other : call.managesKeys = false)
    (ran : execute sha256 db call = .ok db') : db'.keyTerms = db.keyTerms := by
  have within := execute_within ran
  cases call with
  | createApiKey | updateApiKey | deleteApiKey | resetGenesis => cases other
  | touchLastUsed keyId now =>
    cases ran
    exact map_modify_of_invisible db.apiKeys keyId fun _ => rfl
  | settleRequest consumer =>
    cases consumer with
    | account =>
      rcases settleRequest_account ran with rfl | ⟨-, charges⟩
      · rfl
      · exact charges.keyTerms
    | _ => exact within.keyTerms_eq (by simp [writes, ConsumerPrincipal.tables])
  | settleProviderRequest consumer =>
    cases consumer with
    | account =>
      rcases settleProviderRequest_account ran with rfl | ⟨-, charges⟩
      · rfl
      · exact charges.keyTerms
    | _ => exact within.keyTerms_eq (by simp [writes, ConsumerPrincipal.tables])
  | _ => exact within.keyTerms_eq (by simp [writes, rewardTables, transferTables, shareKeyTables])

/-! ## Keys under distinct hashes -/

/-- `UNIQUE` on the column `key_hash`. -/
def HashesDistinct (keys : Table KeyId ApiKeyRow) : Prop :=
  ∀ first second row other, keys.find? first = some row →
    keys.find? second = some other → row.keyHash = other.keyHash →
    first = second

theorem hashesDistinct_empty : HashesDistinct ∅ := by
  intro first second row other found
  simp at found

theorem HashesDistinct.modify (distinct : HashesDistinct keys) (keyId : KeyId)
    (sameHash : ∀ row, (change row).keyHash = row.keyHash) :
    HashesDistinct (keys.modify keyId change) := by
  have hashed : ∀ id row, (keys.modify keyId change).find? id = some row →
      ∃ old, keys.find? id = some old ∧ old.keyHash = row.keyHash := by
    intro id row found
    rw [find?_modify] at found
    split at found
    · obtain ⟨old, present, rfl⟩ := map_eq_some_iff.mp found
      exact ⟨old, present, (sameHash old).symm⟩
    · exact ⟨row, found, rfl⟩
  intro first second row other foundFirst foundSecond same
  obtain ⟨old, presentFirst, hashFirst⟩ := hashed first row foundFirst
  obtain ⟨older, presentSecond, hashSecond⟩ := hashed second other foundSecond
  exact distinct first second old older presentFirst presentSecond
    (hashFirst.trans (same.trans hashSecond.symm))

theorem HashesDistinct.insertOrIgnore (distinct : HashesDistinct keys)
    (unused : ∀ id old, keys.find? id = some old → old.keyHash ≠ row.keyHash) :
    HashesDistinct (keys.insertOrIgnore keyId row) := by
  cases present : keys.find? keyId with
  | some stored => rwa [insertOrIgnore_of_present _ _ present]
  | none =>
    intro first second left right foundFirst foundSecond same
    rw [find?_insertOrIgnore, present, getD_none] at foundFirst foundSecond
    split_ifs at foundFirst foundSecond with isFirst isSecond isSecond
    · rw [isFirst, isSecond]
    · cases foundFirst
      exact absurd same.symm (unused second right foundSecond)
    · cases foundSecond
      exact absurd same (unused first left foundFirst)
    · exact distinct first second left right foundFirst foundSecond same

/-! ## The calls that manage keys -/

theorem createApiKey_keyTerms
    (ran : createApiKey sha256 db accountUserId params keyId token now = .ok result) :
    ∃ row, result.1.keyTerms = db.keyTerms.insertOrIgnore keyId row ∧
      ∀ id old, db.keyTerms.find? id = some old → id ≠ keyId ∧ old.keyHash ≠ row.keyHash := by
  simp only [createApiKey, ok_iff] at ran
  obtain ⟨-, -, freshId, freshHash, -, rfl⟩ := ran
  refine ⟨_, Table.map_insertOrIgnore db.apiKeys _ keyId _, ?_⟩
  intro id old found
  rw [keyTerms, Table.find?_map] at found
  obtain ⟨row, present, rfl⟩ := map_eq_some_iff.mp found
  constructor
  · rintro rfl
    simp [present] at freshId
  · intro same
    refine freshHash (any_eq_true.mpr ⟨(id, row), ?_, ?_⟩)
    · exact mem_rows_iff_find?.mpr present
    · exact decide_eq_true same

theorem updateApiKey_keyTerms (ran : updateApiKey db accountUserId keyId params = .ok db') :
    ownsApiKey db accountUserId keyId = true ∧ ∃ change : ApiKeyRow → ApiKeyRow,
        db'.keyTerms = db.keyTerms.modify keyId change ∧ ∀ row, (change row).keyHash = row.keyHash ∧
          (change row).accountUserId = row.accountUserId ∧
          (change row).disabled = params.disabled.getD row.disabled := by
  simp only [updateApiKey, ok_iff] at ran
  obtain ⟨-, -, owned, rfl⟩ := ran
  refine ⟨by simpa using owned, fun row => { row with
      name := (params.name.map fun change =>
        change.map trim).getD row.name
      creditLimit := params.creditLimit.getD row.creditLimit
      disabled := params.disabled.getD row.disabled }, ?_, ?_⟩
  · exact map_modify db.apiKeys keyId fun _ => rfl
  · exact fun row => ⟨rfl, rfl, rfl⟩

theorem deleteApiKey_keyTerms (ran : deleteApiKey db accountUserId keyId = .ok db') :
    ownsApiKey db accountUserId keyId = true ∧ db'.keyTerms = db.keyTerms.modify keyId fun row =>
        { row with disabled := true } := by
  simp only [deleteApiKey, ok_iff] at ran
  obtain ⟨owned, rfl⟩ := ran
  exact ⟨by simpa using owned, map_modify db.apiKeys keyId fun _ => rfl⟩

theorem accountUserId_of_ownsApiKey (owned : ownsApiKey db accountUserId keyId = true)
    (found : db.keyTerms.find? keyId = some row) : row.accountUserId = accountUserId := by
  rw [keyTerms, Table.find?_map] at found
  obtain ⟨stored, present, rfl⟩ := map_eq_some_iff.mp found
  simpa [ownsApiKey, present, ApiKeyRow.terms] using owned

theorem execute_hashesDistinct (distinct : HashesDistinct db.keyTerms)
    (ran : execute sha256 db call = .ok db') : HashesDistinct db'.keyTerms := by
  by_cases other : call.managesKeys = false
  · rwa [execute_keyTerms other ran]
  · cases call with
    | createApiKey =>
      obtain ⟨_, called, rfl⟩ := map_eq_ok.mp ran
      obtain ⟨row, written, unused⟩ := createApiKey_keyTerms called
      rw [written]
      exact distinct.insertOrIgnore fun id old found => (unused id old found).2
    | updateApiKey =>
      obtain ⟨-, change, written, keeps⟩ := updateApiKey_keyTerms ran
      rw [written]
      exact distinct.modify _ fun row => (keeps row).1
    | deleteApiKey =>
      rw [(deleteApiKey_keyTerms ran).2]
      exact distinct.modify _ fun _ => rfl
    | resetGenesis =>
      cases execute_resetGenesis ran
      exact hashesDistinct_empty
    | _ => exact absurd rfl other

theorem hashesDistinct_runCalls (sha256 : String → String) (calls : List Call)
    (distinct : HashesDistinct db.keyTerms) :
    HashesDistinct (runCalls sha256 db calls).keyTerms := by
  have unrestricted : Admissible (fun _ _ => True) (commit (execute sha256)) db calls :=
    admissible_of_forall fun _ _ _ => trivial
  refine run_commit_invariant (fun db : Db => HashesDistinct db.keyTerms) ?_ distinct unrestricted
  exact fun _ _ _ _ kept ran => execute_hashesDistinct kept ran

/-! ## Deleted keys -/

def KeyDisabled (accountUserId : AccountUserId) (keyId : KeyId)
    (keyHash : String) (db : Db) : Prop :=
  ∃ row, db.keyTerms.find? keyId = some row ∧
    row.accountUserId = accountUserId ∧ row.keyHash = keyHash ∧
    row.disabled = true

/-- The call enables the key again, or deletes its row with everything
else. -/
def Call.Revives (accountUserId : AccountUserId) (keyId : KeyId) : Call → Prop
  | .updateApiKey owner key params =>
    owner = accountUserId ∧ key = keyId ∧ params.disabled = some false
  | .resetGenesis => True
  | _ => False

theorem execute_keyDisabled {keyHash : String} (harmless : ¬ call.Revives accountUserId keyId)
    (disabled : KeyDisabled accountUserId keyId keyHash db)
    (ran : execute sha256 db call = .ok db') :
    KeyDisabled accountUserId keyId keyHash db' := by
  obtain ⟨row, found, isAccount, isHash, isDisabled⟩ := disabled
  by_cases other : call.managesKeys = false
  · refine ⟨row, ?_, isAccount, isHash, isDisabled⟩
    rw [execute_keyTerms other ran, found]
  · cases call with
    | createApiKey owner params key token now =>
      obtain ⟨_, called, rfl⟩ := map_eq_ok.mp ran
      obtain ⟨new, written, unused⟩ := createApiKey_keyTerms called
      refine ⟨row, ?_, isAccount, isHash, isDisabled⟩
      rw [written, find?_insertOrIgnore, if_neg (unused keyId row found).1, found]
    | updateApiKey owner key params =>
      obtain ⟨owned, change, written, keeps⟩ := updateApiKey_keyTerms ran
      by_cases isKey : keyId = key
      · subst isKey
        have isOwner : owner = accountUserId :=
          (accountUserId_of_ownsApiKey owned found).symm.trans isAccount
        have stays : params.disabled ≠ some false := fun enables => harmless ⟨isOwner, rfl, enables⟩
        obtain ⟨sameHash, sameAccount, written'⟩ := keeps row
        refine ⟨change row, ?_, sameAccount.trans isAccount, sameHash.trans isHash, ?_⟩
        · rw [written, find?_modify_self, found, map_some]
        · rw [written']
          cases named : params.disabled with
          | none => exact isDisabled
          | some value =>
            cases value with
            | true => rfl
            | false => exact absurd named stays
      · refine ⟨row, ?_, isAccount, isHash, isDisabled⟩
        rw [written, find?_modify_of_ne _ _ isKey, found]
    | deleteApiKey owner key =>
      rw [KeyDisabled, (deleteApiKey_keyTerms ran).2, find?_modify]
      by_cases isKey : keyId = key
      · refine ⟨{ row with disabled := true }, ?_, isAccount, isHash, rfl⟩
        rw [if_pos isKey, found, map_some]
      · exact ⟨row, by rw [if_neg isKey, found], isAccount, isHash, isDisabled⟩
    | resetGenesis => exact absurd trivial harmless
    | _ => exact absurd rfl other

theorem keyDisabled_of_deleteApiKey (stored : db.apiKeys.find? keyId = some row)
    (ran : deleteApiKey db accountUserId keyId = .ok db') :
    KeyDisabled accountUserId keyId row.keyHash db' := by
  obtain ⟨owned, written⟩ := deleteApiKey_keyTerms ran
  have found : db.keyTerms.find? keyId = some row.terms := by
    rw [keyTerms, Table.find?_map, stored, map_some]
  have isAccount := accountUserId_of_ownsApiKey owned found
  refine ⟨{ row.terms with disabled := true }, ?_, isAccount, rfl, rfl⟩
  rw [written, Table.find?_modify_self, found, map_some]

theorem looksLikeApiKey_tokenPrefix (role : ApiKeyRole) (secret : String) :
    looksLikeApiKey (role.tokenPrefix ++ secret) = true := by
  unfold looksLikeApiKey
  cases role with
  | live => rw [stripPrefix_append, isSome_some, Bool.true_or]
  | provisioning =>
    rw [stripPrefix_append ApiKeyRole.provisioning.tokenPrefix,
      isSome_some, Bool.or_true]

theorem resolveApiKey_disabled (looks : looksLikeApiKey token = true)
    (distinct : HashesDistinct db.keyTerms)
    (disabled : KeyDisabled accountUserId keyId (sha256 token) db) :
    ∃ key, resolveApiKey sha256 db token = some key ∧ key.2.disabled = true := by
  obtain ⟨row, found, -, isHash, isDisabled⟩ := disabled
  have shown : ∀ id stored, db.apiKeys.find? id = some stored →
      db.keyTerms.find? id = some stored.terms := by
    intro id stored present
    rw [keyTerms, Table.find?_map, present, map_some]
  rw [keyTerms, Table.find?_map] at found
  obtain ⟨stored, present, rfl⟩ := map_eq_some_iff.mp found
  rw [resolveApiKey, if_pos looks]
  cases first : db.apiKeys.rows.find? fun row => row.2.keyHash = sha256 token with
  | none =>
    have unmatched := find?_eq_none.mp first (keyId, stored)
      (mem_rows_iff_find?.mpr present)
    exact absurd (decide_eq_true isHash) unmatched
  | some key =>
    have matching : key.2.keyHash = sha256 token := by simpa using find?_some first
    have presentKey := mem_rows_iff_find?.mp
      (mem_of_find?_eq_some first)
    have same : key.1 = keyId := distinct key.1 keyId key.2.terms stored.terms
      (shown key.1 key.2 presentKey) (shown keyId stored present)
      (matching.trans isHash.symm)
    rw [same, present] at presentKey
    exact ⟨key, rfl, some.inj presentKey ▸ isDisabled⟩

theorem requireBearer_disabled (nonempty : tokenFromHeaders headers ≠ "")
    (notStatic : config.lookupStatic (tokenFromHeaders headers) = none)
    (notDevice : db.tokens.find? (tokenFromHeaders headers) = none)
    (resolved : resolveApiKey config.sha256 db (tokenFromHeaders headers) = some key)
    (disabled : key.2.disabled = true) :
    ((requireBearer config headers now).serve db).1 = .error (.status 401) := by
  have unissued : resolveToken db (tokenFromHeaders headers) now = none := by
    rw [resolveToken, notDevice, filter_none, map_none]
  have first : (Service.query fun db : Db => (.ok (resolveToken db (tokenFromHeaders headers) now) :
        Except Failure _)).serve db = (.ok none, db) :=
    congrArg (fun device => (Except.ok device, db)) unissued
  have second : (Service.query fun db : Db =>
      (.ok (resolveApiKey config.sha256 db (tokenFromHeaders headers)) :
        Except Failure _)).serve db = (.ok (some key), db) :=
    congrArg (fun key => (Except.ok key, db)) resolved
  simp only [requireBearer, if_neg nonempty, notStatic]
  rw [Service.serve_bind_of_ok first, Service.serve_bind_of_ok second]
  simp only [admitApiKey, disabled, if_true]
  rfl

/-- The token of a deleted key is refused after any further calls, as long as
none of them enables the key again. -/
theorem deleted_key_refused {config : Config} {before after : List Call} {db : Db}
    {accountUserId : AccountUserId} {keyId : KeyId} {row : ApiKeyRow}
    {role : ApiKeyRole} {secret : String} {headers : Headers}
    (stored : (runCalls config.sha256 Db.empty before).apiKeys.find? keyId = some row)
    (hashed : row.keyHash = config.sha256 (role.tokenPrefix ++ secret))
    (deleted : deleteApiKey (runCalls config.sha256 Db.empty before) accountUserId keyId = .ok db)
    (harmless : ∀ call ∈ after, ¬ call.Revives accountUserId keyId)
    (carries : tokenFromHeaders headers = role.tokenPrefix ++ secret)
    (notStatic : config.lookupStatic (role.tokenPrefix ++ secret) = none)
    (notDevice : (runCalls config.sha256 db after).tokens.find? (role.tokenPrefix ++ secret) = none)
    (now : Timestamp) :
    ((requireBearer config headers now).serve
      (runCalls config.sha256 db after)).1 = .error (.status 401) := by
  have executed : execute config.sha256 (runCalls config.sha256 empty before)
      (.deleteApiKey accountUserId keyId) = .ok db := deleted
  have initially : HashesDistinct empty.keyTerms := hashesDistinct_empty
  have distinct : HashesDistinct (runCalls config.sha256 db after).keyTerms :=
    hashesDistinct_runCalls config.sha256 after (execute_hashesDistinct
      (hashesDistinct_runCalls config.sha256 before initially) executed)
  have disabled : KeyDisabled accountUserId keyId (config.sha256 (role.tokenPrefix ++ secret))
      (runCalls config.sha256 db after) := by
    have admissible : Admissible (fun _ call => ¬ call.Revives accountUserId keyId)
        (commit (execute config.sha256)) db after :=
      admissible_of_forall fun call member _ => harmless call member
    refine run_commit_invariant (KeyDisabled accountUserId keyId
      (config.sha256 (role.tokenPrefix ++ secret))) ?_ ?_ admissible
    · exact fun _ _ _ allowed kept returned => execute_keyDisabled allowed kept returned
    · rw [← hashed]
      exact keyDisabled_of_deleteApiKey stored deleted
  obtain ⟨key, resolved, isDisabled⟩ := resolveApiKey_disabled
    (looksLikeApiKey_tokenPrefix role secret) distinct disabled
  have nonempty : role.tokenPrefix ++ secret ≠ "" := by
    cases role <;> simp [ApiKeyRole.tokenPrefix]
  rw [← carries] at nonempty notStatic notDevice resolved
  exact requireBearer_disabled nonempty notStatic notDevice resolved isDisabled

def keyedAccount : List Call :=
  [.linkDeviceToAccount "phone" "account" {} 0, .createApiKey "account" {} "key" "tk_live_secret" 1]

def keyedHeaders : Headers := ⟨some "Bearer tk_live_secret", none⟩

theorem deleted_key_refused_renamed : ((requireBearer bareConfig keyedHeaders 9).serve
      (runCalls id (commit (execute id) (runCalls id Db.empty keyedAccount)
          (.deleteApiKey "account" "key"))
        [.updateApiKey "account" "key" { name := some (some "old") },
          .createApiKey "account" {} "other" "tk_live_other" 3])).1 = .error (.status 401) := by
  have hasKey : (runCalls bareConfig.sha256 empty keyedAccount).apiKeys.find?
      "key" = some _ := rfl
  have deleted : deleteApiKey (runCalls bareConfig.sha256 empty keyedAccount)
      "account" "key" = .ok (commit (execute id)
        (runCalls id empty keyedAccount) (.deleteApiKey "account" "key")) := rfl
  refine @deleted_key_refused bareConfig keyedAccount _ _ "account" "key" _
    .live "secret" keyedHeaders hasKey rfl deleted ?_ ?_ ?_ ?_ 9
  · simp [Call.Revives]
  all_goals decide +kernel

/-- Updating a deleted key brings it back. -/
theorem deleted_key_revived :
    let created := runCalls id Db.empty keyedAccount
    let deleted := commit (execute id) created (.deleteApiKey "account" "key")
    (deleteApiKey created "account" "key").isOk = true ∧
      ((requireBearer bareConfig keyedHeaders 9).serve deleted).1 = .error (.status 401) ∧
      ((requireBearer bareConfig keyedHeaders 9).serve (runCalls id deleted
            [.updateApiKey "account" "key" { disabled := some false }])).1 =
        .ok (.apiKey "key" "account" .live none 0) := by
  decide +kernel

end Teale.Gateway
