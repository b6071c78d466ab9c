import Teale.Lib.Directory
import Teale.Gateway.Withdrawals

/-!
# The account an address logs in to

A login finds its account by the email column of `account_wallets`, and falls back to the account
named after the address. `link_device_to_account` puts there whatever address the request names.
Read through that column the wallets are a directory.
-/

namespace Teale.Gateway

open Relational Transactional List Option Relational.Table RustText Db Directory

variable {text email : String} {db db' : Db} {now : Timestamp}
  {sha256 : String → String} {metadata : AccountLinkMetadata}

def Db.accountOf (db : Db) (email : String) : AccountUserId :=
  resolve accountUserIdForEmail db.directory email

/-- What `normalize_account_email` can return. -/
def IsAddress (email : String) : Prop := ∃ text, normalizeAccountEmail text = some email

theorem accountUserIdForEmail_injective : Function.Injective accountUserIdForEmail := by
  intro first second same
  have characters := congrArg String.toList same
  simp only [accountUserIdForEmail, String.toList_append, append_cancel_left_eq] at characters
  exact String.ext characters

theorem toAsciiLowercase_of_normalizeAccountEmail
    (normalized : normalizeAccountEmail text = some email) :
    toAsciiLowercase email = email := by
  simp only [normalizeAccountEmail] at normalized
  split at normalized
  · rw [← some.inj normalized]
    exact toAsciiLowercase_toLowercase _
  · simp at normalized

theorem toAsciiLowercase_of_normalizeEmail (normalized : normalizeEmail text = some email) :
    toAsciiLowercase email = email := by
  simp only [normalizeEmail] at normalized
  split at normalized
  · simp at normalized
  · rw [← some.inj normalized]
    exact toAsciiLowercase_toLowercase _

/-! ## The two calls that write addresses -/

theorem accountUserIdForLogin_directory (ran : accountUserIdForLogin db text now = .ok result) :
    ∃ email, normalizeAccountEmail text = some email ∧ result.2 = db.accountOf email ∧
      result.1.directory = settle accountUserIdForEmail db.directory email := by
  simp only [accountUserIdForLogin, ok_iff] at ran
  obtain ⟨email, normalized, ran⟩ := ran
  have held : holder db.directory email = (db.accountWallets.rows.find? fun row =>
        row.2.address = some email).map Prod.fst := by
    simp only [holder, directory, Table.map, find?_map, Option.map_map]
    rfl
  refine ⟨email, normalized, ?_⟩
  split at ran
  case h_1 row found =>
    cases ran
    have first : holder db.directory email = some row.1 := by
      rw [held]
      exact congrArg _ found
    constructor
    · rw [accountOf, resolve, first, Option.getD_some]
    · rw [settle, first]
  case h_2 absent =>
    cases ran
    have free : holder db.directory email = none := by
      rw [held]
      exact congrArg _ absent
    constructor
    · rw [accountOf, resolve, free, Option.getD_none]
    · rw [settle, free]
      change (db.accountWallets.insertOrIgnore _ _).map _ = _
      rw [Table.map_insertOrIgnore]
      simp only [AccountWalletRow.address, Option.map_some,
        toAsciiLowercase_of_normalizeAccountEmail normalized]
      rfl

theorem upsertWallet_directory (db : Db) (account : AccountUserId)
    (displayName phone githubUsername : Option String) {email : Option String} (now : Timestamp)
    (lower : email.map toAsciiLowercase = email) :
    (db.upsertWallet account displayName phone email githubUsername
      now).directory = assign db.directory account email := by
  have found : db.directory.find? account =
      (db.accountWallets.find? account).map AccountWalletRow.address :=
    find?_map db.accountWallets _ account
  unfold upsertWallet assign
  cases present : db.accountWallets.find? account with
  | some row =>
    rw [found, present]
    refine map_modify db.accountWallets account fun row => ?_
    cases email with
    | none => rfl
    | some email => exact lower
  | none =>
    rw [found, present]
    change (db.accountWallets.insertOrIgnore _ _).map _ = _
    rw [map_insertOrIgnore]
    simp only [AccountWalletRow.address, lower]
    rfl

theorem linkDeviceToAccount_directory {deviceId : DeviceId} {accountUserId : String}
    (ran : linkDeviceToAccount db deviceId accountUserId metadata now = .ok db') :
    ∃ account, normalizeAccountUserId accountUserId = .ok account ∧
      db'.directory = assign db.directory account
        (metadata.email.bind normalizeEmail) := by
  simp only [linkDeviceToAccount, ok_iff] at ran
  obtain ⟨account, normalized, rfl⟩ := ran
  have lower : (metadata.email.bind normalizeEmail).map
      toAsciiLowercase = metadata.email.bind normalizeEmail := by
    cases named : metadata.email.bind normalizeEmail with
    | none => rfl
    | some email =>
      obtain ⟨_, -, isNormalized⟩ := bind_eq_some_iff.mp named
      rw [map_some, toAsciiLowercase_of_normalizeEmail isNormalized]
  refine ⟨account, normalized, ?_⟩
  refine Eq.trans ?_ (upsertWallet_directory
    ((db.ensureDevice deviceId now).ensureBalance deviceId) account
    metadata.displayName (metadata.phone.bind normalizePhoneValue)
    (metadata.githubUsername.bind normalizeGithubUsername) now lower)
  unfold upsertAccountDevice
  split <;> rfl

/-! ## Runs -/

/-- A link that names an address for the account named after an address names
that one. -/
def Call.KeepsHomes : Call → Prop
  | .linkDeviceToAccount _ accountUserId metadata _ =>
    ∀ email named, IsAddress email → normalizeAccountUserId accountUserId =
        .ok (accountUserIdForEmail email) →
      metadata.email.bind normalizeEmail = some named → named = email
  | _ => True

/-- A link that names an address names this one exactly for the account it
logs in to. A reset leaves only the account named after the address. -/
def Call.KeepsLogin (email : String) (db : Db) : Call → Prop
  | .linkDeviceToAccount _ accountUserId metadata _ =>
    ∀ account named, normalizeAccountUserId accountUserId = .ok account →
      metadata.email.bind normalizeEmail = some named →
      (db.accountOf email = account ↔ named = email)
  | .resetGenesis => db.accountOf email = accountUserIdForEmail email
  | _ => True

def HomesKept (db : Db) : Prop := Directory.Reserved accountUserIdForEmail IsAddress db.directory

theorem resetGenesis_directory (ran : execute sha256 db .resetGenesis = .ok db') :
    db'.directory = ∅ := by
  cases execute_resetGenesis ran
  rfl

theorem execute_homesKept (keeps : call.KeepsHomes) (kept : HomesKept db)
    (ran : execute sha256 db call = .ok db') : HomesKept db' := by
  unfold HomesKept at kept ⊢
  by_cases other : call.changesDirectory = false
  · rwa [(execute_alters other ran).directory]
  · cases call with
    | linkDeviceToAccount deviceId accountUserId metadata now =>
      obtain ⟨account, normalized, written⟩ := linkDeviceToAccount_directory ran
      rw [written]
      refine kept.assign ?_
      rintro email isAddress rfl
      cases named : metadata.email.bind normalizeEmail with
      | none => rfl
      | some name => simpa using keeps email name isAddress normalized named
    | accountUserIdForLogin text now =>
      obtain ⟨_, called, rfl⟩ := map_eq_ok.mp ran
      obtain ⟨email, -, -, written⟩ := accountUserIdForLogin_directory called
      rw [written]
      exact kept.settle accountUserIdForEmail_injective email
    | resetGenesis =>
      rw [resetGenesis_directory ran]
      exact reserved_empty
    | _ => exact absurd rfl other

theorem execute_accountOf (keeps : call.KeepsLogin email db)
    (ran : execute sha256 db call = .ok db') : db'.accountOf email = db.accountOf email := by
  by_cases other : call.changesDirectory = false
  · rw [accountOf, (execute_alters other ran).directory, accountOf]
  · cases call with
    | linkDeviceToAccount deviceId accountUserId metadata now =>
      obtain ⟨account, normalized, written⟩ := linkDeviceToAccount_directory ran
      rw [accountOf, written]
      cases named : metadata.email.bind normalizeEmail with
      | none => exact resolve_assign_none _ _ _ _
      | some name =>
        exact resolve_assign_some accountUserIdForEmail
          (keeps account name normalized named)
    | accountUserIdForLogin text now =>
      obtain ⟨_, called, rfl⟩ := map_eq_ok.mp ran
      obtain ⟨settled, -, -, written⟩ := accountUserIdForLogin_directory called
      rw [accountOf, written]
      exact resolve_settle _ _ _ _
    | resetGenesis =>
      rw [accountOf, resetGenesis_directory ran]
      exact keeps.symm
    | _ => exact absurd rfl other

theorem homesKept_runCalls (keeps : ∀ call ∈ calls, call.KeepsHomes) :
    HomesKept (runCalls sha256 Db.empty calls) := by
  have initially : HomesKept empty := reserved_empty
  have admissible : Admissible (fun _ call => call.KeepsHomes)
      (commit (execute sha256)) empty calls :=
    admissible_of_forall fun call member _ => keeps call member
  refine run_commit_invariant HomesKept ?_ initially admissible
  exact fun db call db' allowed kept => execute_homesKept allowed kept

def loginAccount (db : Db) (text : String) (now : Timestamp) : Option AccountUserId :=
  (accountUserIdForLogin db text now).toOption.map Prod.snd

theorem loginAccount_eq (db : Db) (text : String) (now : Timestamp) : loginAccount db text now =
      (normalizeAccountEmail text).map db.accountOf := by
  cases called : accountUserIdForLogin db text now with
  | ok result =>
    obtain ⟨email, normalized, reached, -⟩ := accountUserIdForLogin_directory called
    rw [loginAccount, called, normalized, map_some, ← reached]
    rfl
  | error failure =>
    cases normalized : normalizeAccountEmail text with
    | none =>
      rw [loginAccount, called]
      rfl
    | some email =>
      simp only [accountUserIdForLogin, normalized, getOr] at called
      dsimp only [bind, Except.bind] at called
      split at called <;> simp [pure, Except.pure] at called

/-- The account of the pilot, linked under an identifier of its own. -/
def pilotLink (deviceId email : String) (now : Timestamp) : Call :=
  .linkDeviceToAccount deviceId "4f0c3d1e-uuid-style-id" { email := some email } now

/-- Links of the pilot's devices, and of a device of somebody else, around a
login of the pilot. -/
def pilotCalls : List Call :=
  [pilotLink "laptop" "pilot@example.com" 2, .linkDeviceToAccount "tablet" "neighbour"
      { email := some "other@example.com" } 3]

theorem normalizeAccountUserId_pilot : normalizeAccountUserId "4f0c3d1e-uuid-style-id" =
      .ok "4f0c3d1e-uuid-style-id" := by
  decide +kernel

theorem normalizeAccountUserId_neighbour :
    normalizeAccountUserId "neighbour" = .ok "neighbour" := by
  decide +kernel

theorem pilotCalls_keepsHomes : ∀ call ∈ [pilotLink "phone" "Pilot@Example.com" 0] ++ pilotCalls,
      call.KeepsHomes := by
  have elsewhere : ∀ email, .ok (accountUserIdForEmail email) ≠
      normalizeAccountUserId "4f0c3d1e-uuid-style-id" ∧ .ok (accountUserIdForEmail email) ≠
          normalizeAccountUserId "neighbour" := by
    intro email
    rw [normalizeAccountUserId_pilot, normalizeAccountUserId_neighbour]
    constructor <;> intro same <;> simpa [accountUserIdForEmail] using
        congrArg String.toList (Except.ok.inj same)
  intro call member
  simp only [pilotCalls, cons_append, nil_append, mem_cons,
    not_mem_nil, or_false] at member
  rcases member with rfl | rfl | rfl
  · exact fun email _ _ isHome => absurd isHome.symm (elsewhere email).1
  · exact fun email _ _ isHome => absurd isHome.symm (elsewhere email).1
  · exact fun email _ _ isHome => absurd isHome.symm (elsewhere email).2

theorem keepsLogin_of_agrees (normalized : normalizeAccountUserId accountUserId = .ok account)
    (named : metadata.email.bind normalizeEmail = some name)
    (agrees : db.accountOf email = account ↔ name = email) :
    (Call.linkDeviceToAccount deviceId accountUserId metadata now).KeepsLogin email db := by
  intro other label isOther isLabel
  cases normalized.symm.trans isOther
  cases named.symm.trans isLabel
  exact agrees

/-- Two logins of a run reach the same account exactly when they are for the
same address, as long as links keep the homes of addresses and, after the
first login, its address at its account. -/
theorem login_reaches_account_iff {sha256 : String → String} {before between : List Call}
    {first email : String} {firstTime : Timestamp} {account : AccountUserId}
    (address : normalizeAccountEmail first = some email)
    (homes : ∀ call ∈ before ++ between, call.KeepsHomes)
    (firstLogin : loginAccount (runCalls sha256 Db.empty before) first firstTime = some account)
    (kept : Admissible (Call.KeepsLogin email) (commit (execute sha256)) (runCalls sha256 Db.empty
        (before ++ [.accountUserIdForLogin first firstTime])) between)
    (second : String) (secondTime : Timestamp) : loginAccount
        (runCalls sha256 Db.empty (before ++ .accountUserIdForLogin first firstTime :: between))
        second secondTime = some account ↔ normalizeAccountEmail second = some email := by
  have reached : (runCalls sha256 empty before).accountOf email = account := by
    rw [loginAccount_eq, address, map_some] at firstLogin
    exact some.inj firstLogin
  have allHomes : ∀ call ∈ before ++
      .accountUserIdForLogin first firstTime :: between, call.KeepsHomes := by
    rw [forall_mem_append] at homes
    exact forall_mem_append.mpr ⟨homes.1, forall_mem_cons.mpr ⟨trivial, homes.2⟩⟩
  have reserved : HomesKept (runCalls sha256 empty
      (before ++ .accountUserIdForLogin first firstTime :: between)) :=
    homesKept_runCalls allHomes
  rw [runCalls_append_singleton] at kept
  -- The login itself, and the admissible calls after it, move no login of the
  -- address.
  have stays : (runCalls sha256 empty
      (before ++ .accountUserIdForLogin first firstTime :: between)).accountOf email = account := by
    have moves : ∀ db call db', Call.KeepsLogin email db call →
        db.accountOf email = account → execute sha256 db call = .ok db' →
        db'.accountOf email = account := by
      intro db call db' allowed holds returned
      rw [execute_accountOf allowed returned, holds]
    rw [runCalls, run_append]
    exact run_commit_invariant _ moves reached ⟨trivial, kept⟩
  rw [loginAccount_eq]
  constructor
  · intro returned
    obtain ⟨other, isOther, same⟩ := map_eq_some_iff.mp returned
    rw [← stays] at same
    rw [isOther, reserved.resolve_injective accountUserIdForEmail_injective
      ⟨second, isOther⟩ ⟨first, address⟩ same]
  · intro sameAddress
    rw [sameAddress, map_some, stays]

theorem login_reaches_account_pilot : loginAccount
        (runCalls id Db.empty ([pilotLink "phone" "Pilot@Example.com" 0] ++
            .accountUserIdForLogin "pilot@example.com" 1 :: pilotCalls))
        "PILOT@example.com" 4 = some "4f0c3d1e-uuid-style-id" ↔
      normalizeAccountEmail "PILOT@example.com" = some "pilot@example.com" := by
  have first : loginAccount (runCalls id empty [pilotLink "phone" "Pilot@Example.com" 0])
      "pilot@example.com" 1 = some "4f0c3d1e-uuid-style-id" := by
    decide +kernel
  refine login_reaches_account_iff (by decide +kernel) pilotCalls_keepsHomes
    first ⟨?_, ?_, trivial⟩ "PILOT@example.com" 4
  · exact keepsLogin_of_agrees normalizeAccountUserId_pilot rfl (by decide +kernel)
  · exact keepsLogin_of_agrees normalizeAccountUserId_neighbour rfl (by decide +kernel)

/-- Another device links itself to the account with an address of its own: the
account's login is lost to its owner and found by the other address. -/
theorem linked_address_redirects_login :
    let linked : List Call := [pilotLink "phone" "pilot@example.com" 0]
    let after := runCalls id Db.empty
      (linked ++ .accountUserIdForLogin "pilot@example.com" 1 ::
        [pilotLink "stranger" "other@example.com" 2])
    loginAccount (runCalls id Db.empty linked) "pilot@example.com" 1 =
        some "4f0c3d1e-uuid-style-id" ∧
      loginAccount after "pilot@example.com" 3 = some "email:pilot@example.com" ∧
      loginAccount after "other@example.com" 3 = some "4f0c3d1e-uuid-style-id" := by
  decide +kernel

end Teale.Gateway
