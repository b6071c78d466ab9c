import Teale.Gateway.NonNegative
import Teale.Gateway.Router

/-!
# The authority behind a call

Which calls of the ledger an arrival can lead to. Everything that is said about runs of arrivals
rests on `handle_serves`, the one lemma that goes through the handlers.
-/

namespace Teale.Gateway

open Relational Transactional Service List Option RustText

variable {call : Call} {accountUserId : AccountUserId}
  {token deviceId email txSignature : String} {now : Timestamp} {state : Db}
  {keyId : KeyId} {principal : PrincipalKind} {requester : DeviceId}
  {intent : AccountOnchainDepositIntent}

/-! ## Credentials and grounds -/

/-- The token acts for the account: it was issued to a device that is linked to
it, or it is the token of one of its API keys or sessions. -/
inductive Credential (sha256 : String → String) (db : Db) (token : String) :
    AccountUserId → Prop
  | device {row : TokenRow} {accountUserId : AccountUserId}
      (issued : db.tokens.find? token = some row)
      (linked : db.accountUserIdForDevice row.deviceId = some accountUserId) :
      Credential sha256 db token accountUserId
  | apiKey {keyId : KeyId} {row : ApiKeyRow} (stored : db.apiKeys.find? keyId = some row)
      (hashed : row.keyHash = sha256 token) :
      Credential sha256 db token row.accountUserId
  | session {sessionId : String} {row : AccountSessionRow}
      (stored : db.accountSessions.find? sessionId = some row)
      (hashed : row.tokenHash = hashAccountSessionToken sha256 token) :
      Credential sha256 db token row.accountUserId

/-- The address an arrival proves to receive mail at: with a code, or with the
token of a link. -/
def VerifiesEmail (config : Config) (arrival : Arrival) (db : Db) (email : String) : Prop :=
  match arrival.request with
  | .verifyLogin req =>
    ∃ db', verifyAccountEmailCode config.sha256 db req.email req.code
      arrival.moment.now = .ok (db', .accepted email)
  | .followLink token =>
    ∃ db', verifyAccountEmailLinkToken config.sha256 db token arrival.moment.now = .ok (db', email)
  | _ => False

/-- The address belongs to the account: the account is named after it, or its
wallet carries it. -/
def HasEmail (db : Db) (accountUserId : AccountUserId) (email : String) : Prop :=
  ∃ normalized, normalizeAccountEmail email = some normalized ∧
    (accountUserId = accountUserIdForEmail normalized ∨
      ∃ row, db.accountWallets.find? accountUserId = some row ∧
        row.email.map RustText.toAsciiLowercase = some normalized)

/-- What a deposit intent with a signature claims: the signature, for the account
of the device, at the effective address of the account. -/
def Arrival.claim (db : Db) (arrival : Arrival) : Option (String × AccountUserId × String) :=
  match arrival.request with
  | .depositIntent intent => do
    let txSignature ← normalizedOptionalString intent.txSignature
    let token ← db.tokens.find? arrival.token
    let accountUserId ← db.accountUserIdForDevice token.deviceId
    let address ← (resolveAccountOnchainAddressForDevice db token.deviceId
      intent.solanaAddress).toOption
    some (txSignature, accountUserId, address)
  | _ => none

/-- What an arrival must have brought for a call, by what the handlers check.
`before` is the database the arrival found, and `db` the one the call is made
on. -/
def Grounds (config : Config) (arrival : Arrival) (before db : Db) : Call → Prop
  | .applyDeviceJoinRewards deviceId _ _ _ | .issueToken deviceId _ _ =>
    ∃ req, arrival.request = .exchange req ∧ deviceId = req.deviceId ∧
      config.verifySignature req.deviceId req.nonce req.signature = .ok ⟨⟩
  | .linkDeviceToAccount _ accountUserId _ _ =>
    ∃ req, arrival.request = .linkAccount req ∧
      normalizeAccountUserId req.accountUserId = .ok accountUserId
  | .applyAccountJoinRewards _ _ _ _ _ => ∃ req, arrival.request = .linkAccount req
  | .createAccountSession accountUserId _ _ _ _ _ =>
    ∃ email, VerifiesEmail config arrival before email ∧ HasEmail before accountUserId email
  | .recordAccountOnchainDeposit requester req _ _ =>
    ∀ txSignature, normalizedOptionalString req.txSignature = some txSignature →
      ∃ accountUserId address cents tx,
        arrival.claim before = some (txSignature, accountUserId, address) ∧
        db.accountUserIdForDevice requester = some accountUserId ∧
        req.amountUsdcCents = some cents ∧
        Pays config.solana arrival.moment.rpc txSignature address cents tx
  | .recordAccountTreasuryDeposit requester txSignature cents _ address _ _ =>
    (∃ reported, arrival.request = .depositTreasury reported) ∧
      address = config.solana.treasuryAddress ∧
      ∃ accountUserId tx, db.accountUserIdForDevice requester = some accountUserId ∧
        treasuryDepositMemo accountUserId ∈ tx.memos ∧
        Pays config.solana arrival.moment.rpc txSignature address cents tx
  | .adminMint _ _ _ _ => ∃ req, arrival.request = .mint req
  | .submitAccountWithdrawal _ _ _ _ => ∃ req, arrival.request = .withdraw req
  | .completeAccountWithdrawalFromTreasury requestId _ _ =>
    ∃ txSignature, arrival.request = .completeWithdrawal requestId txSignature
  | .rejectAccountWithdrawal requestId reason _ =>
    arrival.request = .rejectWithdrawal requestId reason
  | .resetGenesis => arrival.request = .resetGenesis ∧
      (config.lookupStatic arrival.token).isSome = true
  | .recordBonus _ _ _ | .recordAccountBonus _ _ _ _ _
  | .reconcileAvailabilitySessions _ _
  | .backfillFundedShareKeyContributions _ _ => False
  | _ => True

structure Entitled (config : Config) (arrival : Arrival) (before db : Db)
    (call : Call) : Prop where
  credential : ∀ accountUserId, call.actsFor db = some accountUserId →
    Credential config.sha256 db arrival.token accountUserId
  grounds : Grounds config arrival before db call

abbrev Serves (config : Config) (arrival : Arrival) (before : Db) {α : Type}
    (handler : Handler α) (db : Db) (post : α → Db → Prop) : Prop :=
  Performs (execute config.sha256) (Entitled config arrival before) handler db post

/-- It serves, whatever it returns. -/
abbrev Obeys (config : Config) (arrival : Arrival) (before : Db) {α : Type} (handler : Handler α)
    (db : Db) : Prop :=
  Serves config arrival before handler db fun _ _ => True

section Handlers

variable {config : Config} {arrival : Arrival} {before db : Db} {α : Type}

theorem Entitled.of_free (acts : call.actsFor db = none)
    (grounds : Grounds config arrival before db call) : Entitled config arrival before db call :=
  ⟨fun _ actsFor => absurd (acts.symm.trans actsFor) nofun, grounds⟩

theorem Entitled.of_account (acts : call.actsFor db = some accountUserId)
    (credential : Credential config.sha256 db arrival.token accountUserId)
    (grounds : Grounds config arrival before db call) : Entitled config arrival before db call := by
  refine ⟨fun other actsFor => ?_, grounds⟩
  rw [← some.inj (acts.symm.trans actsFor)]
  exact credential

/-- What the handlers call the ledger with is never negative. -/
theorem Entitled.promised (entitled : Entitled config arrival before db call) : call.Promised := by
  have grounds := entitled.grounds
  cases call with
  | recordBonus | recordAccountBonus | reconcileAvailabilitySessions => exact grounds.elim
  | _ => trivial

theorem Serves.done {handler : Handler α} {post : α → Db → Prop}
    (serves : Serves config arrival before handler db post) :
    Obeys config arrival before handler.done db :=
  serves.bind fun _ _ _ => .pure trivial

/-! ## The middleware -/

/-- What `require_bearer` establishes: the token authenticates the principal,
only the last use of a key or the life of a session was written, and a session
was resolved. -/
structure Admitted (config : Config) (token : String) (now : Timestamp) (db : Db)
    (principal : PrincipalKind) (state : Db) : Prop where
  authenticated : Authenticates config token state principal
  framed : Within [.apiKeys, .accountSessions] db state
  resolved : ∀ account sessionId, principal = .accountSession account sessionId →
    ∃ session, resolveAccountSession config.sha256 db token now = (state, some session)

theorem admitApiKey_serves (stored : db.apiKeys.find? key.1 = some key.2)
    (hashed : key.2.keyHash = config.sha256 token) :
    Serves config arrival before (admitApiKey key now) db (Admitted config token now db) := by
  unfold admitApiKey
  split
  · exact .throw
  · refine .bind (.perform (.touchLastUsed ..) rfl (.of_free rfl trivial)) ?_
    intro _ state touched
    have same : touchLastUsed db key.1 now = state := Except.ok.inj touched
    subst same
    refine .pure ⟨⟨{ key.2 with lastUsedAt := some now }, ?_, hashed, rfl⟩, rfl, nofun⟩
    rw [touchLastUsed, Table.find?_modify_self, stored]
    rfl

theorem resolveAccountSession_stored
    (resolved : resolveAccountSession sha256 db token now = (state, some session)) :
    ∃ row, state.accountSessions.find? session.sessionId = some row ∧
      row.tokenHash = hashAccountSessionToken sha256 token ∧
      row.accountUserId = session.accountUserId := by
  rcases resolveAccountSession_cases sha256 db token now with
    same | ⟨row, expiresAt, -, found, -, same⟩
  · exact nomatch same.symm.trans resolved
  · cases same.symm.trans resolved
    have matching := find?_some found
    simp only [Bool.and_eq_true, decide_eq_true_eq] at matching
    have stored := Table.mem_rows_iff_find?.mp
      (mem_of_find?_eq_some found)
    refine ⟨{ row.2 with expiresAt, lastSeenAt := now }, ?_, matching.1, rfl⟩
    rw [Table.find?_modify_self, stored, map_some]

theorem admitSession_serves : Serves config arrival before (admitSession config.sha256 token now) db
      (Admitted config token now db) := by
  refine .bind (.transact (.resolveAccountSession ..) rfl (.of_free rfl trivial)) ?_
  intro session state resolved
  cases session with
  | none => exact .throw
  | some session =>
    have result : resolveAccountSession config.sha256 db token now =
        (state, some session) := Except.ok.inj resolved
    have framed : Within [.accountSessions] db state := by
      have within := resolveAccountSession_within config.sha256 db token now
      rwa [result] at within
    exact .pure ⟨resolveAccountSession_stored result, framed.mono (by decide),
      fun _ _ _ => ⟨session, result⟩⟩

theorem requireShareKey_serves : Serves config arrival before (requireShareKey token now) db
      (Admitted config token now db) := by
  refine .of_unchanged rfl fun principal resolved => ?_
  rw [requireShareKey, serve_query] at resolved
  split at resolved
  case h_1 => exact Except.ok.inj resolved ▸ ⟨trivial, rfl, nofun⟩
  case h_2 => exact nomatch resolved
  case h_3 => exact nomatch resolved
  case h_4 => exact nomatch resolved
  case h_5 => exact nomatch resolved

theorem requireBearer_serves : Serves config arrival before
      (requireBearer config arrival.headers arrival.moment.now) db
      (Admitted config arrival.token arrival.moment.now db) := by
  unfold requireBearer
  dsimp only
  split
  · exact .throw
  · split
    case h_1 scope isStatic => exact .pure ⟨isStatic, rfl, by simp⟩
    case h_2 =>
      refine .after .query fun device resolved => ?_
      cases device with
      | some deviceId =>
        have issued : resolveToken db arrival.token arrival.moment.now =
            some deviceId := Except.ok.inj resolved
        simp only [resolveToken, map_eq_some_iff, filter_eq_some_iff] at issued
        obtain ⟨row, ⟨stored, -⟩, isDevice⟩ := issued
        exact .pure ⟨⟨row, stored, isDevice⟩, rfl, by simp⟩
      | none =>
        refine .after .query fun key resolvedKey => ?_
        cases key with
        | some key =>
          have found : resolveApiKey config.sha256 db arrival.token =
              some key := Except.ok.inj resolvedKey
          unfold resolveApiKey at found
          split at found
          · have stored := Table.mem_rows_iff_find?.mp
              (mem_of_find?_eq_some found)
            have hashed : key.2.keyHash = config.sha256 arrival.token := by
              simpa using find?_some found
            exact admitApiKey_serves stored hashed
          · cases found
        | none =>
          dsimp only
          split
          · exact admitSession_serves
          · exact requireShareKey_serves

/-! ## Logging in -/

theorem challenge_serves : Obeys config arrival before (challenge arrival.moment deviceId) db := by
  refine .after .refuseIf fun _ _ => ?_
  refine .after .refuseIf fun _ _ => ?_
  refine .bind (.perform (.upsertDevice ..) rfl (.of_free rfl trivial)) ?_
  intro _ state _
  exact .answer (.transact (.createChallenge ..) rfl (.of_free rfl trivial)) fun _ _ _ => trivial

theorem exchange_serves {req : ExchangeReq} (isRequest : arrival.request = .exchange req) :
    Obeys config arrival before (exchange config arrival.moment req) db := by
  refine .after .refuseIf fun _ _ => ?_
  refine .after .outcome fun _ checked => ?_
  have signed : config.verifySignature req.deviceId req.nonce req.signature =
      .ok ⟨⟩ := mapError_eq_ok.mp checked
  refine .bind (.transact (.consumeChallenge ..) rfl (.of_free rfl trivial)) ?_
  intro consumed state _
  refine .after .refuseIf fun _ _ => ?_
  refine .bind (.transact (.applyDeviceJoinRewards ..) rfl
    (.of_free rfl ⟨req, isRequest, rfl, signed⟩)) ?_
  intro rewards rewarded _
  exact .answer (.transact (.issueToken ..) rfl (.of_free rfl ⟨req, isRequest, rfl, signed⟩)) fun _ _ _ => trivial

theorem requestEmailCode_serves {linkToken : Option String} : Obeys config arrival before
      (requestEmailCode config arrival.moment email linkToken) db := by
  refine .after .require fun normalized _ => ?_
  refine .bind (.transact (.createAccountEmailCode ..) rfl (.of_free rfl trivial)) ?_
  intro created state _
  exact .answer .outcome fun _ _ _ => trivial

theorem checkEmailCode_serves :
    Serves config arrival before (checkEmailCode config arrival.moment email code)
      db fun accepted state =>
        verifyAccountEmailCode config.sha256 db email code arrival.moment.now =
            .ok (state, .accepted accepted) ∧
          state.accountWallets = db.accountWallets := by
  refine .bind (.transact (.verifyAccountEmailCode ..) rfl (.of_free rfl trivial)) ?_
  intro checked state ran
  cases checked with
  | invalidCode => exact .throw
  | accepted email =>
    have framed := verifyAccountEmailCode_within ran
    exact .pure ⟨ran, framed.read (·.accountWallets) fun _ => rfl⟩

theorem hasEmail_of_accountUserIdForLogin
    (ran : accountUserIdForLogin db email now = .ok (state, accountUserId)) :
    HasEmail db accountUserId email := by
  simp only [accountUserIdForLogin, ok_iff] at ran
  obtain ⟨normalized, isNormalized, ran⟩ := ran
  refine ⟨normalized, isNormalized, ?_⟩
  split at ran
  case h_1 row found =>
    obtain ⟨-, rfl⟩ := Prod.mk.inj (pure_eq_ok.mp ran)
    have stored := Table.mem_rows_iff_find?.mp
      (mem_of_find?_eq_some found)
    have carries : row.2.email.map toAsciiLowercase = some normalized :=
      by simpa using find?_some found
    exact .inr ⟨row.2, stored, carries⟩
  case h_2 =>
    obtain ⟨-, rfl⟩ := Prod.mk.inj (pure_eq_ok.mp ran)
    exact .inl rfl

theorem HasEmail.congr (has : HasEmail state accountUserId email)
    (same : state.accountWallets = db.accountWallets) : HasEmail db accountUserId email := by
  unfold HasEmail at has ⊢
  rwa [same] at has

theorem openSession_serves {deviceId deviceName : Option String}
    (verified : VerifiesEmail config arrival before email)
    (same : state.accountWallets = before.accountWallets) : Obeys config arrival before
      (openSession config arrival.moment email deviceId deviceName) state := by
  refine .bind (.transact (.accountUserIdForLogin ..) rfl (.of_free rfl trivial)) ?_
  intro accountUserId found ran
  have has := (hasEmail_of_accountUserIdForLogin ran).congr same
  exact .answer (.transact (.createAccountSession ..) rfl
      (.of_free rfl ⟨email, verified, has⟩)) fun _ _ _ => trivial

theorem verifyLogin_serves
    {req : EmailLoginVerifyReq} (isRequest : arrival.request = .verifyLogin req) :
    Obeys config arrival before (verifyLogin config arrival.moment req) before := by
  refine .bind checkEmailCode_serves ?_
  rintro email state ⟨accepted, same⟩
  refine openSession_serves ?_ same
  unfold VerifiesEmail
  rw [isRequest]
  exact ⟨state, accepted⟩

theorem followLink_serves (isRequest : arrival.request = .followLink token) :
    Obeys config arrival before (followLink config arrival.moment token) before := by
  refine .bind (.transact (.verifyAccountEmailLinkToken ..) rfl (.of_free rfl trivial)) ?_
  intro email state ran
  have executed : execute config.sha256 before
      (.verifyAccountEmailLinkToken token arrival.moment.now) = .ok state :=
    map_eq_ok.mpr ⟨_, ran, rfl⟩
  have framed : Within [.emailCodes] before state := execute_within executed
  refine openSession_serves ?_ (framed.read (·.accountWallets) fun _ => rfl)
  unfold VerifiesEmail
  rw [isRequest]
  exact ⟨state, ran⟩

/-! ## Acting for an account -/

theorem Authenticates.credential_of_device
    (authenticated : Authenticates config token db (.device deviceId)) (account : AccountUserId)
    (linked : db.accountUserIdForDevice deviceId = some account) :
    Credential config.sha256 db token account := by
  rcases authenticated with ⟨row, issued, rfl⟩
  exact .device issued linked

theorem Authenticates.credential_of_apiKey
    {role : ApiKeyRole} {creditLimit : Option ℤ} {usageCredits : ℤ}
    (authenticated : Authenticates config token db
      (.apiKey keyId accountUserId role creditLimit usageCredits)) :
    Credential config.sha256 db token accountUserId := by
  rcases authenticated with ⟨row, stored, hashed, rfl⟩
  exact .apiKey stored hashed

theorem Authenticates.credential_of_session
    (authenticated : Authenticates config token db (.accountSession accountUserId sessionId)) :
    Credential config.sha256 db token accountUserId := by
  rcases authenticated with ⟨row, stored, hashed, rfl⟩
  exact .session stored hashed

theorem Authenticates.credential_of_consumer
    (authenticated : Authenticates config token db principal)
    (consumes : consumerPrincipal principal = some consumer) (account : AccountUserId)
    (pays : consumer.account? = some account) : Credential config.sha256 db token account := by
  cases principal with
  | apiKey =>
    cases some.inj consumes
    cases some.inj pays
    exact authenticated.credential_of_apiKey
  | static => exact nomatch consumes
  | accountSession => exact nomatch consumes
  | device | share => cases some.inj consumes; exact nomatch pays

theorem Authenticates.credential_of_caller (authenticated : Authenticates config token db principal)
    (resolved : resolveCaller db principal = .ok caller) :
    Credential config.sha256 db token caller.accountUserId := by
  cases principal with
  | device deviceId =>
    simp only [resolveCaller, ok_iff] at resolved
    rcases resolved with ⟨accountUserId, linked, rfl⟩
    exact authenticated.credential_of_device accountUserId linked
  | apiKey =>
    cases Except.ok.inj resolved
    exact authenticated.credential_of_apiKey
  | accountSession =>
    cases Except.ok.inj resolved
    exact authenticated.credential_of_session
  | static => exact nomatch resolved
  | share => exact nomatch resolved

/-- The handlers that resolve the bearer themselves accept device tokens
only. -/
theorem deviceFromHeader_serves : Serves config arrival before
      (deviceFromHeader arrival.headers arrival.moment.now) db fun deviceId state =>
        Authenticates config arrival.token state (.device deviceId) ∧ state = db := by
  refine Performs.mono .query ?_
  rintro deviceId db ⟨resolved, rfl⟩
  refine ⟨?_, rfl⟩
  by_cases missing : arrival.headers.bearer = ""
  · rw [if_pos missing] at resolved
    exact nomatch resolved
  · rw [if_neg missing, getOr_eq_ok] at resolved
    simp only [resolveToken, map_eq_some_iff, filter_eq_some_iff] at resolved
    rcases resolved with ⟨row, ⟨issued, -⟩, isDevice⟩
    have same : arrival.token = arrival.headers.bearer := by
      rw [Arrival.token, tokenFromHeaders, if_pos missing]
    exact ⟨row, same ▸ issued, isDevice⟩

theorem settleServed_serves {served : Option ServedRequest}
    (authenticated : Authenticates config arrival.token db principal) : Obeys config arrival before
      (settleServed config arrival.moment principal served) db := by
  refine .after .outcome fun _ _ => ?_
  cases consumes : consumerPrincipal principal with
  | none => exact .pure trivial
  | some consumer =>
    cases served with
    | none => exact .pure trivial
    | some served =>
      refine .attempt (served.call consumer arrival.moment.now) rfl ?_
      cases served
      all_goals
        exact ⟨authenticated.credential_of_consumer consumes, trivial⟩

/-! ## Accounts -/

theorem linkAccount_serves {req : LinkAccountReq} (isRequest : arrival.request = .linkAccount req) :
    Obeys config arrival before (linkAccount arrival.moment principal req) db := by
  refine .after .outcome fun requester _ => ?_
  refine .after .refuseIf fun _ _ => ?_
  refine .after .outcome fun accountUserId normalized => ?_
  have named : normalizeAccountUserId req.accountUserId = .ok accountUserId :=
    mapError_eq_ok.mp normalized
  refine .after .query fun walletExists _ => ?_
  refine .bind (.perform (.linkDeviceToAccount ..) rfl (.of_free rfl ⟨req, isRequest, named⟩)) ?_
  intro _ linked _
  have rewarded : Obeys config arrival before
      (rewardNewAccount arrival.moment (!walletExists) requester accountUserId
        req.referralCode) linked := by
    unfold rewardNewAccount
    split
    · exact .answer (.transact (.applyAccountJoinRewards ..) rfl
          (.of_free rfl ⟨req, isRequest⟩)) fun _ _ _ => trivial
    · exact .pure trivial
  refine .bind rewarded ?_
  intro _ _ _
  exact .drop .query

theorem sweepDevice_serves :
    Obeys config arrival before (sweepDevice arrival.moment principal deviceId)
      db := by
  refine .after .outcome fun requester _ => ?_
  refine .after .refuseIf fun _ _ => ?_
  exact .drop (.transact (.sweepDeviceToAccount ..) rfl (.of_free rfl trivial))

theorem removeDevice_serves : Obeys config arrival before (removeDevice principal deviceId) db := by
  refine .after .outcome fun requester _ => ?_
  refine .after .refuseIf fun _ _ => ?_
  exact .drop (.transact (.removeDeviceFromAccount ..) rfl (.of_free rfl trivial))

/-! ## Deposits, withdrawals and transfers -/

theorem normalizedOptionalString_trim (normalized : normalizedOptionalString value = some trimmed) :
    RustText.trim trimmed = trimmed ∧
      normalizedOptionalString (some trimmed) = some trimmed := by
  rcases bind_eq_some_iff.mp normalized with ⟨text, -, trims⟩
  dsimp only at trims
  split at trims
  · exact nomatch trims
  · rename_i nonempty
    have same : trim text = trimmed := some.inj trims
    have again : trim trimmed = trimmed := by
      rw [← same, trim_trim]
    rw [same] at nonempty
    refine ⟨again, ?_⟩
    simp only [normalizedOptionalString, bind_some, again, if_neg nonempty]

theorem resolveAddress_of_within (framed : Within [.apiKeys, .accountSessions] before db) :
    resolveAccountOnchainAddressForDevice db requester requested =
      resolveAccountOnchainAddressForDevice before requester requested := by
  have devices := framed.read (·.accountDevices) fun _ => rfl
  have wallets := framed.read (·.accountWallets) fun _ => rfl
  simp only [resolveAccountOnchainAddressForDevice, loadRequesterWallet,
    Db.accountUserIdForDevice, devices, wallets]

section

variable (isRequest : arrival.request = .depositIntent intent)

include isRequest

theorem claim_of_resolved (named : normalizedOptionalString intent.txSignature = some txSignature)
    (authenticated : Authenticates config arrival.token db (.device requester))
    (resolved : resolveAccountOnchainAddressForDevice db requester
      intent.solanaAddress = .ok address)
    (framed : Within [.apiKeys, .accountSessions] before db) :
    ∃ accountUserId, arrival.claim before = some (txSignature, accountUserId, address) ∧
        db.accountUserIdForDevice requester = some accountUserId := by
  rcases authenticated with ⟨row, issued, rfl⟩
  have tokens := framed.read (·.tokens) fun _ => rfl
  have devices := framed.read (·.accountDevices) fun _ => rfl
  have atBefore := resolved
  rw [resolveAddress_of_within framed] at atBefore
  simp only [resolveAccountOnchainAddressForDevice, loadRequesterWallet, ok_iff] at resolved
  rcases resolved with ⟨_, ⟨accountUserId, linked, -⟩, -⟩
  refine ⟨accountUserId, ?_, linked⟩
  rw [tokens] at issued
  rw [Db.accountUserIdForDevice, devices] at linked
  simp only [Arrival.claim, isRequest, named, issued, Db.accountUserIdForDevice,
    linked, atBefore, Except.toOption, bind_eq_bind, bind_some]

theorem verifyIntent_serves
    (authenticated : Authenticates config arrival.token db (.device requester))
    (framed : Within [.apiKeys, .accountSessions] before db) : Serves config arrival before
      (verifyIntent config arrival.moment requester intent) db
      fun req state => state = db ∧ ∀ depositId now, Grounds config arrival before db
          (.recordAccountOnchainDeposit requester req depositId now) := by
  unfold verifyIntent
  cases normalized : normalizedOptionalString intent.txSignature with
  | none =>
    refine .pure ⟨rfl, fun _ _ txSignature named => ?_⟩
    exact nomatch normalized.symm.trans named
  | some signature =>
    refine .after .query fun address resolved => ?_
    refine .after .outcome fun verified checked => ?_
    refine .pure ⟨rfl, fun _ _ txSignature named => ?_⟩
    rcases claim_of_resolved isRequest normalized authenticated
        (mapError_eq_ok.mp resolved) framed with
      ⟨accountUserId, claims, linked⟩
    rcases verifyUsdcDeposit_pays (mapError_eq_ok.mp checked) with
      ⟨isSignature, tx, pays⟩
    have trimmed := normalizedOptionalString_trim normalized
    rw [trimmed.1] at isSignature
    have same : signature = txSignature := by
      rw [isSignature, trimmed.2] at named
      exact some.inj named
    rw [isSignature, same] at pays
    rw [same] at claims
    exact ⟨accountUserId, address, _, tx, claims, linked, rfl, pays⟩

theorem depositIntent_serves
    (framed : Within [.apiKeys, .accountSessions] before db) : Obeys config arrival before
      (depositIntent config arrival.moment arrival.headers intent) db := by
  refine .bind deviceFromHeader_serves ?_
  rintro requester db ⟨authenticated, rfl⟩
  refine .bind (verifyIntent_serves isRequest authenticated framed) ?_
  rintro req db ⟨rfl, grounds⟩
  exact .drop (.transact (.recordAccountOnchainDeposit ..) rfl
    ⟨authenticated.credential_of_device, grounds _ _⟩)

end

theorem depositTreasury_serves (isRequest : arrival.request = .depositTreasury txSignature) :
    Obeys config arrival before
      (depositTreasury config arrival.moment arrival.headers txSignature) db := by
  refine .bind deviceFromHeader_serves ?_
  rintro requester db ⟨authenticated, rfl⟩
  refine .after .query fun accountUserId found => ?_
  have linked := getOr_eq_ok.mp found
  refine .after .outcome fun verified checked => ?_
  rcases verifyTreasuryDeposit_pays (mapError_eq_ok.mp checked) with
    ⟨tx, carries, pays⟩
  exact .drop (.transact (.recordAccountTreasuryDeposit ..) rfl
    ⟨authenticated.credential_of_device, ⟨txSignature, isRequest⟩, rfl, accountUserId, tx, linked,
      carries, pays⟩)

theorem withdraw_serves {req : AccountWithdrawalRequest}
    (isRequest : arrival.request = .withdraw req) : Obeys config arrival before
      (withdraw config arrival.moment arrival.headers req) db := by
  refine .bind deviceFromHeader_serves ?_
  rintro requester db ⟨authenticated, rfl⟩
  have unchanged : Serves config arrival before
      (verifyWithdrawalRequest config arrival.moment requester req) db
      fun _ state => state = db := by
    unfold verifyWithdrawalRequest
    split
    · exact .pure rfl
    · refine .after .query fun address _ => ?_
      refine .after .outcome fun verified _ => ?_
      exact .pure rfl
  refine .bind unchanged ?_
  rintro verified db rfl
  exact .drop (.transact (.submitAccountWithdrawal ..) rfl
    ⟨authenticated.credential_of_device, req, isRequest⟩)

theorem sendFromAccount_serves {req : SendReq}
    (authenticated : Authenticates config arrival.token db principal) :
    Obeys config arrival before (sendFromAccount arrival.moment principal req)
      db := by
  refine .after .refuseIf fun _ _ => ?_
  cases principal with
  | static => exact .throw
  | share => exact .throw
  | device deviceId =>
    exact .drop (.transact (.transferFromAccountWallet ..) rfl
      ⟨authenticated.credential_of_device, trivial⟩)
  | apiKey keyId accountUserId =>
    exact .drop (.transact (.transferFromAccountWalletForAccount ..) rfl
      (.of_account rfl authenticated.credential_of_apiKey trivial))
  | accountSession accountUserId =>
    exact .drop (.transact (.transferFromAccountWalletForAccount ..) rfl
      (.of_account rfl authenticated.credential_of_session trivial))

theorem sendFromDevice_serves {req : SendReq} : Obeys config arrival before
      (sendFromDevice arrival.moment arrival.headers req) db := by
  refine .bind deviceFromHeader_serves ?_
  rintro deviceId db ⟨-, rfl⟩
  refine .after .refuseIf fun _ _ => ?_
  exact .drop (.transact (.transferFromDeviceWallet ..) rfl (.of_free rfl trivial))

/-! ## Keys and networks -/

section

variable (authenticated : Authenticates config arrival.token db principal)

include authenticated

theorem asCaller_serves {next : Caller → Handler α} {post : α → Db → Prop}
    (serves : ∀ caller : Caller, Credential config.sha256 db arrival.token caller.accountUserId →
        Serves config arrival before (next caller) db post) : Serves config arrival before (do
        let caller ← query fun db => resolveCaller db principal
        requireManage caller
        next caller) db post := by
  refine .after .query fun caller resolved => ?_
  refine .after .refuseIf fun _ _ => ?_
  exact serves caller (authenticated.credential_of_caller resolved)

theorem createKey_serves {params : CreateApiKeyParams} : Obeys config arrival before
      (createKey config arrival.moment principal params) db :=
  asCaller_serves authenticated fun _ credential =>
    .drop (.transact (.createApiKey ..) rfl (.of_account rfl credential trivial))

theorem updateKey_serves {params : UpdateApiKeyParams} :
    Obeys config arrival before (updateKey principal keyId params) db :=
  asCaller_serves authenticated fun _ credential => .drop (.perform (.updateApiKey ..) rfl
      (.of_account rfl credential trivial))

theorem deleteKey_serves :
    Obeys config arrival before (deleteKey principal keyId) db :=
  asCaller_serves authenticated fun _ credential => .drop (.perform (.deleteApiKey ..) rfl
      (.of_account rfl credential trivial))

end

theorem mintShare_serves {req : MintShareKeyReq} :
    Obeys config arrival before (mintShare config arrival.moment principal req)
      db := by
  refine .after .outcome fun issuer _ => ?_
  refine .after .refuseIf fun _ _ => ?_
  refine .after .refuseIf fun _ _ => ?_
  exact .drop (.transact (.mintShareKey ..) rfl (.of_free rfl trivial))

theorem fundShare_serves {fundingId : String} {amountCredits : ℤ} : Obeys config arrival before
      (fundShare arrival.moment principal fundingId amountCredits) db := by
  refine .after .outcome fun sender _ => ?_
  refine .after .refuseIf fun _ _ => ?_
  exact .drop (.transact (.transferToShareKey ..) rfl (.of_free rfl trivial))

theorem revokeShare_serves :
    Obeys config arrival before (revokeShare arrival.moment principal keyId) db := by
  refine .after .outcome fun issuer _ => ?_
  refine .bind (.transact (.revokeShareKey ..) rfl (.of_free rfl trivial)) ?_
  intro revoked state _
  exact .drop .refuseIf

theorem createNetwork_serves {name : String} :
    Obeys config arrival before (createNetwork arrival.moment principal name) db := by
  refine .after .query fun account _ => ?_
  exact .drop (.perform (.createPin ..) rfl (.of_free rfl trivial))

/-! ## The operator -/

theorem asOperator_serves {next : PUnit → Handler α} {post : α → Db → Prop}
    (serves : Serves config arrival before (next ⟨⟩) db post) : Serves config arrival before (do
        let operator ← outcome (requireStatic principal)
        next operator) db post := by
  refine .bind .outcome ?_
  rintro ⟨⟩ db ⟨-, rfl⟩
  exact serves

theorem mint_serves {req : MintReq} (isRequest : arrival.request = .mint req) :
    Obeys config arrival before (mint arrival.moment principal req) db := by
  refine asOperator_serves (.bind .refuseIf ?_)
  rintro _ db ⟨-, rfl⟩
  exact .drop (.transact (.adminMint ..) rfl (.of_free rfl ⟨req, isRequest⟩))

theorem completeWithdrawal_serves {requestId : String}
    (isRequest : arrival.request = .completeWithdrawal requestId txSignature) :
    Obeys config arrival before
      (completeWithdrawal config arrival.moment principal requestId txSignature)
      db := by
  refine asOperator_serves (.bind .query ?_)
  rintro pending db ⟨-, rfl⟩
  refine .after .outcome fun verified _ => ?_
  exact .drop (.transact (.completeAccountWithdrawalFromTreasury ..) rfl
    (.of_free rfl ⟨txSignature, isRequest⟩))

theorem reset_serves (isRequest : arrival.request = .resetGenesis)
    (authenticated : Authenticates config arrival.token db principal) :
    Obeys config arrival before (reset principal) db := by
  cases principal with
  | static scope =>
    have operator : config.lookupStatic arrival.token = some scope := authenticated
    have isSome : (config.lookupStatic arrival.token).isSome = true := by
      rw [operator]
      rfl
    exact asOperator_serves (.drop (.transact .resetGenesis rfl
      (.of_free rfl ⟨isRequest, isSome⟩)))
  | _ => exact .throw

theorem payoutProvider_serves {providerId : ProviderId} {amount : ℤ} {destination : Option String} :
    Obeys config arrival before
      (payoutProvider arrival.moment principal providerId amount destination) db := by
  refine asOperator_serves (.bind .query ?_)
  rintro _ db ⟨-, rfl⟩
  exact .drop (.perform (.recordProviderPayout ..) rfl (.of_free rfl trivial))

theorem createProvider_serves {slug : String} :
    Obeys config arrival before (createProvider arrival.moment principal slug)
      db := by
  refine asOperator_serves (.bind (.perform (.upsertProvider ..) rfl (.of_free rfl trivial)) ?_)
  intro _ _ _
  exact .pure trivial

/-! ## Arrivals -/

theorem referralCode_serves :
    Obeys config arrival before (referralCode arrival.moment arrival.headers) db := by
  refine .after .query fun deviceId _ => ?_
  exact .drop (.transact (.referralCodeForDevice ..) rfl (.of_free rfl trivial))

theorem logout_serves : Obeys config arrival before
      (logout config arrival.moment arrival.headers principal) db := by
  cases principal with
  | accountSession =>
    exact .drop (.perform (.revokeAccountSession ..) rfl (.of_free rfl trivial))
  | _ => exact .throw

theorem verifyAccountEmail_serves {code : String} : Obeys config arrival before
      (verifyAccountEmail config arrival.moment email code) db := by
  exact .answer checkEmailCode_serves fun _ _ _ => trivial

theorem handleProtected_serves (authenticated : Authenticates config arrival.token db principal)
    (framed : Within [.apiKeys, .accountSessions] before db) :
    Obeys config arrival before (handleProtected config arrival principal) db := by
  unfold handleProtected
  dsimp only
  cases isRequest : arrival.request with
  | challenge | exchange | requestLoginCode | verifyLogin | followLink | read => exact .pure trivial
  | inference => exact settleServed_serves authenticated
  | requestAccountEmailCode => exact .done requestEmailCode_serves
  | verifyAccountEmail => exact .done verifyAccountEmail_serves
  | logout => exact logout_serves
  | referralCode => exact .done referralCode_serves
  | linkAccount => exact .done (linkAccount_serves isRequest)
  | sweepDevice => exact .done sweepDevice_serves
  | removeDevice => exact .done removeDevice_serves
  | depositIntent => exact .done (depositIntent_serves isRequest framed)
  | depositTreasury => exact .done (depositTreasury_serves isRequest)
  | withdraw => exact .done (withdraw_serves isRequest)
  | sendFromAccount => exact .done (sendFromAccount_serves authenticated)
  | sendFromDevice => exact .done sendFromDevice_serves
  | createKey => exact .done (createKey_serves authenticated)
  | updateKey => exact updateKey_serves authenticated
  | deleteKey => exact deleteKey_serves authenticated
  | mintShare => exact .done mintShare_serves
  | fundShare => exact .done fundShare_serves
  | revokeShare => exact revokeShare_serves
  | createNetwork => exact createNetwork_serves
  | mint => exact .done (mint_serves isRequest)
  | migrateShareKeys ids =>
    exact .done (asOperator_serves (.transact (.migrateUnfundedShareKeys ..) rfl
      (.of_free rfl trivial)))
  | completeWithdrawal => exact .done (completeWithdrawal_serves isRequest)
  | rejectWithdrawal requestId reason =>
    exact .done (asOperator_serves (.transact (.rejectAccountWithdrawal ..) rfl
        (.of_free rfl isRequest)))
  | refundExpired =>
    exact .done (asOperator_serves (.transact (.refundExpiredShareKeys ..) rfl
      (.of_free rfl trivial)))
  | createProvider => exact .done createProvider_serves
  | payoutProvider => exact payoutProvider_serves
  | resetGenesis => exact .done (reset_serves isRequest authenticated)

/-- Every call an arrival leads to is one it is entitled to. -/
theorem handle_serves (config : Config) (arrival : Arrival) (db : Db) :
    Serves config arrival db (handle config arrival) db fun _ _ => True := by
  have protectedServes : Serves config arrival db (do
        let principal ← requireBearer config arrival.headers arrival.moment.now
        handleProtected config arrival principal) db fun _ _ => True := by
    refine .bind requireBearer_serves ?_
    intro principal state admitted
    exact handleProtected_serves admitted.authenticated admitted.framed
  unfold handle
  dsimp only
  cases isRequest : arrival.request with
  | challenge => exact .done challenge_serves
  | exchange => exact .done (exchange_serves isRequest)
  | requestLoginCode => exact .done requestEmailCode_serves
  | verifyLogin => exact .done (verifyLogin_serves isRequest)
  | followLink => exact .done (followLink_serves isRequest)
  | _ => exact protectedServes

theorem respond_invariant (invariant : Db → Prop)
    (preserved : ∀ state call state', Entitled config arrival db state call → invariant state →
        execute config.sha256 state call = .ok state' → invariant state')
    (initially : invariant db) : invariant (respond config db arrival) :=
  (handle_serves config arrival db).invariant invariant preserved initially

end Handlers

end Teale.Gateway
