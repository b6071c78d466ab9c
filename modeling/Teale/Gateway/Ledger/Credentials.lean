import Teale.Gateway.Ledger.Accounts

/-!
# Credentials

Device tokens, API keys, email codes, magic links and account sessions. `sha256` is the hash of
the UTF-8 bytes of a text, in hexadecimal.
-/

namespace Teale.Gateway

open Relational Transactional RustText

/-! ## Device challenges and tokens -/

def challengeTtlSeconds : ℤ := 300

def tokenTtlSeconds : ℤ := 86400

def createChallenge (db : Db) (deviceId : DeviceId) (nonce : String) (now : Timestamp) :
    Db × Timestamp :=
  let expires := now + challengeTtlSeconds
  ({ db with
      challenges := (db.challenges.deleteWhere fun key _ =>
        key = (deviceId, nonce)).insertOrIgnore (deviceId, nonce) expires },
    expires)

def consumeChallenge (db : Db) (deviceId : DeviceId) (nonce : String) (now : Timestamp) :
    Db × Bool :=
  if (db.challenges.find? (deviceId, nonce)).any fun expires => now < expires then
    ({ db with
        challenges := db.challenges.deleteWhere fun key _ =>
          key = (deviceId, nonce) }, true)
  else
    (db, false)

def issueToken (db : Db) (deviceId : DeviceId) (token : String) (now : Timestamp) :
    Tx (Db × Timestamp) := do
  failIf ((db.tokens.find? token).isSome = true) (.sql (.unique "tokens" "token"))
  failIf ((db.devices.find? deviceId).isNone = true) (.sql (.foreignKey "tokens"))
  let expires := now + tokenTtlSeconds
  pure ({ db with tokens := db.tokens.insertOrIgnore token ⟨deviceId, expires⟩ }, expires)

def resolveToken (db : Db) (token : String) (now : Timestamp) : Option DeviceId :=
  ((db.tokens.find? token).filter fun row => now < row.expiresAt).map TokenRow.deviceId

/-! ## Share-key bearers -/

inductive ShareKeyRejection
  | revoked
  | expired
  | exhausted
  deriving DecidableEq, Repr

structure ResolvedShareKey where
  keyId : KeyId
  issuerDeviceId : DeviceId
  budgetCredits : ℤ
  consumedCredits : ℤ
  expiresAt : Timestamp
  deriving DecidableEq, Repr

def resolveShareKey (db : Db) (token : String) (now : Timestamp) :
    Except ShareKeyRejection (Option ResolvedShareKey) :=
  match db.shareKeys.rows.find? fun row => row.2.token = token with
  | none => .ok none
  | some row =>
    if row.2.revokedAt.isSome then
      .error .revoked
    else if row.2.expiresAt ≤ now then
      .error .expired
    else if row.2.budgetCredits ≤ row.2.consumedCredits then
      .error .exhausted
    else
      .ok (some ⟨row.1, row.2.issuerDeviceId, row.2.budgetCredits,
        row.2.consumedCredits, row.2.expiresAt⟩)

/-! ## API keys -/

def ApiKeyRole.tokenPrefix : ApiKeyRole → String
  | live => "tk_live_"
  | provisioning => "tk_prov_"

def looksLikeApiKey (token : String) : Bool :=
  (stripPrefix (ApiKeyRole.tokenPrefix .live) token).isSome ||
    (stripPrefix (ApiKeyRole.tokenPrefix .provisioning) token).isSome

/-- `display_prefix`: the marker and eight characters after it. A minted token
is its marker followed by hexadecimal digits, one byte each. -/
def displayPrefix (token : String) : String :=
  let marker := if looksLikeApiKey token then 8 else 0
  String.ofList (token.toList.take (marker + 8))

structure CreateApiKeyParams where
  name : Option String := none
  role : Option ApiKeyRole := none
  creditLimit : Option ℤ := none
  deriving DecidableEq, Repr

/-- `create_api_key`; `keyId` and `token` are the generated values. -/
def createApiKey (sha256 : String → String) (db : Db) (accountUserId : AccountUserId)
    (params : CreateApiKeyParams) (keyId token : String) (now : Timestamp) : Tx (Db × String) := do
  failIf ((params.creditLimit.any fun limit => limit < 0) = true) (.message "invalid credit limit")
  let name := normalizedOptionalString params.name
  failIf ((name.any fun text => 128 < len text) = true) (.message "invalid name")
  failIf ((db.apiKeys.find? keyId).isSome = true) (.sql (.unique "api_keys" "key_id"))
  failIf ((db.apiKeys.rows.any fun row => row.2.keyHash = sha256 token) = true)
    (.sql (.unique "api_keys" "key_hash"))
  failIf ((db.accountWallets.find? accountUserId).isNone = true) (.sql (.foreignKey "api_keys"))
  pure ({ db with
        apiKeys := db.apiKeys.insertOrIgnore keyId
          { accountUserId
            keyHash := sha256 token
            tokenPrefix := displayPrefix token
            name
            role := params.role.getD .live
            creditLimit := params.creditLimit
            usageCredits := 0
            disabled := false
            createdAt := now
            lastUsedAt := none } },
      token)

/-- `UpdateApiKeyParams`; an inner `none` clears the column. -/
structure UpdateApiKeyParams where
  name : Option (Option String) := none
  creditLimit : Option (Option ℤ) := none
  disabled : Option Bool := none
  deriving DecidableEq, Repr

def ownsApiKey (db : Db) (accountUserId : AccountUserId) (keyId : KeyId) : Bool :=
  (db.apiKeys.find? keyId).any fun row => row.accountUserId = accountUserId

def updateApiKey (db : Db) (accountUserId : AccountUserId) (keyId : KeyId)
    (params : UpdateApiKeyParams) : Tx Db := do
  failIf ((params.creditLimit.join.any fun limit => limit < 0) = true)
    (.message "invalid credit limit")
  failIf ((params.name.join.any fun text =>
      trim text = "" || 128 < len text) = true)
    (.message "invalid name")
  failIf (ownsApiKey db accountUserId keyId = false) (.message "api key not found")
  pure { db with
      apiKeys := db.apiKeys.modify keyId fun row =>
        { row with
          name := (params.name.map fun change =>
            change.map trim).getD row.name
          creditLimit := params.creditLimit.getD row.creditLimit
          disabled := params.disabled.getD row.disabled } }

/-- `delete_api_key`: the row stays for the account ledger's history. -/
def deleteApiKey (db : Db) (accountUserId : AccountUserId) (keyId : KeyId) : Tx Db := do
  failIf (ownsApiKey db accountUserId keyId = false) (.message "api key not found")
  pure { db with
      apiKeys := db.apiKeys.modify keyId fun row =>
        { row with disabled := true } }

def resolveApiKey (sha256 : String → String) (db : Db) (token : String) :
    Option (KeyId × ApiKeyRow) :=
  if looksLikeApiKey token then
    db.apiKeys.rows.find? fun row => row.2.keyHash = sha256 token
  else
    none

def touchLastUsed (db : Db) (keyId : KeyId) (now : Timestamp) : Db := { db with
    apiKeys := db.apiKeys.modify keyId fun row =>
      { row with lastUsedAt := some now } }

/-! ## Email codes and magic links -/

def emailCodeTtlSeconds : ℤ := 10 * 60

def emailCodeResendWindowSeconds : ℤ := 60

def emailCodeMaxAttempts : ℤ := 5

def normalizeAccountEmail (value : String) : Option String :=
  let trimmed := toLowercase (trim value)
  if contains trimmed '@' && contains trimmed '.' &&
      len trimmed ≤ 320 then
    some trimmed
  else
    none

def accountUserIdForEmail (email : String) : AccountUserId := "email:" ++ email

def hashAccountEmailCode (sha256 : String → String) (email code : String) : String :=
  sha256 (email ++ ":" ++ code)

def hashAccountSessionToken (sha256 : String → String) (token : String) : String :=
  sha256 ("account-session:" ++ token)

/-- The newest open row under a condition, `ORDER BY created_at DESC LIMIT
1`. -/
def newestOpenCode (db : Db) (condition : EmailCodeRow → Bool) : Option (String × EmailCodeRow) :=
  ((db.emailCodes.rows.filter fun row => condition row.2 && row.2.consumedAt.isNone).insertionSort
    fun left right => right.2.createdAt ≤ left.2.createdAt).head?

/-- `create_account_email_code` and, with a link token,
`create_account_email_login_code`. The result is the normalized address and
the time the code expires. -/
def createAccountEmailCode (sha256 : String → String) (db : Db) (email code : String)
    (linkToken : Option String) (id : String) (now : Timestamp) : Tx (Db × String × Timestamp) := do
  let email ← getOr (normalizeAccountEmail email)
    (.message "valid email is required")
  failIf ((newestOpenCode db fun row => row.email = email).any (fun row =>
      now - row.2.createdAt < emailCodeResendWindowSeconds) = true)
    (.message "wait before requesting another code")
  failIf ((db.emailCodes.find? id).isSome = true) (.sql (.unique "account_email_codes" "id"))
  let expiresAt := now + emailCodeTtlSeconds
  pure ({ db with
        emailCodes := db.emailCodes.insertOrIgnore id
          { email
            codeHash := hashAccountEmailCode sha256 email code
            createdAt := now
            expiresAt
            attempts := 0
            consumedAt := none
            linkTokenHash := linkToken.map (hashAccountSessionToken sha256) } },
      email, expiresAt)

/-- The outcome of a verification that was committed: a wrong code is counted
before the error is returned. -/
inductive EmailCheck
  | accepted (email : String)
  | invalidCode
  deriving DecidableEq, Repr

def verifyAccountEmailCode (sha256 : String → String) (db : Db) (email code : String)
    (now : Timestamp) : Tx (Db × EmailCheck) := do
  let email ← getOr (normalizeAccountEmail email)
    (.message "valid email is required")
  let normalizedCode := trim code
  failIf (len normalizedCode ≠ 6 ∨ normalizedCode.toList.all Char.isDigit = false)
    (.message "code must be 6 digits")
  let row ← getOr (newestOpenCode db fun row => row.email = email)
    (.message "code not found or already used")
  failIf (row.2.expiresAt < now) (.message "code expired")
  failIf (emailCodeMaxAttempts ≤ row.2.attempts) (.message "too many code attempts")
  if row.2.codeHash = hashAccountEmailCode sha256 email normalizedCode then
    pure ({ db with
          emailCodes := db.emailCodes.modify row.1 fun current =>
            { current with
              consumedAt := some now
              attempts := current.attempts + 1 } },
        .accepted email)
  else
    pure ({ db with
          emailCodes := db.emailCodes.modify row.1 fun current =>
            { current with attempts := current.attempts + 1 } },
        .invalidCode)

/-- `verify_account_email_link_token`: the address the link was sent to. -/
def verifyAccountEmailLinkToken (sha256 : String → String) (db : Db) (linkToken : String)
    (now : Timestamp) : Tx (Db × String) := do
  let row ← getOr
    (newestOpenCode db fun row =>
      row.linkTokenHash = some (hashAccountSessionToken sha256 linkToken))
    (.message "link not found or already used")
  failIf (row.2.expiresAt < now) (.message "link expired")
  pure ({ db with
        emailCodes := db.emailCodes.modify row.1 fun current =>
          { current with consumedAt := some now } },
      row.2.email)

/-! ## Account sessions -/

def accountSessionTtlSeconds : ℤ := 30 * 24 * 60 * 60

/-- `account_user_id_for_login`: the wallet that carries the address, or the
account named after it, whose wallet is created if need be. -/
def accountUserIdForLogin (db : Db) (email : String) (now : Timestamp) :
    Tx (Db × AccountUserId) := do
  let email ← getOr (normalizeAccountEmail email)
    (.message "valid email is required")
  match db.accountWallets.rows.find? fun row =>
      row.2.email.map toAsciiLowercase = some email with
  | some row => pure (db, row.1)
  | none =>
    let accountUserId := accountUserIdForEmail email
    pure ({ db with
          accountWallets := db.accountWallets.insertOrIgnore accountUserId
            { displayName := none
              phone := none
              email := some email
              githubUsername := none
              createdAt := now
              updatedAt := now } },
        accountUserId)

/-- `create_account_session`; `sessionId` and `token` are the generated
values. -/
def createAccountSession (sha256 : String → String) (db : Db) (accountUserId : AccountUserId)
    (deviceId deviceName : Option String) (sessionId token : String)
    (now : Timestamp) : Tx (Db × Timestamp) := do
  failIf ((db.accountSessions.find? sessionId).isSome = true)
    (.sql (.unique "account_sessions" "id"))
  failIf ((db.accountSessions.rows.any fun row =>
      row.2.tokenHash = hashAccountSessionToken sha256 token) = true)
    (.sql (.unique "account_sessions" "token_hash"))
  let expiresAt := now + accountSessionTtlSeconds
  pure ({ db with
        accountSessions := db.accountSessions.insertOrIgnore sessionId
          { accountUserId
            tokenHash := hashAccountSessionToken sha256 token
            createdAt := now
            expiresAt
            lastSeenAt := now
            deviceId
            deviceName
            revokedAt := none } },
      expiresAt)

structure AccountSession where
  sessionId : String
  accountUserId : AccountUserId
  expiresAt : Timestamp
  deriving DecidableEq, Repr

/-- `resolve_account_session`: a session past its half-life is extended. -/
def resolveAccountSession (sha256 : String → String) (db : Db) (token : String) (now : Timestamp) :
    Db × Option AccountSession :=
  if (stripPrefix "tsess_" token).isNone then
    (db, none)
  else
    match db.accountSessions.rows.find? fun row =>
        row.2.tokenHash = hashAccountSessionToken sha256 token && row.2.revokedAt.isNone with
    | none => (db, none)
    | some row =>
      if row.2.expiresAt < now then
        (db, none)
      else
        let expiresAt :=
          if row.2.expiresAt - accountSessionTtlSeconds / 2 < now then
            now + accountSessionTtlSeconds
          else
            row.2.expiresAt
        ({ db with
            accountSessions := db.accountSessions.modify row.1 fun current =>
              { current with expiresAt, lastSeenAt := now } },
          some ⟨row.1, row.2.accountUserId, expiresAt⟩)

def revokeAccountSession (sha256 : String → String) (db : Db) (token : String) (now : Timestamp) :
    Db :=
  { db with
    accountSessions := db.accountSessions.update fun _ row =>
      if row.tokenHash = hashAccountSessionToken sha256 token ∧
          row.revokedAt = none then
        { row with revokedAt := some now }
      else
        row }

end Teale.Gateway
