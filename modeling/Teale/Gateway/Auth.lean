import Teale.Gateway.Ledger.Call
import Teale.Gateway.Solana
import Teale.Lib.Service

/-!
# Requests and bearers

What every handler starts from: its errors, the configuration, and the middleware that turns a
bearer token into a principal. A handler is a `Service` over the database.
-/

namespace Teale.Gateway

open Transactional Service

/-! ## Errors -/

inductive GatewayError
  | unauthorized (message : String)
  | badRequest (message : String)
  | notFound (message : String)
  | forbidden (message : String)
  | conflict (message : String)
  | budgetExhausted
  | rateLimited (message : String)
  | insufficientCredits (balance required : ℤ)
  | modelNotFound (model : String)
  | noEligibleDevice (model : String)
  | heavyContention (model : String)
  | promptExceedsContext (model : String) (estimated ceiling : ℕ)
  | upstream (message : String)
  | allUpstreamsFailed (message : String)
  | upstreamTimeout
  | atCapacity (model : String)
  | relayUnavailable (message : String)
  | other (message : String)
  deriving DecidableEq, Repr

/-- A request that was not answered: a bare status from the middleware, an
error of the handler, or a panic that unwinds it. -/
inductive Failure
  | status (code : ℕ)
  | error (failure : GatewayError)
  | panic
  deriving DecidableEq, Repr

def SqlError.text : SqlError → String
  | foreignKey _ => "FOREIGN KEY constraint failed"
  | unique table column => "UNIQUE constraint failed: " ++ table ++ "." ++ column
  | check table column => "CHECK constraint failed: " ++ table ++ "." ++ column
  | noRows => "Query returned no rows"

/-- An error of the ledger as it is displayed. `FundShareKeyError` has no
text; its one handler matches on it. -/
def LedgerError.text : LedgerError → String
  | message text => text
  | sql failure => failure.text
  | panic => "panic"
  | fund _ => ""
  | transfer failure => failure.text
  | onchain failure => failure.text
  | referral failure => failure.text

/-- Answer with a message made from the error's text, unless the ledger
panicked. -/
def LedgerError.answer (error : LedgerError) (respond : String → GatewayError) : Failure :=
  match error with
  | panic => .panic
  | error => .error (respond error.text)

/-! ## Configuration and moment -/

/-- What does not change while the gateway runs. `verifySignature` is the
decoding of key, nonce and signature and the ed25519 check. -/
structure Config where
  sha256 : String → String
  verifySignature : DeviceId → String → String → Except GatewayError PUnit
  /-- `GATEWAY_TOKENS`: static tokens and their scopes. -/
  tokens : List (String × String)
  shareKeyIssuers : List DeviceId
  solana : SolanaConfig

/-- A gateway without static tokens; its hash is the identity and it takes every
signature. -/
def bareConfig : Config where
  sha256 := id
  verifySignature := fun _ _ _ => .ok ⟨⟩
  tokens := []
  shareKeyIssuers := []
  solana := .default

/-- What a request finds when it is handled: the clock, the Solana node, the
decision of the challenge limiter, whether email can be sent, and the values
it draws at random. -/
structure Moment where
  now : Timestamp
  rpc : Rpc
  challengeDenied : Bool
  sendEmail : Except GatewayError PUnit
  draw : ℕ → String

abbrev Handler (α : Type) := Service Db Failure α

/-! ## Headers -/

structure Headers where
  authorization : Option String
  xApiKey : Option String
  deriving DecidableEq, Repr

def Headers.bearer (headers : Headers) : String :=
  RustText.trim ((RustText.stripPrefix "Bearer " (headers.authorization.getD "")).getD "")

def tokenFromHeaders (headers : Headers) : String :=
  if headers.bearer ≠ "" then
    headers.bearer
  else
    RustText.trim (headers.xApiKey.getD "")

/-! ## Principals -/

inductive PrincipalKind
  | static (scope : String)
  | device (deviceId : DeviceId)
  | share (issuerDeviceId : DeviceId) (keyId : KeyId) (budgetRemaining : ℤ)
  | apiKey (keyId : KeyId) (accountUserId : AccountUserId) (role : ApiKeyRole)
      (creditLimit : Option ℤ) (usageCredits : ℤ)
  | accountSession (accountUserId : AccountUserId) (sessionId : String)
  deriving DecidableEq, Repr

def Config.lookupStatic (config : Config) (token : String) : Option String :=
  (config.tokens.find? fun entry => entry.1 = token).map Prod.snd

/-- The share-key step of `require_bearer`, which is the last one: the
fallback for development needs a gateway without a database. -/
def requireShareKey (token : String) (now : Timestamp) : Handler PrincipalKind :=
  query fun db =>
    match resolveShareKey db token now with
    | .ok (some resolved) =>
      .ok (.share resolved.issuerDeviceId resolved.keyId
        (resolved.budgetCredits - resolved.consumedCredits))
    | .ok none => .error (.status 401)
    | .error .exhausted => .error (.status 402)
    | .error .expired | .error .revoked => .error (.status 401)

def admitApiKey (key : KeyId × ApiKeyRow) (now : Timestamp) : Handler PrincipalKind := do
  if key.2.disabled then
    throw (.status 401)
  else
    perform (fun db => (.ok (touchLastUsed db key.1 now) : Tx Db)) fun _ => .panic
    pure (.apiKey key.1 key.2.accountUserId key.2.role key.2.creditLimit key.2.usageCredits)

def admitSession (sha256 : String → String) (token : String) (now : Timestamp) :
    Handler PrincipalKind := do
  let session ← transact
    (fun db => (.ok (resolveAccountSession sha256 db token now) : Tx (Db × Option AccountSession)))
    fun _ => .panic
  match session with
  | some session => pure (.accountSession session.accountUserId session.sessionId)
  | none => throw (.status 401)

def requireBearer (config : Config) (headers : Headers) (now : Timestamp) :
    Handler PrincipalKind := do
  let token := tokenFromHeaders headers
  if token = "" then
    throw (.status 401)
  else
    match config.lookupStatic token with
    | some scope => pure (.static scope)
    | none => do
      let device ← query fun db => .ok (resolveToken db token now)
      match device with
      | some deviceId => pure (.device deviceId)
      | none => do
        let key ← query fun db =>
          .ok (resolveApiKey config.sha256 db token)
        match key with
        | some key => admitApiKey key now
        | none =>
          if (RustText.stripPrefix "tsess_" token).isSome then
            admitSession config.sha256 token now
          else
            requireShareKey token now

def deviceFromHeader (headers : Headers) (now : Timestamp) : Handler DeviceId :=
  query fun db =>
    if headers.bearer = "" then
      .error (.error (.unauthorized "missing bearer"))
    else
      getOr (resolveToken db headers.bearer now)
        (.error (.unauthorized "unknown or expired device token"))

/-! ## Who a principal is -/

/-- What the database holds under a token that was accepted as a principal of
the kind. -/
def Authenticates (config : Config) (token : String) (db : Db) : PrincipalKind → Prop
  | .static scope => config.lookupStatic token = some scope
  | .device deviceId => ∃ row, db.tokens.find? token = some row ∧ row.deviceId = deviceId
  | .share _ _ _ => True
  | .apiKey keyId accountUserId _ _ _ =>
    ∃ row, db.apiKeys.find? keyId = some row ∧
      row.keyHash = config.sha256 token ∧ row.accountUserId = accountUserId
  | .accountSession accountUserId sessionId =>
    ∃ row, db.accountSessions.find? sessionId = some row ∧
      row.tokenHash = hashAccountSessionToken config.sha256 token ∧
      row.accountUserId = accountUserId

end Teale.Gateway
