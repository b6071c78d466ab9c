import Teale.Gateway.Auth

/-!
# Login handlers

`handlers/auth.rs`, `handlers/account_email.rs` and `handlers/account_auth.rs`.
-/

namespace Teale.Gateway

open Transactional Service

def mapReferralError (error : LedgerError) : Failure :=
  match error with
  | .referral .invalidCode => error.answer .badRequest
  | .referral .selfReferral | .referral .deviceAlreadyClaimed
  | .referral .accountAlreadyClaimed => error.answer .conflict
  | .referral .accountNotLinked => error.answer .notFound
  | _ => error.answer .other

/-! ## Devices -/

def isHexPubkey (text : String) : Bool :=
  RustText.len text == 64 && text.toList.all RustText.isAsciiHexdigit

def challenge (moment : Moment) (deviceId : String) : Handler (String × Timestamp) := do
  refuseIf (isHexPubkey deviceId = false)
    (.error (.badRequest "deviceID must be 64-char hex pubkey"))
  refuseIf (moment.challengeDenied = true)
    (.error (.rateLimited ("too many new device identities from this " ++
      "network; retry an existing identity or try again within the hour")))
  perform (fun db => (.ok (upsertDevice db deviceId moment.now).1 : Tx Db))
    fun error => error.answer fun text => .other ("upsert device: " ++ text)
  let nonce := moment.draw 0
  let expiresAt ← transact
    (fun db => (.ok (createChallenge db deviceId nonce moment.now) : Tx (Db × Timestamp)))
    fun error => error.answer fun text => .other ("create challenge: " ++ text)
  pure (nonce, expiresAt)

structure ExchangeReq where
  deviceId : String
  nonce : String
  signature : String
  referralCode : Option String
  deriving DecidableEq, Repr

structure ExchangeRes where
  token : String
  expiresAt : Timestamp
  welcomeBonus : Option ℤ
  referralBonus : Option ℤ
  deriving DecidableEq, Repr

def Moment.deviceToken (moment : Moment) : String := "tok_dev_" ++ moment.draw 1

def exchange (config : Config) (moment : Moment) (req : ExchangeReq) : Handler ExchangeRes := do
  refuseIf (isHexPubkey req.deviceId = false)
    (.error (.badRequest "deviceID must be 64-char hex pubkey"))
  let _ ← outcome ((config.verifySignature req.deviceId req.nonce
    req.signature).mapError Failure.error)
  let consumed ← transact
    (fun db => (.ok (consumeChallenge db req.deviceId req.nonce moment.now) : Tx (Db × Bool)))
    fun error => error.answer fun text => .other ("consume challenge: " ++ text)
  refuseIf (consumed = false) (.error (.unauthorized "challenge not found or expired"))
  let rewards ← transact
    (fun db => applyDeviceJoinRewards db req.deviceId req.referralCode (moment.draw 0) moment.now)
    mapReferralError
  let expiresAt ← transact
    (fun db => issueToken db req.deviceId moment.deviceToken moment.now)
    fun error => error.answer fun text => .other ("issue token: " ++ text)
  pure
    { token := moment.deviceToken
      expiresAt
      welcomeBonus := if 0 < rewards.welcomeBonusCredits then
        some rewards.welcomeBonusCredits else none
      referralBonus := if 0 < rewards.referralBonusCredits then
        some rewards.referralBonusCredits else none }

def referralCode (moment : Moment) (headers : Headers) : Handler ReferralCodeSnapshot := do
  let deviceId ← query fun db =>
    getOr (resolveToken db headers.bearer moment.now)
      (.error (.unauthorized "unknown or expired device token"))
  transact (fun db => referralCodeForDevice db deviceId (moment.draw 0) moment.now)
    fun error => error.answer fun text => .other ("referral code: " ++ text)

/-! ## Email codes -/

/-- The body of the two `request` handlers, of `account_email.rs` and of
`account_auth.rs`; only a login has a link token. The code stays stored when
the email cannot be sent. -/
def requestEmailCode (config : Config) (moment : Moment) (email : String)
    (linkToken : Option String) : Handler (String × Timestamp) := do
  let email ← require (normalizeAccountEmail email)
    (.error (.badRequest "valid email is required"))
  let created ← transact
    (fun db => createAccountEmailCode config.sha256 db email (moment.draw 0)
      linkToken (moment.draw 2) moment.now)
    fun error => error.answer .badRequest
  let _ ← outcome (moment.sendEmail.mapError Failure.error)
  pure created

def requestAccountEmailCode (config : Config) (moment : Moment)
    (email : String) : Handler (String × Timestamp) :=
  requestEmailCode config moment email none

def requestLoginCode (config : Config) (moment : Moment) (email : String) :
    Handler (String × Timestamp) :=
  requestEmailCode config moment email (some ("tsess_" ++ moment.draw 1))

/-- `verify_account_email_code` as the handlers see it: a wrong code is an
error after its attempt has been counted. -/
def checkEmailCode (config : Config) (moment : Moment) (email code : String) : Handler String := do
  let checked ← transact
    (fun db => verifyAccountEmailCode config.sha256 db email code moment.now)
    fun error => error.answer .badRequest
  match checked with
  | .accepted email => pure email
  | .invalidCode => throw (.error (.badRequest "invalid code"))

def verifyAccountEmail (config : Config) (moment : Moment)
    (email code : String) : Handler (AccountUserId × String) := do
  let email ← checkEmailCode config moment email code
  pure (accountUserIdForEmail email, email)

/-! ## Account sessions -/

structure EmailLoginVerifyRes where
  sessionToken : String
  expiresAt : Timestamp
  accountUserId : AccountUserId
  email : String
  deriving DecidableEq, Repr

def Moment.sessionToken (moment : Moment) : String := "tsess_" ++ moment.draw 1

/-- The second half of `account_auth::verify` and `account_auth::link`: a
session for the account of a verified address. -/
def openSession (config : Config) (moment : Moment) (email : String)
    (deviceId deviceName : Option String) : Handler EmailLoginVerifyRes := do
  let accountUserId ← transact
    (fun db => accountUserIdForLogin db email moment.now)
    fun error => error.answer .other
  let expiresAt ← transact
    (fun db => createAccountSession config.sha256 db accountUserId deviceId
      deviceName (moment.draw 0) moment.sessionToken moment.now)
    fun error => error.answer .other
  pure
    { sessionToken := moment.sessionToken
      expiresAt
      accountUserId
      email }

structure EmailLoginVerifyReq where
  email : String
  code : String
  deviceId : Option String
  deviceName : Option String
  deriving DecidableEq, Repr

def verifyLogin (config : Config) (moment : Moment)
    (req : EmailLoginVerifyReq) : Handler EmailLoginVerifyRes := do
  let email ← checkEmailCode config moment req.email req.code
  openSession config moment email req.deviceId req.deviceName

/-- `account_auth::link`; the page or redirect it answers with carries the
token. -/
def followLink (config : Config) (moment : Moment) (token : String) :
    Handler EmailLoginVerifyRes := do
  let email ← transact
    (fun db => verifyAccountEmailLinkToken config.sha256 db token moment.now)
    fun error => error.answer .badRequest
  openSession config moment email none none

def logout (config : Config) (moment : Moment) (headers : Headers)
    (principal : PrincipalKind) : Handler PUnit :=
  match principal with
  | .accountSession _ _ =>
    perform
      (fun db => (.ok (revokeAccountSession config.sha256 db headers.bearer moment.now) : Tx Db))
      fun _ => .panic
  | _ => throw (.error (.unauthorized "account session bearer required"))

end Teale.Gateway
