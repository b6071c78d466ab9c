import Teale.Gateway.Handlers.Account

/-!
# Key handlers

`handlers/keys.rs`, `handlers/share_keys.rs`, `handlers/wallet.rs`, and the creation of a network
in `handlers/pins.rs`.
-/

namespace Teale.Gateway

open Transactional Service

/-! ## API keys -/

structure Caller where
  accountUserId : AccountUserId
  canManage : Bool
  selfKeyId : Option KeyId
  deriving DecidableEq, Repr

def resolveCaller (db : Db) : PrincipalKind → Except Failure Caller
  | .device deviceId => do
    let accountUserId ← getOr (db.accountUserIdForDevice deviceId)
      (.error (.notFound "device is not linked to an account"))
    pure ⟨accountUserId, true, none⟩
  | .apiKey keyId accountUserId role _ _ => .ok ⟨accountUserId, role = .provisioning, some keyId⟩
  | .accountSession accountUserId _ => .ok ⟨accountUserId, true, none⟩
  | .static _ | .share _ _ _ => .error (.error (.forbidden "not authorized to manage api keys"))

def requireManage (caller : Caller) : Handler PUnit := refuseIf (caller.canManage = false)
    (.error (.forbidden ("live api keys cannot manage other keys; use a " ++
      "provisioning key or device bearer")))

def mapApiKeyError (error : LedgerError) : Failure :=
  match error with
  | .message "api key not found" => .error (.notFound "api key not found")
  | .message "invalid name" => .error (.badRequest "invalid name")
  | .message "invalid credit limit" => .error (.badRequest "invalid creditLimit")
  | _ => error.answer .other

def Moment.apiKeyToken (moment : Moment) (role : Option ApiKeyRole) : String :=
  (role.getD .live).tokenPrefix ++ moment.draw 1

def createKey (config : Config) (moment : Moment) (principal : PrincipalKind)
    (params : CreateApiKeyParams) : Handler String := do
  let caller ← query fun db => resolveCaller db principal
  requireManage caller
  transact (fun db => createApiKey config.sha256 db caller.accountUserId params
      (moment.draw 0) (moment.apiKeyToken params.role) moment.now)
    mapApiKeyError

def updateKey (principal : PrincipalKind) (keyId : KeyId)
    (params : UpdateApiKeyParams) : Handler PUnit := do
  let caller ← query fun db => resolveCaller db principal
  requireManage caller
  perform (fun db => updateApiKey db caller.accountUserId keyId params) mapApiKeyError

def deleteKey (principal : PrincipalKind) (keyId : KeyId) : Handler PUnit := do
  let caller ← query fun db => resolveCaller db principal
  requireManage caller
  perform (fun db => deleteApiKey db caller.accountUserId keyId) mapApiKeyError

/-! ## Share keys -/

def requireShareKeyDevice : PrincipalKind → Except Failure DeviceId
  | .device deviceId => .ok deviceId
  | .share _ _ _ => .error (.error (.unauthorized
      "share keys cannot call device-only share-key endpoints"))
  | .static _ | .apiKey _ _ _ _ _ | .accountSession _ _ =>
    .error (.error (.unauthorized "device bearer required"))

structure MintShareKeyReq where
  label : Option String
  expiresInSeconds : ℤ
  budgetCredits : ℤ
  deriving DecidableEq, Repr

def Moment.shareKeyIds (moment : Moment) : ShareKeyIds where
  keyId := moment.draw 0
  fundingId := "skf_" ++ moment.draw 1
  token := "tok_share_" ++ moment.draw 2
  contributionId := moment.draw 3

def mintShare (config : Config) (moment : Moment) (principal : PrincipalKind)
    (req : MintShareKeyReq) : Handler ShareKeyMinted := do
  let issuer ← outcome (requireShareKeyDevice principal)
  refuseIf (config.shareKeyIssuers = [])
    (.error (.forbidden "share-key issuance is not configured on this gateway"))
  refuseIf (issuer ∉ config.shareKeyIssuers)
    (.error (.forbidden "this device is not permitted to mint share keys"))
  transact (fun db => mintShareKey db issuer req.label req.expiresInSeconds
      req.budgetCredits moment.shareKeyIds moment.now)
    fun error => error.answer .badRequest

def mapFundError (error : LedgerError) : Failure :=
  match error with
  | .fund .notFound => .error (.notFound "share key funding target not found")
  | .fund .revoked => .error (.conflict "share key is revoked")
  | .fund .expired => .error (.conflict "share key is expired")
  | .fund .notMigrated => .error (.conflict
      "share key is not yet migrated to the funded-pool model")
  | .fund (.insufficientBalance balance required) => .error (.insufficientCredits balance required)
  | _ => error.answer .other

def fundShare (moment : Moment) (principal : PrincipalKind)
    (fundingId : String) (amountCredits : ℤ) : Handler ShareKeyFundingReceipt := do
  let sender ← outcome (requireShareKeyDevice principal)
  refuseIf (amountCredits ≤ 0) (.error (.badRequest "amountCredits must be > 0"))
  transact
    (fun db => transferToShareKey db sender fundingId amountCredits (moment.draw 0) moment.now)
    mapFundError

def revokeShare (moment : Moment) (principal : PrincipalKind) (keyId : KeyId) : Handler PUnit := do
  let issuer ← outcome (requireShareKeyDevice principal)
  let revoked ← transact
    (fun db => (.ok (revokeShareKey db issuer keyId moment.now) : Tx (Db × Bool)))
    fun error => error.answer fun text => .other ("revoke: " ++ text)
  refuseIf (revoked = false) (.error (.notFound "share key not found"))

/-! ## Device wallets and networks -/

def sendFromDevice (moment : Moment) (headers : Headers) (req : SendReq) :
    Handler TransferReceipt := do
  let deviceId ← deviceFromHeader headers moment.now
  requireCredits req.asset
  transact
    (fun db => transferFromDeviceWallet db deviceId req.recipient req.amount req.memo moment.now)
    mapTransferError

def accountOf (db : Db) : PrincipalKind → Option AccountUserId
  | .device deviceId => db.accountUserIdForDevice deviceId
  | .apiKey _ accountUserId _ _ _ => some accountUserId
  | .static _ | .share _ _ _ | .accountSession _ _ => none

def createNetwork (moment : Moment) (principal : PrincipalKind)
    (name : String) : Handler PUnit := do
  let account ← query fun db =>
    getOr (accountOf db principal) (.error (.forbidden
      "creating a network requires a device linked to a Teale account"))
  perform (fun db => createPin db (moment.draw 0) name account) fun error => error.answer .other

end Teale.Gateway
