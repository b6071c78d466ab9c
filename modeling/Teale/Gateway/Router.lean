import Teale.Gateway.Handlers.Admin
import Teale.Gateway.Inference.Preparation

/-!
# Requests

The routes of the gateway that can change the ledger, as one type of requests. All routes that
only read are the one request `read`.
-/

namespace Teale.Gateway

open Transactional Service

/-! ## Inference -/

/-- What an inference request is charged for, once it has been served. -/
inductive ServedRequest
  | fleet (providerDeviceId : Option DeviceId)
      (onlineDeviceIds : List DeviceId) (cost : ℤ) (requestId model : String)
  | provider (providerId : ProviderId) (cost : ℤ) (requestId model : String)
  deriving DecidableEq, Repr

def ServedRequest.call (served : ServedRequest) (consumer : ConsumerPrincipal)
    (now : Timestamp) : Call :=
  match served with
  | fleet providerDeviceId onlineDeviceIds cost requestId model =>
    .settleRequest consumer providerDeviceId onlineDeviceIds cost requestId model now
  | provider providerId cost requestId model =>
    .settleProviderRequest consumer providerId cost requestId model now

/-- The end of an inference request. How it was served is the subject of
`Inference`; a failed settlement is only logged. -/
def settleServed (config : Config) (moment : Moment)
    (principal : PrincipalKind) (served : Option ServedRequest) : Handler PUnit := do
  let _ ← outcome ((rejectAccountSession principal).mapError Failure.error)
  match consumerPrincipal principal, served with
  | some consumer, some served =>
    attempt fun db => execute config.sha256 db (served.call consumer moment.now)
  | _, _ => pure ⟨⟩

/-! ## Routes -/

inductive Request
  | challenge (deviceId : String)
  | exchange (req : ExchangeReq)
  | requestLoginCode (email : String)
  | verifyLogin (req : EmailLoginVerifyReq)
  | followLink (token : String)
  | read
  | inference (served : Option ServedRequest)
  | requestAccountEmailCode (email : String)
  | verifyAccountEmail (email code : String)
  | logout
  | referralCode
  | linkAccount (req : LinkAccountReq)
  | sweepDevice (deviceId : String)
  | removeDevice (deviceId : String)
  | depositIntent (req : AccountOnchainDepositIntent)
  | depositTreasury (txSignature : String)
  | withdraw (req : AccountWithdrawalRequest)
  | sendFromAccount (req : SendReq)
  | sendFromDevice (req : SendReq)
  | createKey (params : CreateApiKeyParams)
  | updateKey (keyId : KeyId) (params : UpdateApiKeyParams)
  | deleteKey (keyId : KeyId)
  | mintShare (req : MintShareKeyReq)
  | fundShare (fundingId : String) (amountCredits : ℤ)
  | revokeShare (keyId : KeyId)
  | createNetwork (name : String)
  | mint (req : MintReq)
  | migrateShareKeys (ids : MigrationIds)
  | completeWithdrawal (requestId txSignature : String)
  | rejectWithdrawal (requestId : String) (reason : Option String)
  | refundExpired
  | createProvider (slug : String)
  | payoutProvider (providerId : ProviderId) (amount : ℤ) (destination : Option String)
  | resetGenesis

structure Arrival where
  headers : Headers
  request : Request
  moment : Moment

def Arrival.token (arrival : Arrival) : String := tokenFromHeaders arrival.headers

def Handler.done {α : Type} (handler : Handler α) : Handler PUnit := do
  let _ ← handler
  pure ⟨⟩

/-- The handler behind the bearer; the public routes have none there. -/
def handleProtected (config : Config) (arrival : Arrival)
    (principal : PrincipalKind) : Handler PUnit :=
  let moment := arrival.moment
  let headers := arrival.headers
  match arrival.request with
  | .challenge _ | .exchange _ | .requestLoginCode _ | .verifyLogin _
  | .followLink _ | .read => pure ⟨⟩
  | .inference served => settleServed config moment principal served
  | .requestAccountEmailCode email => (requestAccountEmailCode config moment email).done
  | .verifyAccountEmail email code => (verifyAccountEmail config moment email code).done
  | .logout => logout config moment headers principal
  | .referralCode => (referralCode moment headers).done
  | .linkAccount req => (linkAccount moment principal req).done
  | .sweepDevice deviceId => (sweepDevice moment principal deviceId).done
  | .removeDevice deviceId => (removeDevice principal deviceId).done
  | .depositIntent req => (depositIntent config moment headers req).done
  | .depositTreasury txSignature => (depositTreasury config moment headers txSignature).done
  | .withdraw req => (withdraw config moment headers req).done
  | .sendFromAccount req => (sendFromAccount moment principal req).done
  | .sendFromDevice req => (sendFromDevice moment headers req).done
  | .createKey params => (createKey config moment principal params).done
  | .updateKey keyId params => updateKey principal keyId params
  | .deleteKey keyId => deleteKey principal keyId
  | .mintShare req => (mintShare config moment principal req).done
  | .fundShare fundingId amountCredits => (fundShare moment principal fundingId amountCredits).done
  | .revokeShare keyId => revokeShare moment principal keyId
  | .createNetwork name => createNetwork moment principal name
  | .mint req => (mint moment principal req).done
  | .migrateShareKeys ids => (migrateShareKeys moment principal ids).done
  | .completeWithdrawal requestId txSignature =>
    (completeWithdrawal config moment principal requestId txSignature).done
  | .rejectWithdrawal requestId reason => (rejectWithdrawal moment principal requestId reason).done
  | .refundExpired => (refundExpired moment principal).done
  | .createProvider slug => (createProvider moment principal slug).done
  | .payoutProvider providerId amount destination =>
    payoutProvider moment principal providerId amount destination
  | .resetGenesis => (reset principal).done

def handle (config : Config) (arrival : Arrival) : Handler PUnit :=
  let moment := arrival.moment
  match arrival.request with
  | .challenge deviceId => (challenge moment deviceId).done
  | .exchange req => (exchange config moment req).done
  | .requestLoginCode email => (requestLoginCode config moment email).done
  | .verifyLogin req => (verifyLogin config moment req).done
  | .followLink token => (followLink config moment token).done
  | _ => do
    let principal ← requireBearer config arrival.headers moment.now
    handleProtected config arrival principal

def respond (config : Config) (db : Db) (arrival : Arrival) : Db :=
  (handle config arrival).finish db

/-- The database after a sequence of arrivals, handled one at a time. -/
def runArrivals (config : Config) (start : Db) (arrivals : List Arrival) : Db :=
  run (respond config) start arrivals

end Teale.Gateway
