import Teale.Gateway.Handlers.Keys

/-!
# Operator handlers

`handlers/admin.rs` and `handlers/admin_providers.rs`. All of them ask for a static bearer.
-/

namespace Teale.Gateway

open Transactional Service

def requireStatic : PrincipalKind → Except Failure PUnit
  | .static _ => .ok ⟨⟩
  | _ => .error (.error (.forbidden "admin endpoints require a static bearer"))

structure MintReq where
  deviceId : DeviceId
  amount : ℤ
  note : Option String
  deriving DecidableEq, Repr

def mint (moment : Moment) (principal : PrincipalKind) (req : MintReq) : Handler ℤ := do
  let _ ← outcome (requireStatic principal)
  refuseIf (req.amount ≤ 0) (.error (.badRequest "amount must be > 0"))
  transact
    (fun db => adminMint db req.deviceId req.amount (req.note.getD "admin top-up") moment.now)
    fun error => error.answer fun text => .other ("admin_mint: " ++ text)

def migrateShareKeys (moment : Moment) (principal : PrincipalKind)
    (ids : MigrationIds) : Handler ShareKeyMigrationReport := do
  let _ ← outcome (requireStatic principal)
  transact (fun db => migrateUnfundedShareKeys db ids moment.now)
    fun error => error.answer fun text => .other ("migrate: " ++ text)

def pendingWithdrawal (db : Db) (requestId : String) : Except Failure WithdrawalRow :=
  getOr ((db.withdrawals.find? requestId).filter fun row => row.status = .pending)
    (.error (.badRequest "no pending withdrawal for request id"))

/-- `complete_withdrawal`: the payout is verified before it is recorded. -/
def completeWithdrawal (config : Config) (moment : Moment)
    (principal : PrincipalKind) (requestId txSignature : String) :
    Handler AccountWithdrawalRecord := do
  let _ ← outcome (requireStatic principal)
  let pending ← query fun db => pendingWithdrawal db requestId
  let verified ← outcome
    ((verifyTreasuryPayout config.solana moment.rpc txSignature
      pending.destinationAddress pending.amountUsdcCents).mapError fun failure =>
        .error (.badRequest ("payout verification failed: " ++ failure.text)))
  transact
    (fun db => completeAccountWithdrawalFromTreasury db requestId verified.txSignature moment.now)
    fun error => error.answer fun text => .other ("complete-withdrawal: " ++ text)

def rejectWithdrawal (moment : Moment) (principal : PrincipalKind)
    (requestId : String) (reason : Option String) : Handler AccountWithdrawalRecord := do
  let _ ← outcome (requireStatic principal)
  transact (fun db => rejectAccountWithdrawal db requestId reason moment.now)
    fun error => error.answer fun text => .other ("reject-withdrawal: " ++ text)

def refundExpired (moment : Moment) (principal : PrincipalKind) :
    Handler ExpiredShareKeyRefundReport := do
  let _ ← outcome (requireStatic principal)
  transact
    (fun db => (.ok (refundExpiredShareKeys db moment.now) : Tx (Db × ExpiredShareKeyRefundReport)))
    fun error => error.answer fun text => .other ("refund-expired-share-keys: " ++ text)

def reset (principal : PrincipalKind) : Handler GenesisResetReport := do
  let _ ← outcome (requireStatic principal)
  transact resetGenesis fun error => error.answer fun text => .other ("reset-genesis: " ++ text)

def createProvider (moment : Moment) (principal : PrincipalKind)
    (slug : String) : Handler ProviderId := do
  let _ ← outcome (requireStatic principal)
  let providerId := "prov_" ++ moment.draw 0
  perform (fun db => upsertProvider db providerId slug)
    fun error => error.answer fun text => .other ("upsert provider: " ++ text)
  pure providerId

/-- `payout_provider`. The registry it asks is refreshed from `providers` after
every write. -/
def payoutProvider (moment : Moment) (principal : PrincipalKind)
    (providerId : ProviderId) (amount : ℤ) (destination : Option String) : Handler PUnit := do
  let _ ← outcome (requireStatic principal)
  let _ ← query fun db =>
    getOr (db.providers.find? providerId)
      (Failure.error (.badRequest ("unknown provider " ++ providerId)))
  perform (fun db => recordProviderPayout db providerId amount destination moment.now)
    fun error => error.answer fun text => .badRequest ("payout: " ++ text)

end Teale.Gateway
