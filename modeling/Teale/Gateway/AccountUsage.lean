import Teale.Gateway.Books.Settlement
import Teale.Gateway.Frame

/-!
# The usage statement of an account

`credits_snapshot` adds up the rows of type `SPENT` of an account. A request served by a
centralized provider writes a row of type `INFERENCE_SPENT` instead, which the statement leaves
out.
-/

namespace Teale.Gateway

open Relational Transactional Option Relational.Table Db

variable {written : List TableName} {provider : Option DeviceId}
  {online : List DeviceId} {providerId : ProviderId} {call : Call}

variable {consumer : ConsumerPrincipal} {cost limit : ℤ} {requestId model : String}
  {sha256 : String → String} {keyId : KeyId} {row : ApiKeyRow}

/-! ## The statement -/

structure CreditsSnapshot where
  accountUserId : AccountUserId
  balanceCredits : ℤ
  totalUsageCredits : ℤ
  depositedUsdcCentsTotal : ℤ
  withdrawnUsdcCentsTotal : ℤ
  deriving DecidableEq, Repr

def creditsSnapshot (db : Db) (accountUserId : AccountUserId) : Tx CreditsSnapshot := do
  let wallet ← getOr (db.accountWallets.find? accountUserId)
    (.message "account not found")
  pure
    { accountUserId
      balanceCredits := wallet.balanceCredits
      totalUsageCredits := db.usageOf accountUserId
      depositedUsdcCentsTotal := wallet.depositedUsdcCentsTotal
      withdrawnUsdcCentsTotal := wallet.withdrawnUsdcCentsTotal }

/-! ## Settlements -/

theorem Within.keepsUsage (within : Within written db db')
    (absent : .accountLedger ∉ written) : KeepsUsage db db' :=
  .of_accountLedger_eq (within.read (·.accountLedger) fun _ => if_neg absent)

theorem Within.creditsOf_eq (within : Within written db db')
    (absent : .accountWallets ∉ written) : db'.creditsOf = db.creditsOf := by
  funext account
  rw [creditsOf, within.read (·.accountWallets) fun _ => if_neg absent, creditsOf]

section Charges

variable {account : AccountUserId} {apiKeyId : Option KeyId}
  {type : LedgerType} {amount : ℤ} {now : Timestamp} {db db' : Db}

theorem accountWallets_debitAccount : (debitAccount db account apiKeyId amount now).accountWallets =
      db.accountWallets.modify account fun row => { row with
          balanceCredits := row.balanceCredits + -amount
          updatedAt := now } := by
  cases apiKeyId <;> rfl

theorem ChargesAccount.creditsOf (charges : ChargesAccount account apiKeyId type amount now db db')
    (nonneg : 0 ≤ amount) (other : AccountUserId) : db'.creditsOf other =
      db.creditsOf other - if other = account then amount else 0 := by
  obtain ⟨noted, row, write, isAccount, -, -, -, rest⟩ := charges
  obtain ⟨hasWallet, rfl⟩ := appendAccountLedger_ok write
  rw [isAccount, isSome_iff_exists] at hasWallet
  obtain ⟨wallet, found⟩ := hasWallet
  rw [rest.creditsOf_eq (by decide)]
  split
  case isTrue =>
    rw [Db.creditsOf, accountWallets_debitAccount, find?_modify]
    split
    case isTrue isOther =>
      rw [Db.creditsOf, isOther, found]
      simp [sub_eq_add_neg]
    case isFalse => rw [Db.creditsOf, sub_zero]
  case isFalse free =>
    have nothing : amount = 0 := le_antisymm (not_lt.mp free) nonneg
    rw [nothing, ite_self, sub_zero]
    rfl

theorem ChargesAccount.usageOf (charges : ChargesAccount account apiKeyId .spent amount now db db')
    (other : AccountUserId) : db'.usageOf other =
      db.usageOf other + if other = account then amount else 0 := by
  obtain ⟨noted, row, write, isAccount, isSpent, isCredits, isAmount, rest⟩ := charges
  obtain ⟨-, rfl⟩ := Db.appendAccountLedger_ok write
  have ledger : ∀ noted, (if 0 < amount then
      debitAccount noted account apiKeyId amount now
    else noted).accountLedger = noted.accountLedger := by
    intro noted
    split
    · cases apiKeyId <;> rfl
    · rfl
  rw [rest.keepsUsage (by decide), Db.usageOf, ledger, Log.sum_append,
    ← Db.usageOf, AccountLedgerRow.usage, isAccount, isSpent, isCredits, isAmount]
  by_cases isPayer : other = account
  · simp [isPayer]
  · simp [isPayer, Ne.symm isPayer]

end Charges

theorem usageOf_settleRequest (ran : settleRequest db consumer provider online cost requestId model
      now = .ok db') (accountUserId : AccountUserId) :
    db'.usageOf accountUserId = db.usageOf accountUserId +
      (db.creditsOf accountUserId - db'.creditsOf accountUserId) := by
  have within := (settleRequest_alters ran).within
  cases consumer with
  | device payer | share issuer keyId =>
    rw [within.creditsOf_eq (by simp [ConsumerPrincipal.tables]), sub_self,
      add_zero, within.keepsUsage (by simp [ConsumerPrincipal.tables])]
  | account payer apiKeyId =>
    rcases settleRequest_account ran with rfl | ⟨positive, charges⟩
    · rw [sub_self, add_zero]
    · have nonneg := (clampToCreditLimit_bounds db apiKeyId
        (payableByAccount_nonneg db payer positive)).1
      rw [charges.creditsOf nonneg, charges.usageOf, sub_sub_cancel]

def NoProviderCharge (accountUserId : AccountUserId) (db : Db) : Call → Prop
  | .settleProviderRequest (.account payer _) _ cost _ _ _ =>
    payer = accountUserId → cost ≤ 0 ∨ db.creditsOf accountUserId ≤ 0
  | _ => True

theorem creditsOf_settleProviderRequest (uncharged : NoProviderCharge accountUserId db
      (.settleProviderRequest consumer providerId cost requestId model now))
    (ran : settleProviderRequest db consumer providerId cost requestId model now = .ok db') :
    db'.creditsOf accountUserId = db.creditsOf accountUserId := by
  have within := (settleProviderRequest_alters ran).within
  cases consumer with
  | device payer | share issuer keyId =>
    rw [within.creditsOf_eq (by simp [ConsumerPrincipal.tables])]
  | account payer apiKeyId =>
    rcases settleProviderRequest_account ran with rfl | ⟨positive, charges⟩
    · rfl
    · rw [charges.creditsOf (payableByAccount_nonneg db payer positive)]
      split
      case isTrue isPayer =>
        have free := (uncharged isPayer.symm).resolve_left (not_le.mpr positive)
        rw [payableByAccount, ← isPayer]
        omega
      case isFalse => exact sub_zero _

/-! ## Usage over a run -/

theorem execute_keepsUsage (other : call.changesUsage = false)
    (ran : execute sha256 db call = .ok db') : KeepsUsage db db' := by
  by_cases elsewhere : call.changesDirectory = false
  · exact (execute_alters elsewhere ran).usage other
  · refine (execute_within ran).keepsUsage ?_
    cases call with
    | linkDeviceToAccount => simp [writes]
    | accountUserIdForLogin => simp [writes]
    | resetGenesis => cases other
    | _ => exact absurd rfl elsewhere

/-- The credits settlements have debited from an account, after one more
call. A reset deletes the account, and the count starts again. -/
def debitedAfter (sha256 : String → String) (accountUserId : AccountUserId)
    (db : Db) (debited : ℤ) (call : Call) : ℤ :=
  match execute sha256 db call with
  | .error _ => debited
  | .ok db' =>
    match call with
    | .settleRequest .. | .settleProviderRequest .. =>
      debited + (db.creditsOf accountUserId - db'.creditsOf accountUserId)
    | .resetGenesis => 0
    | _ => debited

/-- The credits the settlements of a run have debited from an account. -/
def debitedBySettlements (sha256 : String → String)
    (accountUserId : AccountUserId) : Db → ℤ → List Call → ℤ
  | _, debited, [] => debited
  | db, debited, call :: calls =>
    debitedBySettlements sha256 accountUserId (commit (execute sha256) db call)
      (debitedAfter sha256 accountUserId db debited call) calls

variable {account : AccountUserId}

theorem usageOf_commit (uncharged : NoProviderCharge account db call) :
    (commit (execute sha256) db call).usageOf account =
      debitedAfter sha256 account db (db.usageOf account) call := by
  cases ran : execute sha256 db call with
  | error failure => rw [commit_of_error ran, debitedAfter, ran]
  | ok db' =>
    rw [commit_of_ok ran, debitedAfter, ran]
    cases call with
    | settleRequest => exact usageOf_settleRequest ran account
    | settleProviderRequest =>
      have same := creditsOf_settleProviderRequest uncharged ran
      rw [(settleProviderRequest_alters ran).usage rfl]
      simp [same]
    | resetGenesis =>
      cases execute_resetGenesis ran
      rfl
    | _ => exact congrFun (execute_keepsUsage rfl ran) account

theorem usageOf_run
    (uncharged : Admissible (NoProviderCharge account) (commit (execute sha256)) db calls) :
    (runCalls sha256 db calls).usageOf account =
      debitedBySettlements sha256 account db (db.usageOf account) calls := by
  induction calls generalizing db with
  | nil => rfl
  | cons call rest ih =>
    rw [debitedBySettlements, ← usageOf_commit uncharged.1]
    exact ih uncharged.2

/-- In every run in which no provider charges the account, the statement of an
account that exists reports what settlements have debited from it. -/
theorem totalUsageCredits_eq_debited (sha256 : String → String) (accountUserId : AccountUserId)
    (calls : List Call) (uncharged : Admissible (NoProviderCharge accountUserId)
      (commit (execute sha256)) Db.empty calls)
    (exist : ((runCalls sha256 Db.empty calls).accountWallets.find? accountUserId).isSome = true) :
    ∃ snapshot, creditsSnapshot (runCalls sha256 Db.empty calls) accountUserId = .ok snapshot ∧
      snapshot.totalUsageCredits = debitedBySettlements sha256 accountUserId Db.empty 0 calls := by
  obtain ⟨wallet, found⟩ := isSome_iff_exists.mp exist
  refine ⟨_, by rw [creditsSnapshot, found]; rfl, ?_⟩
  exact usageOf_run uncharged

def fundedAccount : List Call :=
  [.linkDeviceToAccount "device" "account" {} 0, .recordAccountBonus "account" 1000 none "seed" 0,
    .upsertProvider "provider" "provider",
    .createApiKey "account" { creditLimit := some 50 } "key" "token" 0]

def fleetRequest : Call :=
  .settleRequest (.account "account" (some "key")) (some "peer") [] 400 "r1" "m" 1

def providerRequest : Call :=
  .settleProviderRequest (.account "account" (some "key")) "provider" 100 "r1" "m" 1

theorem totalUsageCredits_fleet : ∃ snapshot,
      creditsSnapshot (runCalls id Db.empty (fundedAccount ++ [fleetRequest]))
        "account" = .ok snapshot ∧
      snapshot.totalUsageCredits = debitedBySettlements id "account" Db.empty 0
        (fundedAccount ++ [fleetRequest]) :=
  totalUsageCredits_eq_debited id "account" (fundedAccount ++ [fleetRequest])
    ⟨trivial, trivial, trivial, trivial, trivial, trivial⟩ (by decide +kernel)

/-- The charge of a provider is missing from the statement. -/
theorem totalUsageCredits_provider :
    (creditsSnapshot (runCalls id Db.empty (fundedAccount ++ [providerRequest]))
        "account").map CreditsSnapshot.totalUsageCredits = .ok 0 ∧
      debitedBySettlements id "account" Db.empty 0 (fundedAccount ++ [providerRequest]) = 100 := by
  decide +kernel

/-! ## The limit of an API key -/

/-- A charge that its API key's limit leaves room for does not take the usage
of a key above its limit. -/
theorem ChargesAccount.usageCredits_le
    (charges : ChargesAccount account apiKeyId type amount now db db')
    (found : db.apiKeys.find? keyId = some row)
    (bounded : apiKeyId = some keyId → amount ≤ max (limit - row.usageCredits) 0) :
    ∃ row', db'.apiKeys.find? keyId = some row' ∧
      row'.usageCredits ≤ max row.usageCredits limit := by
  obtain ⟨noted, _, write, -, -, -, -, rest⟩ := charges
  obtain ⟨-, rfl⟩ := appendAccountLedger_ok write
  rw [rest.read (·.apiKeys) fun _ => rfl]
  split
  · cases apiKeyId with
    | none => exact ⟨row, found, le_max_left _ _⟩
    | some charged =>
      by_cases same : keyId = charged
      · subst same
        have room := bounded rfl
        refine ⟨{ row with
          usageCredits := row.usageCredits + amount
          lastUsedAt := some now }, ?_, ?_⟩
        · rw [debitAccount, find?_modify_self]
          exact congrArg (Option.map _) found
        · dsimp only
          omega
      · refine ⟨row, ?_, le_max_left _ _⟩
        rw [debitAccount, find?_modify_of_ne _ _ same]
        exact found
  · exact ⟨row, found, le_max_left _ _⟩

/-- A provider's request stays within the limit of the API key it is charged
under, by its cost or by what the account has. -/
def WithinCreditLimit (db : Db) : Call → Prop
  | .settleProviderRequest (.account accountUserId (some keyId)) _ cost _ _ _ =>
    ∀ row limit, db.apiKeys.find? keyId = some row → row.creditLimit = some limit →
      cost ≤ max (limit - row.usageCredits) 0 ∨
        db.creditsOf accountUserId ≤ max (limit - row.usageCredits) 0
  | _ => True

def Call.isSettlement : Call → Bool
  | .settleRequest .. | .settleProviderRequest .. => true
  | _ => false

theorem usageCredits_settleRequest
    (ran : settleRequest db consumer provider online cost requestId model now = .ok db')
    (found : db.apiKeys.find? keyId = some row) (limited : row.creditLimit = some limit) :
    ∃ row', db'.apiKeys.find? keyId = some row' ∧
      row'.usageCredits ≤ max row.usageCredits limit := by
  have within := (settleRequest_alters ran).within
  cases consumer with
  | device payer | share issuer sharedKey =>
    rw [within.read (·.apiKeys) fun _ => rfl]
    exact ⟨row, found, le_max_left _ _⟩
  | account payer apiKeyId =>
    rcases settleRequest_account ran with rfl | ⟨-, charges⟩
    · exact ⟨row, found, le_max_left _ _⟩
    · refine charges.usageCredits_le found ?_
      intro isKey
      simp only [clampToCreditLimit, isKey, bind_some, found, limited, map_some]
      exact min_le_right _ _

theorem usageCredits_settleProviderRequest (within : WithinCreditLimit db
      (.settleProviderRequest consumer providerId cost requestId model now))
    (ran : settleProviderRequest db consumer providerId cost requestId model now = .ok db')
    (found : db.apiKeys.find? keyId = some row) (limited : row.creditLimit = some limit) :
    ∃ row', db'.apiKeys.find? keyId = some row' ∧
      row'.usageCredits ≤ max row.usageCredits limit := by
  have framed := (settleProviderRequest_alters ran).within
  cases consumer with
  | device payer | share issuer sharedKey =>
    rw [framed.read (·.apiKeys) fun _ => rfl]
    exact ⟨row, found, le_max_left _ _⟩
  | account payer apiKeyId =>
    rcases settleProviderRequest_account ran with rfl | ⟨-, charges⟩
    · exact ⟨row, found, le_max_left _ _⟩
    · refine charges.usageCredits_le found ?_
      intro isKey
      rw [isKey] at within
      have bounded := within row limit found limited
      rw [payableByAccount]
      omega

/-- In every run whose provider requests stay within the limits of their API
keys, no settlement takes the usage of a key with a limit above that limit,
unless it was there already. -/
theorem usageCredits_le_creditLimit (sha256 : String → String) (start : Db) (calls : List Call)
    (within : Admissible WithinCreditLimit (commit (execute sha256)) start calls) :
    ∀ before call after, calls = before ++ call :: after → call.isSettlement = true →
      ∀ keyId row limit, (runCalls sha256 start before).apiKeys.find? keyId = some row →
        row.creditLimit = some limit → ∃ row',
          (runCalls sha256 start (before ++ [call])).apiKeys.find? keyId = some row' ∧
          row'.usageCredits ≤ max row.usageCredits limit := by
  intro before call after split settles keyId row limit found limited
  rw [split, admissible_append] at within
  have allowed := within.2.1
  rw [runCalls_append_singleton]
  refine commit_cases ⟨row, found, le_max_left _ _⟩ fun db' returned => ?_
  cases call with
  | settleRequest => exact usageCredits_settleRequest returned found limited
  | settleProviderRequest => exact usageCredits_settleProviderRequest allowed returned found limited
  | _ => simp [Call.isSettlement] at settles

theorem usageCredits_le_creditLimit_fleet : ∃ row',
      (runCalls id Db.empty (fundedAccount ++ [fleetRequest])).apiKeys.find? "key" = some row' ∧
      row'.usageCredits ≤ max 0 50 := by
  have limited : ((runCalls id empty fundedAccount).apiKeys.find? "key").map
      (fun row => (row.usageCredits, row.creditLimit)) = some (0, some 50) := by
    decide +kernel
  obtain ⟨row, found, fields⟩ := map_eq_some_iff.mp limited
  rw [Prod.mk.injEq] at fields
  rw [← fields.1]
  exact usageCredits_le_creditLimit id empty (fundedAccount ++ [fleetRequest])
    ⟨trivial, trivial, trivial, trivial, trivial, trivial⟩ fundedAccount
    fleetRequest [] rfl rfl "key" row 50 found fields.2

/-- A provider's request takes the usage of a key past its limit. -/
theorem usageCredits_provider : ((runCalls id Db.empty fundedAccount).apiKeys.find? "key").map
        (fun row => (row.usageCredits, row.creditLimit)) = some (0, some 50) ∧
      ((runCalls id Db.empty (fundedAccount ++ [providerRequest])).apiKeys.find? "key").map
          (fun row => row.usageCredits) = some 100 := by
  decide +kernel

end Teale.Gateway
