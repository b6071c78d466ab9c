import Teale.Gateway.Ledger.Credentials
import Teale.Gateway.Ledger.Onchain
import Teale.Gateway.Ledger.Settlement

/-!
# Calls and runs of the ledger

Every function of the gateway that writes the modelled tables, as one type of calls. A call is one
transaction.
-/

namespace Teale.Gateway

open Relational Transactional

/-! ## Resetting, providers and private networks -/

structure GenesisResetReport where
  devicesCleared : ℕ
  accountWalletsCleared : ℕ
  deviceLedgerRowsCleared : ℕ
  accountLedgerRowsCleared : ℕ
  shareKeysCleared : ℕ
  withdrawalsCleared : ℕ
  depositsCleared : ℕ
  referralCodesCleared : ℕ
  referralClaimsCleared : ℕ
  mintPoolResetTo : ℤ
  deriving DecidableEq, Repr

/-- `reset_genesis`. A private network refers to its owner's wallet without a
cascade, so the wallets cannot be deleted while there is one; API keys are
deleted with their wallet. Providers, sessions and email codes stay. -/
def resetGenesis (db : Db) : Tx (Db × GenesisResetReport) := do
  failIf (db.pins.rows ≠ []) (.sql (.foreignKey "pins"))
  pure ({ Db.empty with
        providers := db.providers
        providerWallets := db.providerWallets
        providerLedger := db.providerLedger
        emailCodes := db.emailCodes
        accountSessions := db.accountSessions
        pins := db.pins },
      { devicesCleared := db.devices.rows.length
        accountWalletsCleared := db.accountWallets.rows.length
        deviceLedgerRowsCleared := db.ledger.rows.length
        accountLedgerRowsCleared := db.accountLedger.rows.length
        shareKeysCleared := db.shareKeys.rows.length
        withdrawalsCleared := db.withdrawals.rows.length
        depositsCleared := db.deposits.rows.length
        referralCodesCleared := db.referralCodes.rows.length
        referralClaimsCleared := db.referralClaims.rows.length
        mintPoolResetTo := initialMintPool })

/-- `upsert_provider`, as far as the ledger reads it. -/
def upsertProvider (db : Db) (providerId : ProviderId) (slug : String) : Tx Db := do
  failIf ((db.providers.rows.any fun row => row.1 ≠ providerId && row.2 = slug) = true)
    (.sql (.unique "providers" "slug"))
  pure { db with
      providers := (db.providers.insertOrIgnore providerId slug).modify
        providerId fun _ => slug }

/-- `create_pin`, as far as the ledger reads it: a network refers to the
wallet of its owner. -/
def createPin (db : Db) (pinId name : String) (ownerAccount : AccountUserId) : Tx Db := do
  failIf (RustText.trim name = "") (.message "network name is required")
  failIf ((db.pins.find? pinId).isSome = true) (.sql (.unique "pins" "pin_id"))
  failIf ((db.accountWallets.find? ownerAccount).isNone = true) (.sql (.foreignKey "pins"))
  pure { db with pins := db.pins.insertOrIgnore pinId ownerAccount }

/-! ## Calls -/

/-- One call of a public ledger function, with the clock it reads and the
identifiers it generates. -/
inductive Call
  | upsertDevice (deviceId : DeviceId) (now : Timestamp)
  | createChallenge (deviceId : DeviceId) (nonce : String) (now : Timestamp)
  | consumeChallenge (deviceId : DeviceId) (nonce : String) (now : Timestamp)
  | issueToken (deviceId : DeviceId) (token : String) (now : Timestamp)
  | recordBonus (deviceId : DeviceId) (amount : ℤ) (now : Timestamp)
  | recordAccountBonus (accountUserId : AccountUserId) (amount : ℤ)
      (deviceId : Option String) (note : String) (now : Timestamp)
  | adminMint (deviceId : DeviceId) (amount : ℤ) (note : String) (now : Timestamp)
  | referralCodeForDevice (deviceId : DeviceId) (code : String) (now : Timestamp)
  | applyDeviceJoinRewards (deviceId : DeviceId)
      (referralCode : Option String) (claimId : String) (now : Timestamp)
  | applyAccountJoinRewards (deviceId : DeviceId)
      (accountUserId : AccountUserId) (referralCode : Option String)
      (claimId : String) (now : Timestamp)
  | linkDeviceToAccount (deviceId : DeviceId) (accountUserId : String)
      (metadata : AccountLinkMetadata) (now : Timestamp)
  | transferFromDeviceWallet (sender : DeviceId) (recipient : String)
      (amount : ℤ) (memo : Option String) (now : Timestamp)
  | transferFromAccountWallet (requester : DeviceId) (recipient : String)
      (amount : ℤ) (memo : Option String) (now : Timestamp)
  | transferFromAccountWalletForAccount (accountUserId : AccountUserId)
      (recipient : String) (amount : ℤ) (memo actor : Option String)
      (now : Timestamp)
  | sweepDeviceToAccount (requester target : DeviceId) (now : Timestamp)
  | removeDeviceFromAccount (requester target : DeviceId)
  | recordAccountOnchainDeposit (requester : DeviceId)
      (req : AccountOnchainDepositIntent) (depositId : String)
      (now : Timestamp)
  | recordAccountTreasuryDeposit (requester : DeviceId) (txSignature : String)
      (amountUsdcCents : ℤ) (sourceAddress : Option String)
      (treasuryAddress depositId : String) (now : Timestamp)
  | submitAccountWithdrawal (requester : DeviceId)
      (req : AccountWithdrawalRequest) (fresh : String) (now : Timestamp)
  | completeAccountWithdrawalFromTreasury (requestId txSignature : String) (now : Timestamp)
  | rejectAccountWithdrawal (requestId : String) (reason : Option String) (now : Timestamp)
  | mintShareKey (issuer : DeviceId) (label : Option String)
      (expiresInSeconds budgetCredits : ℤ) (ids : ShareKeyIds)
      (now : Timestamp)
  | transferToShareKey (sender : DeviceId) (fundingId : String) (amount : ℤ)
      (contributionId : String) (now : Timestamp)
  | revokeShareKey (issuer : DeviceId) (keyId : KeyId) (now : Timestamp)
  | refundExpiredShareKeys (now : Timestamp)
  | backfillFundedShareKeyContributions (ids : MigrationIds) (now : Timestamp)
  | migrateUnfundedShareKeys (ids : MigrationIds) (now : Timestamp)
  | settleRequest (consumer : ConsumerPrincipal)
      (providerDeviceId : Option DeviceId) (onlineDeviceIds : List DeviceId)
      (cost : ℤ) (requestId model : String) (now : Timestamp)
  | settleProviderRequest (consumer : ConsumerPrincipal)
      (providerId : ProviderId) (cost : ℤ) (requestId model : String)
      (now : Timestamp)
  | recordProviderPayout (providerId : ProviderId) (amount : ℤ)
      (destination : Option String) (now : Timestamp)
  | reconcileAvailabilitySessions (recipients : List DripRecipient) (now : Timestamp)
  | createApiKey (accountUserId : AccountUserId) (params : CreateApiKeyParams)
      (keyId token : String) (now : Timestamp)
  | updateApiKey (accountUserId : AccountUserId) (keyId : KeyId) (params : UpdateApiKeyParams)
  | deleteApiKey (accountUserId : AccountUserId) (keyId : KeyId)
  | touchLastUsed (keyId : KeyId) (now : Timestamp)
  | createAccountEmailCode (email code : String) (linkToken : Option String)
      (id : String) (now : Timestamp)
  | verifyAccountEmailCode (email code : String) (now : Timestamp)
  | verifyAccountEmailLinkToken (linkToken : String) (now : Timestamp)
  | accountUserIdForLogin (email : String) (now : Timestamp)
  | createAccountSession (accountUserId : AccountUserId)
      (deviceId deviceName : Option String) (sessionId token : String)
      (now : Timestamp)
  | resolveAccountSession (token : String) (now : Timestamp)
  | revokeAccountSession (token : String) (now : Timestamp)
  | upsertProvider (providerId : ProviderId) (slug : String)
  | createPin (pinId name : String) (ownerAccount : AccountUserId)
  | resetGenesis

def execute (sha256 : String → String) (db : Db) : Call → Tx Db
  | .upsertDevice deviceId now => pure (upsertDevice db deviceId now).1
  | .createChallenge deviceId nonce now => pure (createChallenge db deviceId nonce now).1
  | .consumeChallenge deviceId nonce now => pure (consumeChallenge db deviceId nonce now).1
  | .issueToken deviceId token now => Prod.fst <$> issueToken db deviceId token now
  | .recordBonus deviceId amount now => Prod.fst <$> recordBonus db deviceId amount now
  | .recordAccountBonus accountUserId amount deviceId note now =>
    Prod.fst <$> recordAccountBonus db accountUserId amount deviceId note now
  | .adminMint deviceId amount note now => Prod.fst <$> adminMint db deviceId amount note now
  | .referralCodeForDevice deviceId code now =>
    Prod.fst <$> referralCodeForDevice db deviceId code now
  | .applyDeviceJoinRewards deviceId referralCode claimId now =>
    Prod.fst <$> applyDeviceJoinRewards db deviceId referralCode claimId now
  | .applyAccountJoinRewards deviceId accountUserId referralCode claimId now =>
    Prod.fst <$> applyAccountJoinRewards db deviceId accountUserId referralCode claimId now
  | .linkDeviceToAccount deviceId accountUserId metadata now =>
    linkDeviceToAccount db deviceId accountUserId metadata now
  | .transferFromDeviceWallet sender recipient amount memo now =>
    Prod.fst <$> transferFromDeviceWallet db sender recipient amount memo now
  | .transferFromAccountWallet requester recipient amount memo now =>
    Prod.fst <$> transferFromAccountWallet db requester recipient amount memo now
  | .transferFromAccountWalletForAccount accountUserId recipient amount memo actor now =>
    Prod.fst <$> transferFromAccountWalletForAccount db accountUserId
      recipient amount memo actor now
  | .sweepDeviceToAccount requester target now =>
    Prod.fst <$> sweepDeviceToAccount db requester target now
  | .removeDeviceFromAccount requester target =>
    Prod.fst <$> removeDeviceFromAccount db requester target
  | .recordAccountOnchainDeposit requester req depositId now =>
    Prod.fst <$> recordAccountOnchainDeposit db requester req depositId now
  | .recordAccountTreasuryDeposit requester txSignature amountUsdcCents
      sourceAddress treasuryAddress depositId now =>
    Prod.fst <$> recordAccountTreasuryDeposit db requester txSignature
      amountUsdcCents sourceAddress treasuryAddress depositId now
  | .submitAccountWithdrawal requester req fresh now =>
    Prod.fst <$> submitAccountWithdrawal db requester req fresh now
  | .completeAccountWithdrawalFromTreasury requestId txSignature now =>
    Prod.fst <$> completeAccountWithdrawalFromTreasury db requestId txSignature now
  | .rejectAccountWithdrawal requestId reason now =>
    Prod.fst <$> rejectAccountWithdrawal db requestId reason now
  | .mintShareKey issuer label expiresInSeconds budgetCredits ids now =>
    Prod.fst <$> mintShareKey db issuer label expiresInSeconds budgetCredits ids now
  | .transferToShareKey sender fundingId amount contributionId now =>
    Prod.fst <$> transferToShareKey db sender fundingId amount contributionId now
  | .revokeShareKey issuer keyId now => pure (revokeShareKey db issuer keyId now).1
  | .refundExpiredShareKeys now => pure (refundExpiredShareKeys db now).1
  | .backfillFundedShareKeyContributions ids now =>
    Prod.fst <$> backfillFundedShareKeyContributions db ids now
  | .migrateUnfundedShareKeys ids now => Prod.fst <$> migrateUnfundedShareKeys db ids now
  | .settleRequest consumer providerDeviceId onlineDeviceIds cost requestId model now =>
    settleRequest db consumer providerDeviceId onlineDeviceIds cost requestId model now
  | .settleProviderRequest consumer providerId cost requestId model now =>
    settleProviderRequest db consumer providerId cost requestId model now
  | .recordProviderPayout providerId amount destination now =>
    recordProviderPayout db providerId amount destination now
  | .reconcileAvailabilitySessions recipients now =>
    pure (reconcileAvailabilitySessions db recipients now).1
  | .createApiKey accountUserId params keyId token now =>
    Prod.fst <$> createApiKey sha256 db accountUserId params keyId token now
  | .updateApiKey accountUserId keyId params => updateApiKey db accountUserId keyId params
  | .deleteApiKey accountUserId keyId => deleteApiKey db accountUserId keyId
  | .touchLastUsed keyId now => pure (touchLastUsed db keyId now)
  | .createAccountEmailCode email code linkToken id now =>
    Prod.fst <$> createAccountEmailCode sha256 db email code linkToken id now
  | .verifyAccountEmailCode email code now =>
    Prod.fst <$> verifyAccountEmailCode sha256 db email code now
  | .verifyAccountEmailLinkToken linkToken now =>
    Prod.fst <$> verifyAccountEmailLinkToken sha256 db linkToken now
  | .accountUserIdForLogin email now => Prod.fst <$> accountUserIdForLogin db email now
  | .createAccountSession accountUserId deviceId deviceName sessionId token now =>
    Prod.fst <$> createAccountSession sha256 db accountUserId deviceId
      deviceName sessionId token now
  | .resolveAccountSession token now => pure (resolveAccountSession sha256 db token now).1
  | .revokeAccountSession token now => pure (revokeAccountSession sha256 db token now)
  | .upsertProvider providerId slug => upsertProvider db providerId slug
  | .createPin pinId name ownerAccount => createPin db pinId name ownerAccount
  | .resetGenesis => Prod.fst <$> resetGenesis db

theorem execute_resetGenesis (ran : execute sha256 db .resetGenesis = .ok db') :
    db' = { Db.empty with
      providers := db.providers
      providerWallets := db.providerWallets
      providerLedger := db.providerLedger
      emailCodes := db.emailCodes
      accountSessions := db.accountSessions
      pins := db.pins } := by
  obtain ⟨_, called, rfl⟩ := map_eq_ok.mp ran
  simp only [resetGenesis, ok_iff] at called
  obtain ⟨_, -, rfl⟩ := called
  rfl

/-- The database after a sequence of calls; a failed call is rolled back. -/
def runCalls (sha256 : String → String) (start : Db) (calls : List Call) : Db :=
  run (commit (execute sha256)) start calls

theorem runCalls_append (sha256 : String → String) (db : Db) (first second : List Call) :
    runCalls sha256 db (first ++ second) = runCalls sha256 (runCalls sha256 db first) second :=
  run_append _ _ _ _

theorem runCalls_append_singleton
    (sha256 : String → String) (db : Db) (calls : List Call) (call : Call) :
    runCalls sha256 db (calls ++ [call]) =
      commit (execute sha256) (runCalls sha256 db calls) call :=
  run_append _ _ _ _

end Teale.Gateway
