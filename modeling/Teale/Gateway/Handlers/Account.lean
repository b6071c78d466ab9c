import Teale.Gateway.Handlers.Login

/-!
# Account handlers

`handlers/account.rs`.
-/

namespace Teale.Gateway

open Transactional Service RustText

/-! ## Errors -/

def mapTransferError (error : LedgerError) : Failure :=
  match error with
  | .transfer .unsupportedAsset | .transfer .invalidAmount
  | .transfer .missingRecipient => error.answer .badRequest
  | .transfer .recipientAccountNotFound
  | .transfer .recipientDeviceNotFound => error.answer .notFound
  | .transfer .ambiguousRecipient | .transfer .sameWallet
  | .transfer .accountNotLinked => error.answer .conflict
  | .transfer (.insufficientBalance balance required) =>
    .error (.insufficientCredits balance required)
  | _ => error.answer .other

def mapOnchainError (error : LedgerError) : Failure :=
  match error with
  | .onchain .accountNotLinked => error.answer .notFound
  | .onchain .invalidUsdcAmount | .onchain .depositAmountRequired
  | .onchain .missingRequestId | .onchain .missingDestinationAddress
  | .onchain .solanaAddressRequired => error.answer .badRequest
  | .onchain .solanaAddressMismatch | .onchain .solanaWalletNotEnabled
  | .onchain .depositConflict | .onchain .withdrawalConflict
  | .onchain .withdrawalSignatureConflict
  | .onchain .withdrawalNotPending => error.answer .conflict
  | .onchain (.insufficientWithdrawable balance redeemableCredits required) =>
    .error (.insufficientCredits (min balance redeemableCredits) required)
  | _ => error.answer .other

def mapDepositVerificationError (error : DepositVerificationError) : Failure :=
  match error with
  | .rpc _ => .error (.upstream error.text)
  | _ => .error (.badRequest error.text)

def mapTreasuryDepositError (error : TreasuryDepositError) : Failure :=
  match error with
  | .deposit failure => mapDepositVerificationError failure
  | .rpc _ => .error (.upstream error.text)
  | _ => .error (.badRequest error.text)

def mapWithdrawalVerificationError (error : WithdrawalVerificationError) : Failure :=
  match error with
  | .rpc _ => .error (.upstream error.text)
  | _ => .error (.badRequest error.text)

/-! ## Linked devices -/

def requireDevice : PrincipalKind → Except Failure DeviceId
  | .device deviceId => .ok deviceId
  | .apiKey _ _ _ _ _ => .error (.error (.unauthorized
      "account API keys cannot call device-management endpoints"))
  | .share _ _ _ => .error (.error (.unauthorized "share keys cannot call account endpoints"))
  | .static _ | .accountSession _ _ => .error (.error (.unauthorized "device bearer required"))

structure LinkAccountReq where
  accountUserId : String
  metadata : AccountLinkMetadata := {}
  referralCode : Option String := none
  deriving DecidableEq, Repr

/-- `account_wallet_exists`, which normalizes its argument once more. -/
def accountWalletExists (db : Db) (accountUserId : AccountUserId) : Tx Bool := do
  let accountUserId ← normalizeAccountUserId accountUserId
  pure (db.accountWallets.find? accountUserId).isSome

def accountSummaryForDevice (db : Db) (deviceId : DeviceId) : Tx AccountWalletSnapshot := do
  let accountUserId ← getOr (db.accountUserIdForDevice deviceId)
    (.message "device is not linked to an account")
  accountSummary db accountUserId

/-- The join rewards of `link_account`: only an account without a wallet gets
them. -/
def rewardNewAccount (moment : Moment) (isNewAccount : Bool)
    (requesterDeviceId : DeviceId) (accountUserId : AccountUserId)
    (referralCode : Option String) : Handler PUnit :=
  if isNewAccount then do
    let _ ← transact
      (fun db => applyAccountJoinRewards db requesterDeviceId accountUserId
        referralCode (moment.draw 0) moment.now)
      mapReferralError
    pure ⟨⟩
  else
    pure ⟨⟩

/-- `link_account`. The body names the account; nothing asks whether the caller
may act for it. -/
def linkAccount (moment : Moment) (principal : PrincipalKind)
    (req : LinkAccountReq) : Handler AccountWalletSnapshot := do
  let requesterDeviceId ← outcome (requireDevice principal)
  refuseIf (trim req.accountUserId = "") (.error (.badRequest "accountUserID is required"))
  let accountUserId ← outcome
    ((normalizeAccountUserId req.accountUserId).mapError fun error => error.answer .other)
  let walletExists ← query fun db =>
    (accountWalletExists db accountUserId).mapError fun error => error.answer .other
  perform (fun db => linkDeviceToAccount db requesterDeviceId accountUserId req.metadata moment.now)
    fun error => error.answer .other
  rewardNewAccount moment (!walletExists) requesterDeviceId accountUserId req.referralCode
  query fun db => (accountSummaryForDevice db requesterDeviceId).mapError fun error =>
      error.answer .other

def sweepDevice (moment : Moment) (principal : PrincipalKind)
    (deviceId : String) : Handler AccountSweepResult := do
  let requesterDeviceId ← outcome (requireDevice principal)
  refuseIf (trim deviceId = "") (.error (.badRequest "deviceID is required"))
  transact (fun db => sweepDeviceToAccount db requesterDeviceId (trim deviceId) moment.now)
    fun error => error.answer .other

def removeDevice (principal : PrincipalKind) (deviceId : String) :
    Handler AccountWalletSnapshot := do
  let requesterDeviceId ← outcome (requireDevice principal)
  refuseIf (trim deviceId = "") (.error (.badRequest "deviceID is required"))
  transact (fun db => removeDeviceFromAccount db requesterDeviceId (trim deviceId))
    fun error => error.answer .other

/-! ## Deposits -/

/-- A request with a signature is verified at the address of the account, or at
the address it names when the account has none, and takes over what was
verified. -/
def verifyIntent (config : Config) (moment : Moment)
    (requesterDeviceId : DeviceId) (req : AccountOnchainDepositIntent) :
    Handler AccountOnchainDepositIntent :=
  match normalizedOptionalString req.txSignature with
  | none => pure req
  | some txSignature => do
    let effectiveAddress ← query fun db =>
      (resolveAccountOnchainAddressForDevice db requesterDeviceId
        req.solanaAddress).mapError mapOnchainError
    let verified ← outcome
      ((verifyUsdcDeposit config.solana moment.rpc effectiveAddress txSignature
        req.amountUsdcCents req.sourceAddress).mapError mapDepositVerificationError)
    pure
      { solanaAddress := some effectiveAddress
        txSignature := some verified.txSignature
        sourceAddress := verified.sourceAddress
        amountUsdcCents := some verified.amountUsdcCents }

def depositIntent (config : Config) (moment : Moment) (headers : Headers)
    (req : AccountOnchainDepositIntent) : Handler AccountOnchainSnapshot := do
  let requesterDeviceId ← deviceFromHeader headers moment.now
  let req ← verifyIntent config moment requesterDeviceId req
  transact
    (fun db => recordAccountOnchainDeposit db requesterDeviceId req (moment.draw 0) moment.now)
    mapOnchainError

def depositTreasury (config : Config) (moment : Moment) (headers : Headers)
    (txSignature : String) : Handler AccountOnchainSnapshot := do
  let requesterDeviceId ← deviceFromHeader headers moment.now
  let accountUserId ← query fun db =>
    getOr (db.accountUserIdForDevice requesterDeviceId)
      (.error (.badRequest "device is not linked to an account"))
  let verified ← outcome
    ((verifyTreasuryDeposit config.solana moment.rpc txSignature
      (treasuryDepositMemo accountUserId)).mapError mapTreasuryDepositError)
  transact (fun db => recordAccountTreasuryDeposit db requesterDeviceId
      verified.txSignature verified.amountUsdcCents verified.sourceAddress
      config.solana.treasuryAddress (moment.draw 0) moment.now)
    mapOnchainError

/-! ## Withdrawals -/

def verifyWithdrawalRequest (config : Config) (moment : Moment)
    (requesterDeviceId : DeviceId) (req : AccountWithdrawalRequest) :
    Handler AccountWithdrawalRequest :=
  match normalizedOptionalString req.txSignature with
  | none => pure req
  | some txSignature => do
    let sourceAddress ← query fun db =>
      (resolveAccountOnchainAddressForDevice db requesterDeviceId none).mapError mapOnchainError
    let verified ← outcome
      ((verifyUsdcWithdrawal config.solana moment.rpc sourceAddress
        req.destinationAddress req.amountUsdcCents txSignature).mapError
          mapWithdrawalVerificationError)
    pure { req with
        txSignature := some verified.txSignature
        destinationAddress := verified.destinationAddress
        amountUsdcCents := verified.grossAmountUsdcCents }

def withdraw (config : Config) (moment : Moment) (headers : Headers)
    (req : AccountWithdrawalRequest) : Handler AccountWithdrawalRecord := do
  let requesterDeviceId ← deviceFromHeader headers moment.now
  let req ← verifyWithdrawalRequest config moment requesterDeviceId req
  transact (fun db => submitAccountWithdrawal db requesterDeviceId req (moment.draw 0) moment.now)
    mapOnchainError

/-! ## Transfers -/

structure SendReq where
  asset : String
  recipient : String
  amount : ℤ
  memo : Option String
  deriving DecidableEq, Repr

def requireCredits (asset : String) : Handler PUnit :=
  refuseIf (eqIgnoreAsciiCase asset "credits" = false)
    (.error (.badRequest TransferError.unsupportedAsset.text))

def sendFromAccount (moment : Moment) (principal : PrincipalKind)
    (req : SendReq) : Handler TransferReceipt := do
  requireCredits req.asset
  match principal with
  | .apiKey _ accountUserId _ _ _ | .accountSession accountUserId _ =>
    transact (fun db => transferFromAccountWalletForAccount db accountUserId
        req.recipient req.amount req.memo none moment.now)
      mapTransferError
  | .device deviceId =>
    transact
      (fun db => transferFromAccountWallet db deviceId req.recipient req.amount req.memo moment.now)
      mapTransferError
  | .share _ _ _ => throw (.error (.unauthorized "share keys cannot call account endpoints"))
  | .static _ => throw (.error (.unauthorized "human account or linked device bearer required"))

end Teale.Gateway
