import Teale.Gateway.Ledger.Onchain
import Teale.Lib.Radix

/-!
# Verification of Solana transactions

What `gateway/src/solana.rs` concludes from the two answers of a Solana RPC node, the fields of
`Rpc`.
-/

namespace Teale.Gateway

open Transactional RustText

variable {txSignature destinationOwner : String} {amount : Option ℤ}
  {source : Option String} {config : SolanaConfig} {verified : VerifiedUsdcDeposit}

/-! ## Answers of the node -/

/-- The part of `SolanaConfig` that the verification reads. -/
structure SolanaConfig where
  usdcMint : String
  commitment : String
  treasuryAddress : String
  withdrawalFeeBps : ℕ

def SolanaConfig.default : SolanaConfig where
  usdcMint := "EPjFWdd5AufqSSqeM2qN1xzybapC8G4wEGGkZwyTDt1v"
  commitment := "finalized"
  treasuryAddress := "HwGY6RJKzAxoRjeqWYvmnZGu4AC8oyEzqFrpGgqAKzhA"
  withdrawalFeeBps := 180

structure RpcSignatureStatus where
  err : Option String
  confirmationStatus : Option String
  deriving DecidableEq, Repr

structure RpcUiTokenAmount where
  amount : String
  decimals : ℕ
  deriving DecidableEq, Repr

structure RpcTokenBalance where
  mint : String
  owner : Option String
  uiTokenAmount : RpcUiTokenAmount
  deriving DecidableEq, Repr

structure RpcTransactionMeta where
  err : Option String
  preTokenBalances : Option (List RpcTokenBalance)
  postTokenBalances : Option (List RpcTokenBalance)
  deriving DecidableEq, Repr

structure RpcInstruction where
  programId : Option String
  data : Option String
  deriving DecidableEq, Repr

/-- An account key is a string or an object with a `pubkey`; it is kept as the
address that is read from it. -/
structure RpcMessage where
  accountKeys : Option (List (Option String))
  instructions : Option (List RpcInstruction)
  deriving DecidableEq, Repr

structure RpcTransaction where
  txMeta : Option RpcTransactionMeta
  message : Option RpcMessage
  deriving DecidableEq, Repr

/-- The answers of the node at one moment; an error is the text of a failed
request. -/
structure Rpc where
  fetchSignatureStatus : String → Except String (Option RpcSignatureStatus)
  fetchTransaction : String → Except String (Option RpcTransaction)

/-! ## Errors -/

inductive DepositVerificationError
  | missingSignature
  | transactionNotFound
  | transactionNotSettled (requiredStatus : String)
  | transactionFailed
  | noMatchingDeposit
  | amountMismatch (verifiedAmountUsdcCents requestedAmountUsdcCents : ℤ)
  | sourceMismatch (verifiedSourceAddress requestedSourceAddress : String)
  | fractionalCents
  | unexpectedDecimals (decimals : ℕ)
  | rpc (message : String)
  deriving DecidableEq, Repr

def DepositVerificationError.text : DepositVerificationError → String
  | missingSignature => "txSignature is required"
  | transactionNotFound => "deposit txSignature was not found on Solana"
  | transactionNotSettled requiredStatus =>
    "deposit txSignature is not " ++ requiredStatus ++ " yet"
  | transactionFailed => "deposit transaction failed on-chain"
  | noMatchingDeposit => "deposit transaction did not credit the configured wallet with USDC"
  | amountMismatch verified requested =>
    "verified deposit amount " ++ toString verified ++
      " does not match requested amount " ++ toString requested
  | sourceMismatch verified requested =>
    "verified deposit source " ++ verified ++
      " does not match requested sourceAddress " ++ requested
  | fractionalCents => "deposit amount must be an exact number of USDC cents"
  | unexpectedDecimals decimals =>
    "configured USDC mint returned unexpected decimals " ++ toString decimals
  | rpc message => "solana rpc error: " ++ message

inductive WithdrawalVerificationError
  | missingSignature
  | transactionNotFound
  | transactionNotSettled (requiredStatus : String)
  | transactionFailed
  | noMatchingWithdrawal
  | sourceMismatch (verifiedSourceAddress expectedSourceAddress : String)
  | destinationMismatch (verifiedDestinationAddress requestedDestinationAddress : String)
  | amountMismatch (verifiedAmountUsdcCents requestedAmountUsdcCents : ℤ)
  | treasuryFeeMismatch (verifiedFeeMicroUsdc expectedFeeMicroUsdc : ℤ)
  | destinationAmountMismatch (verifiedDestinationMicroUsdc expectedDestinationMicroUsdc : ℤ)
  | unexpectedDecimals (decimals : ℕ)
  | rpc (message : String)
  deriving DecidableEq, Repr

def WithdrawalVerificationError.text : WithdrawalVerificationError → String
  | missingSignature => "txSignature is required"
  | transactionNotFound => "withdrawal txSignature was not found on Solana"
  | transactionNotSettled requiredStatus =>
    "withdrawal txSignature is not " ++ requiredStatus ++ " yet"
  | transactionFailed => "withdrawal transaction failed on-chain"
  | noMatchingWithdrawal =>
    "withdrawal transaction did not debit the configured source wallet in " ++ "USDC"
  | sourceMismatch verified expected =>
    "verified withdrawal source " ++ verified ++
      " does not match the configured account wallet " ++ expected
  | destinationMismatch verified requested =>
    "verified withdrawal destination " ++ verified ++
      " does not match requested destinationAddress " ++ requested
  | amountMismatch verified requested =>
    "verified withdrawal amount " ++ toString verified ++
      " does not match requested amount " ++ toString requested
  | treasuryFeeMismatch verified expected =>
    "verified treasury fee " ++ toString verified ++
      " micro-USDC does not match expected fee " ++ toString expected
  | destinationAmountMismatch verified expected =>
    "verified destination amount " ++ toString verified ++
      " micro-USDC does not match expected net amount " ++ toString expected
  | unexpectedDecimals decimals =>
    "configured USDC mint returned unexpected decimals " ++ toString decimals
  | rpc message => "solana rpc error: " ++ message

inductive TreasuryPayoutError
  | missingSignature
  | transactionNotFound
  | transactionNotSettled (requiredStatus : String)
  | transactionFailed
  | treasuryDebitMismatch
  | destinationMismatch
  | unexpectedRecipients
  | deposit (failure : DepositVerificationError)
  | rpc (message : String)
  deriving DecidableEq, Repr

def TreasuryPayoutError.text : TreasuryPayoutError → String
  | missingSignature => "txSignature is required"
  | transactionNotFound => "payout transaction was not found on Solana"
  | transactionNotSettled requiredStatus => "payout transaction is not " ++ requiredStatus ++ " yet"
  | transactionFailed => "payout transaction failed on-chain"
  | treasuryDebitMismatch => "payout did not debit the treasury exactly the expected net amount"
  | destinationMismatch =>
    "payout did not credit the requested destination exactly the expected " ++ "net amount"
  | unexpectedRecipients => "payout credited unexpected additional USDC owners"
  | deposit failure => failure.text
  | rpc message => "solana rpc error: " ++ message

inductive TreasuryDepositError
  | missingSignature
  | transactionNotFound
  | transactionNotSettled (requiredStatus : String)
  | transactionFailed
  | noMemoInstruction
  | memoMismatch
  | deposit (failure : DepositVerificationError)
  | rpc (message : String)
  deriving DecidableEq, Repr

def TreasuryDepositError.text : TreasuryDepositError → String
  | missingSignature => "txSignature is required"
  | transactionNotFound => "deposit transaction was not found on Solana"
  | transactionNotSettled requiredStatus =>
    "deposit transaction is not " ++ requiredStatus ++ " yet"
  | transactionFailed => "deposit transaction failed on-chain"
  | noMemoInstruction =>
    "deposit transaction carries no memo instruction - include the deposit " ++
      "memo shown in the app"
  | memoMismatch => "on-chain memo does not match this account's deposit memo"
  | deposit failure => failure.text
  | rpc message => "solana rpc error: " ++ message

/-! ## Settled transactions -/

def commitmentSatisfied (required : String) (actual : Option String) : Bool :=
  if required = "processed" then
    actual = some "processed" || actual = some "confirmed" || actual = some "finalized"
  else if required = "confirmed" then
    actual = some "confirmed" || actual = some "finalized"
  else
    actual = some "finalized"

inductive FetchError
  | notFound
  | notSettled (requiredStatus : String)
  | failed
  | rpc (message : String)

/-- The lookup every verification starts with: a settled, successful signature
and its transaction. -/
def fetchSettled (config : SolanaConfig) (rpc : Rpc) (txSignature : String) :
    Except FetchError RpcTransaction := do
  let status ← (rpc.fetchSignatureStatus txSignature).mapError .rpc
  let status ← getOr status .notFound
  failIf (status.err.isSome = true) .failed
  failIf (commitmentSatisfied config.commitment status.confirmationStatus = false)
    (.notSettled config.commitment)
  let tx ← (rpc.fetchTransaction txSignature).mapError .rpc
  getOr tx .notFound

def FetchError.toDeposit : FetchError → DepositVerificationError
  | notFound => .transactionNotFound
  | notSettled requiredStatus => .transactionNotSettled requiredStatus
  | failed => .transactionFailed
  | rpc message => .rpc message

def FetchError.toWithdrawal : FetchError → WithdrawalVerificationError
  | notFound => .transactionNotFound
  | notSettled requiredStatus => .transactionNotSettled requiredStatus
  | failed => .transactionFailed
  | rpc message => .rpc message

def FetchError.toPayout : FetchError → TreasuryPayoutError
  | notFound => .transactionNotFound
  | notSettled requiredStatus => .transactionNotSettled requiredStatus
  | failed => .transactionFailed
  | rpc message => .deposit (.rpc message)

def FetchError.toTreasuryDeposit : FetchError → TreasuryDepositError
  | notFound => .transactionNotFound
  | notSettled requiredStatus => .transactionNotSettled requiredStatus
  | failed => .transactionFailed
  | rpc message => .deposit (.rpc message)

def DepositVerificationError.toWithdrawal : DepositVerificationError → WithdrawalVerificationError
  | transactionNotFound => .transactionNotFound
  | transactionNotSettled requiredStatus => .transactionNotSettled requiredStatus
  | transactionFailed => .transactionFailed
  | unexpectedDecimals decimals => .unexpectedDecimals decimals
  | rpc message => .rpc message
  | missingSignature => .missingSignature
  | noMatchingDeposit => .noMatchingWithdrawal
  | amountMismatch _ _ | sourceMismatch _ _ | fractionalCents =>
    .rpc "unexpected deposit verification error while verifying withdrawal"

/-! ## Owner deltas -/

def microUsdcPerCent : ℤ := 10000

def usdcDecimals : ℕ := 6

abbrev OwnerDeltas := List (String × ℤ)

/-- Sums of `i128` wrap around in a release build. -/
def wrapI128 (value : ℤ) : ℤ := value.bmod (2 ^ 128)

def OwnerDeltas.add (deltas : OwnerDeltas) (owner : String) (amount : ℤ) : OwnerDeltas :=
  if deltas.any fun entry => entry.1 = owner then
    deltas.map fun entry =>
      if entry.1 = owner then (owner, wrapI128 (entry.2 + amount)) else entry
  else
    deltas ++ [(owner, wrapI128 amount)]

def OwnerDeltas.of (deltas : OwnerDeltas) (owner : String) : ℤ :=
  ((deltas.find? fun entry => entry.1 = owner).map Prod.snd).getD 0

def parseTokenAmount (balance : RpcTokenBalance) : Except DepositVerificationError ℤ := do
  failIf (balance.uiTokenAmount.decimals ≠ usdcDecimals)
    (.unexpectedDecimals balance.uiTokenAmount.decimals)
  (parseI128 balance.uiTokenAmount.amount).mapError fun failure =>
    .rpc ("invalid token amount: " ++ failure)

/-- One round of the loops of `aggregate_owner_deltas`; `sign` is -1 for the
balances before the transaction. -/
def countBalance (usdcMint : String) (sign : ℤ) (deltas : OwnerDeltas)
    (balance : RpcTokenBalance) : Except DepositVerificationError OwnerDeltas :=
  match normalizedOptionalString balance.owner with
  | none => .ok deltas
  | some owner =>
    if balance.mint ≠ usdcMint then
      .ok deltas
    else do
      let amount ← parseTokenAmount balance
      pure (deltas.add owner (sign * amount))

def aggregateOwnerDeltas (preBalances postBalances : List RpcTokenBalance)
    (usdcMint : String) : Except DepositVerificationError OwnerDeltas := do
  let deltas ← preBalances.foldlM (countBalance usdcMint (-1)) []
  postBalances.foldlM (countBalance usdcMint 1) deltas

def RpcTransactionMeta.deltas (txMeta : RpcTransactionMeta) (usdcMint : String) :
    Except DepositVerificationError OwnerDeltas :=
  aggregateOwnerDeltas (txMeta.preTokenBalances.getD []) (txMeta.postTokenBalances.getD []) usdcMint

def OwnerDeltas.onlyOwner (deltas : OwnerDeltas) (condition : String × ℤ → Bool) : Option String :=
  match deltas.filter condition with
  | [entry] => some entry.1
  | _ => none

def inferSourceOwner (deltas : OwnerDeltas) (destinationOwner : String) : Option String :=
  deltas.onlyOwner fun entry => entry.1 ≠ destinationOwner && entry.2 < 0

def inferNegativeOwner (deltas : OwnerDeltas)
    (destinationOwner treasuryOwner : String) : Option String :=
  deltas.onlyOwner fun entry => entry.1 ≠ destinationOwner && entry.1 ≠ treasuryOwner && entry.2 < 0

def inferPositiveOwner (deltas : OwnerDeltas)
    (sourceOwner treasuryOwner : String) : Option String :=
  deltas.onlyOwner fun entry => entry.1 ≠ sourceOwner && entry.1 ≠ treasuryOwner && 0 < entry.2

/-! ## Deposits -/

structure VerifiedUsdcDeposit where
  txSignature : String
  sourceAddress : Option String
  amountUsdcCents : ℤ
  deriving DecidableEq, Repr

/-- `try_into` of an `i64`; the message is the one of the call. -/
def toI64 {ε : Type} (value : ℤ) (failure : ε) : Except ε ℤ :=
  if i64Min ≤ value ∧ value ≤ i64Max then .ok value else .error failure

def checkRequestedAmount (requested : Option ℤ) (verified : ℤ) :
    Except DepositVerificationError PUnit :=
  match requested with
  | some requested => failIf (requested ≠ verified) (.amountMismatch verified requested)
  | none => .ok ⟨⟩

/-- A request that names a source must name the inferred one, if there is
one. -/
def checkRequestedSource (requested verified : Option String) :
    Except DepositVerificationError PUnit :=
  match requested, verified with
  | some requested, some verified =>
    failIf (requested ≠ verified) (.sourceMismatch verified requested)
  | _, _ => .ok ⟨⟩

/-- `extract_verified_deposit`. No memo is looked at. -/
def extractVerifiedDeposit (tx : RpcTransaction) (destinationOwner usdcMint : String)
    (requestedAmountUsdcCents : Option ℤ) (requestedSourceAddress : Option String) :
    Except DepositVerificationError VerifiedUsdcDeposit := do
  let txMeta ← getOr tx.txMeta .noMatchingDeposit
  failIf (txMeta.err.isSome = true) .transactionFailed
  let deltas ← txMeta.deltas usdcMint
  let creditedMicroUsdc := deltas.of destinationOwner
  failIf (creditedMicroUsdc ≤ 0) .noMatchingDeposit
  failIf (creditedMicroUsdc % microUsdcPerCent ≠ 0) .fractionalCents
  let amountUsdcCents ← toI64 (creditedMicroUsdc / microUsdcPerCent)
    (.rpc "verified deposit overflowed i64")
  checkRequestedAmount requestedAmountUsdcCents amountUsdcCents
  let inferredSource := inferSourceOwner deltas destinationOwner
  checkRequestedSource (normalizedOptionalString requestedSourceAddress) inferredSource
  pure
    { txSignature := ""
      sourceAddress := inferredSource
      amountUsdcCents }

def verifyUsdcDeposit (config : SolanaConfig) (rpc : Rpc) (destinationOwner txSignature : String)
    (requestedAmountUsdcCents : Option ℤ) (requestedSourceAddress : Option String) :
    Except DepositVerificationError VerifiedUsdcDeposit := do
  let txSignature := trim txSignature
  failIf (txSignature = "") .missingSignature
  let tx ← (fetchSettled config rpc txSignature).mapError FetchError.toDeposit
  let verified ← extractVerifiedDeposit tx destinationOwner config.usdcMint
    requestedAmountUsdcCents requestedSourceAddress
  pure { verified with txSignature }

/-! ## Memos -/

def memoProgramId : String := "MemoSq4gqABAXKb96qnH8TysNcWxMyWCqXgDLGmfcHr"

def base58Alphabet : List Char :=
  "123456789ABCDEFGHJKLMNPQRSTUVWXYZabcdefghijkmnopqrstuvwxyz".toList

/-- The bytes that a carry left over adds in front. A `u32` has four. -/
def carryBytes : ℕ → ℕ → List ℕ
  | 0, _ => []
  | fuel + 1, carry =>
    if carry = 0 then [] else carryBytes fuel (carry / 256) ++ [carry % 256]

/-- One digit of `base58_decode`: the big-endian number times 58, plus the
digit. -/
def base58Push (bytes : List ℕ) (digit : ℕ) : List ℕ :=
  let (carry, bytes) := bytes.foldr (fun byte (carry, done) =>
    ((carry + byte * 58) / 256, (carry + byte * 58) % 256 :: done)) (digit, [])
  carryBytes 4 carry ++ bytes

/-- `base58_decode`; a byte outside the alphabet is an error. -/
def base58Decode (text : String) : Option (List ℕ) := do
  let digits ← text.toList.mapM fun char =>
    base58Alphabet.findIdx? fun letter => letter = char
  pure (List.replicate (text.toList.takeWhile fun char => char = '1').length 0 ++
    digits.foldl base58Push [])

section Base58

open List Radix

def base58Letter (digit : ℕ) : Char := base58Alphabet.getD digit '1'

/-- The usual encoding with that alphabet. -/
def base58Encode (bytes : List UInt8) : String :=
  .ofList ((convert 256 58 (bytes.map UInt8.toNat)).map base58Letter)

theorem carryBytes_eq_numeral (small : carry < 58) : carryBytes 4 carry = numeral 256 carry := by
  interval_cases carry <;> decide +kernel

/-- The loop over the bytes, from the last. -/
theorem base58Push_loop (small : carry < 58) (number : ℕ) (done : List ℕ) :
    (let (carry, bytes) := (numeral 256 number).foldr (fun byte (carry, done) =>
      ((carry + byte * 58) / 256, (carry + byte * 58) % 256 :: done)) (carry, done)
    carryBytes 4 carry ++ bytes) = numeral 256 (58 * number + carry) ++ done := by
  induction number using Nat.strongRecOn generalizing carry done with
  | ind number ih =>
    rcases Nat.eq_zero_or_pos number with rfl | positive
    · simp [carryBytes_eq_numeral small]
    · have carried : (58 * number + carry) / 256 =
          58 * (number / 256) + (carry + number % 256 * 58) / 256 := by omega
      have kept : (58 * number + carry) % 256 = (carry + number % 256 * 58) % 256 := by omega
      rw [numeral_eq_concat (by norm_num) positive, foldr_append,
        numeral_eq_concat (by norm_num) (by omega : 0 < 58 * number + carry), carried, kept,
        append_assoc]
      exact ih (number / 256) (Nat.div_lt_self positive (by norm_num)) (by omega) _

theorem foldl_base58Push {digits : List ℕ} (small : ∀ digit ∈ digits, digit < 58) :
    digits.foldl base58Push [] = numeral 256 (value 58 digits) := by
  induction digits using reverseRecOn with
  | nil => simp
  | append_singleton digits digit ih =>
    simp only [mem_append, mem_singleton] at small
    rw [foldl_append, ih fun digit member => small digit (.inl member), value_concat]
    exact (base58Push_loop (small digit (.inr rfl)) _ []).trans (append_nil _)

theorem base58Letter_eq_iff {char : Char} {digit : ℕ} :
    (base58Alphabet.findIdx? fun letter => letter = char) = some digit ↔
      digit < 58 ∧ base58Letter digit = char := by
  constructor
  · intro found
    obtain ⟨small, isChar, -⟩ := findIdx?_eq_some_iff_getElem.mp found
    exact ⟨small, by simpa [base58Letter, getElem?_eq_getElem small] using isChar⟩
  · rintro ⟨small, rfl⟩
    revert digit
    decide +kernel

theorem mapM_base58_eq_some {chars : List Char} {digits : List ℕ} :
    (chars.mapM fun char => base58Alphabet.findIdx? fun letter => letter = char) = some digits ↔
      (∀ digit ∈ digits, digit < 58) ∧ digits.map base58Letter = chars := by
  induction chars generalizing digits with
  | nil => cases digits <;> simp
  | cons char rest ih =>
    cases digits with
    | nil => simp [Option.bind_eq_some_iff]
    | cons digit digits =>
      simp [Option.bind_eq_some_iff, ih, base58Letter_eq_iff]
      tauto

theorem takeWhile_base58Letter {digits : List ℕ} (small : ∀ digit ∈ digits, digit < 58) :
    ((digits.map base58Letter).takeWhile (· = '1')).length = leadingZeros digits := by
  have isOne : ∀ digit < 58, base58Letter digit = '1' ↔ digit = 0 := by decide +kernel
  induction digits with
  | nil => rfl
  | cons digit rest ih =>
    simp only [mem_cons, forall_eq_or_imp] at small
    simp only [leadingZeros, map_cons, takeWhile_cons, isOne digit small.1]
    split
    · exact congrArg (· + 1) (ih small.2)
    · rfl

theorem base58Decode_eq_some {text : String} {bytes : List ℕ} :
    base58Decode text = some bytes ↔ ∃ digits : List ℕ, (∀ digit ∈ digits, digit < 58) ∧
      digits.map base58Letter = text.toList ∧ convert 58 256 digits = bytes := by
  simp only [base58Decode, Option.bind_eq_bind, Option.bind_eq_some_iff, mapM_base58_eq_some,
    Option.pure_def, Option.some.injEq, and_assoc]
  refine exists_congr fun digits => and_congr_right fun small => and_congr_right fun spelled => ?_
  rw [← spelled, takeWhile_base58Letter small, foldl_base58Push small, convert]

/-- The decoder inverts the encoding, takes no two texts to the same bytes and
accepts the texts over the alphabet. -/
theorem base58Decode_correct :
    (∀ bytes : List UInt8, base58Decode (base58Encode bytes) = some (bytes.map UInt8.toNat)) ∧
    {text | (base58Decode text).isSome}.InjOn base58Decode ∧
    ∀ text, (base58Decode text).isSome ↔ ∀ char ∈ text.toList, char ∈ base58Alphabet := by
  refine ⟨fun bytes => ?_, ?_, fun text => ?_⟩
  · have small : ∀ byte ∈ bytes.map UInt8.toNat, byte < 256 := by
      simpa using fun byte _ => byte.toNat_lt
    exact base58Decode_eq_some.mpr ⟨_, convert_small (by norm_num), by simp [base58Encode],
      convert_convert (by norm_num) small⟩
  · intro text accepted other _ same
    obtain ⟨bytes, decoded⟩ := Option.isSome_iff_exists.mp accepted
    obtain ⟨digits, small, spelled, rfl⟩ := base58Decode_eq_some.mp decoded
    obtain ⟨digits', small', spelled', back⟩ := base58Decode_eq_some.mp (same ▸ decoded)
    have equal : digits = digits' := by
      rw [← convert_convert (by norm_num) small, ← back, convert_convert (by norm_num) small']
    exact String.toList_injective (by rw [← spelled, ← spelled', equal])
  · rw [Option.isSome_iff_exists]
    constructor
    · rintro ⟨bytes, decoded⟩ char member
      obtain ⟨digits, small, spelled, -⟩ := base58Decode_eq_some.mp decoded
      obtain ⟨digit, isDigit, rfl⟩ := mem_map.mp (spelled ▸ member)
      have isLetter : ∀ digit < 58, base58Letter digit ∈ base58Alphabet := by decide +kernel
      exact isLetter digit (small digit isDigit)
    · intro letters
      have spelled : ∀ char ∈ base58Alphabet, base58Alphabet.idxOf char < 58 ∧
          base58Letter (base58Alphabet.idxOf char) = char :=
        forall_iff_forall_mem.mp (by decide +kernel)
      refine ⟨_, base58Decode_eq_some.mpr ⟨text.toList.map base58Alphabet.idxOf, ?_, ?_, rfl⟩⟩
      · simpa using fun char member => (spelled char (letters char member)).1
      · rw [map_map]
        refine (map_congr_left fun char member => ?_).trans (map_id _)
        exact (spelled char (letters char member)).2

end Base58

def RpcMessage.memos (message : RpcMessage) : List String :=
  (message.instructions.getD []).filterMap fun instruction => do
    guard (instruction.programId = some memoProgramId)
    let data ← instruction.data
    let bytes ← base58Decode data
    let chars ← fromUtf8 bytes
    pure (String.ofList chars)

structure VerifiedTreasuryDeposit where
  txSignature : String
  amountUsdcCents : ℤ
  sourceAddress : Option String
  memo : String
  feePayer : String
  deriving DecidableEq, Repr

def verifyTreasuryDeposit (config : SolanaConfig) (rpc : Rpc) (txSignature expectedMemo : String) :
    Except TreasuryDepositError VerifiedTreasuryDeposit := do
  let txSignature := trim txSignature
  failIf (txSignature = "") .missingSignature
  let tx ← (fetchSettled config rpc txSignature).mapError
    FetchError.toTreasuryDeposit
  let message ← getOr tx.message (.rpc "transaction payload missing message")
  let feePayer ← getOr ((message.accountKeys.getD []).head?.join)
    (.rpc "transaction message has no account keys")
  failIf (message.memos = []) .noMemoInstruction
  failIf (expectedMemo ∉ message.memos) .memoMismatch
  let verified ← (extractVerifiedDeposit tx config.treasuryAddress
    config.usdcMint none none).mapError .deposit
  pure
    { txSignature
      amountUsdcCents := verified.amountUsdcCents
      sourceAddress := verified.sourceAddress
      memo := expectedMemo
      feePayer }

/-! ## Withdrawals and payouts -/

def withdrawalFeeMicroUsdc (grossMicroUsdc : ℤ) (feeBps : ℕ) : ℤ :=
  Int.tdiv (grossMicroUsdc * feeBps) 10000

def microUsdcToCents (amountMicroUsdc : ℤ) : Except String ℤ := do
  failIf (amountMicroUsdc % microUsdcPerCent ≠ 0)
    "micro-USDC amount was not an exact number of cents"
  toI64 (amountMicroUsdc / microUsdcPerCent) "micro-USDC cents overflowed i64"

structure VerifiedUsdcWithdrawal where
  txSignature : String
  sourceAddress : String
  destinationAddress : String
  grossAmountUsdcCents : ℤ
  destinationAmountMicroUsdc : ℤ
  treasuryAmountMicroUsdc : ℤ
  deriving DecidableEq, Repr

def extractVerifiedWithdrawal (tx : RpcTransaction) (sourceOwner destinationOwner : String)
    (requestedAmountUsdcCents : ℤ) (usdcMint treasuryOwner : String) (withdrawalFeeBps : ℕ) :
    Except WithdrawalVerificationError VerifiedUsdcWithdrawal := do
  let txMeta ← getOr tx.txMeta .noMatchingWithdrawal
  failIf (txMeta.err.isSome = true) .transactionFailed
  let deltas ← (txMeta.deltas usdcMint).mapError
    DepositVerificationError.toWithdrawal
  let sourceDelta := deltas.of sourceOwner
  failIf (0 ≤ sourceDelta) .noMatchingWithdrawal
  let verifiedSource ← getOr
    (inferNegativeOwner deltas destinationOwner treasuryOwner)
    .noMatchingWithdrawal
  failIf (verifiedSource ≠ sourceOwner) (.sourceMismatch verifiedSource sourceOwner)
  let grossMicroUsdc := requestedAmountUsdcCents * microUsdcPerCent
  if -sourceDelta ≠ grossMicroUsdc then
    let verifiedAmount ← (microUsdcToCents (-sourceDelta)).mapError .rpc
    .error (.amountMismatch verifiedAmount requestedAmountUsdcCents)
  else
    let expectedTreasury := withdrawalFeeMicroUsdc grossMicroUsdc
      withdrawalFeeBps
    let expectedDestination := grossMicroUsdc - expectedTreasury
    let verifiedDestination := deltas.of destinationOwner
    failIf (verifiedDestination ≤ 0)
      (.destinationMismatch ((inferPositiveOwner deltas sourceOwner treasuryOwner).getD "")
        destinationOwner)
    if verifiedDestination ≠ expectedDestination then
      let verified ← toI64 verifiedDestination
        (.rpc "verified destination amount overflowed i64")
      let expected ← toI64 expectedDestination
        (.rpc "expected destination amount overflowed i64")
      .error (.destinationAmountMismatch verified expected)
    else
      let verifiedTreasury := deltas.of treasuryOwner
      if verifiedTreasury ≠ expectedTreasury then
        let verified ← toI64 verifiedTreasury
          (.rpc "verified treasury fee overflowed i64")
        let expected ← toI64 expectedTreasury
          (.rpc "expected treasury fee overflowed i64")
        .error (.treasuryFeeMismatch verified expected)
      else
        let destinationAmountMicroUsdc ← toI64 verifiedDestination
          (.rpc "verified destination amount overflowed i64")
        let treasuryAmountMicroUsdc ← toI64 verifiedTreasury
          (.rpc "verified treasury fee overflowed i64")
        pure
          { txSignature := ""
            sourceAddress := sourceOwner
            destinationAddress := destinationOwner
            grossAmountUsdcCents := requestedAmountUsdcCents
            destinationAmountMicroUsdc
            treasuryAmountMicroUsdc }

def verifyUsdcWithdrawal (config : SolanaConfig) (rpc : Rpc) (sourceOwner destinationOwner : String)
    (amountUsdcCents : ℤ) (txSignature : String) :
    Except WithdrawalVerificationError VerifiedUsdcWithdrawal := do
  let txSignature := trim txSignature
  failIf (txSignature = "") .missingSignature
  failIf (amountUsdcCents ≤ 0) (.amountMismatch 0 amountUsdcCents)
  let tx ← (fetchSettled config rpc txSignature).mapError
    FetchError.toWithdrawal
  let verified ← extractVerifiedWithdrawal tx sourceOwner destinationOwner
    amountUsdcCents config.usdcMint config.treasuryAddress
    config.withdrawalFeeBps
  pure { verified with txSignature }

structure VerifiedTreasuryPayout where
  txSignature : String
  destinationAddress : String
  grossAmountUsdcCents : ℤ
  destinationAmountMicroUsdc : ℤ
  treasuryRetainedMicroUsdc : ℤ
  deriving DecidableEq, Repr

def verifyTreasuryPayout
    (config : SolanaConfig) (rpc : Rpc) (txSignature expectedDestination : String)
    (grossAmountUsdcCents : ℤ) : Except TreasuryPayoutError VerifiedTreasuryPayout := do
  let txSignature := trim txSignature
  failIf (txSignature = "") .missingSignature
  let tx ← (fetchSettled config rpc txSignature).mapError FetchError.toPayout
  let txMeta ← getOr tx.txMeta .destinationMismatch
  failIf (txMeta.err.isSome = true) .transactionFailed
  let deltas ← (txMeta.deltas config.usdcMint).mapError .deposit
  let grossMicroUsdc := grossAmountUsdcCents * microUsdcPerCent
  let feeMicroUsdc := withdrawalFeeMicroUsdc grossMicroUsdc
    config.withdrawalFeeBps
  let netMicroUsdc := grossMicroUsdc - feeMicroUsdc
  failIf (deltas.of config.treasuryAddress ≠ -netMicroUsdc) .treasuryDebitMismatch
  failIf (deltas.of expectedDestination ≠ netMicroUsdc) .destinationMismatch
  failIf ((deltas.any fun entry =>
      0 < entry.2 && entry.1 ≠ expectedDestination) = true)
    .unexpectedRecipients
  let destinationAmountMicroUsdc ← toI64 netMicroUsdc
    (.rpc "verified payout overflowed i64")
  let treasuryRetainedMicroUsdc ← toI64 feeMicroUsdc
    (.rpc "verified fee overflowed i64")
  pure
    { txSignature
      destinationAddress := expectedDestination
      grossAmountUsdcCents
      destinationAmountMicroUsdc
      treasuryRetainedMicroUsdc }

/-! ## What a verification establishes -/

/-- The millionths of a USDC that a transaction brings to an owner. -/
def RpcTransaction.microUsdcTo (tx : RpcTransaction) (usdcMint owner : String) : ℤ :=
  match tx.txMeta with
  | some txMeta =>
    match txMeta.deltas usdcMint with
    | .ok deltas => deltas.of owner
    | .error _ => 0
  | none => 0

def RpcTransaction.memos (tx : RpcTransaction) : List String :=
  (tx.message.map RpcMessage.memos).getD []

theorem toI64_eq_ok_iff {ε : Type} {value result : ℤ} {failure : ε} :
    toI64 value failure = .ok result ↔ (i64Min ≤ value ∧ value ≤ i64Max) ∧ value = result := by
  unfold toI64
  split <;> simp_all

theorem fetchTransaction_of_fetchSettled (settled : fetchSettled config rpc txSignature = .ok tx) :
    rpc.fetchTransaction txSignature = .ok (some tx) := by
  simp only [fetchSettled, ok_iff, mapError_eq_ok] at settled
  obtain ⟨_, -, _, -, -, -, _, fetched, rfl⟩ := settled
  exact fetched

theorem extractVerifiedDeposit_pays {tx : RpcTransaction} {usdcMint : String}
    (extracted : extractVerifiedDeposit tx destinationOwner usdcMint amount source = .ok verified) :
    0 < tx.microUsdcTo usdcMint destinationOwner ∧ verified.amountUsdcCents * microUsdcPerCent =
        tx.microUsdcTo usdcMint destinationOwner := by
  simp only [extractVerifiedDeposit, ok_iff, toI64_eq_ok_iff]
    at extracted
  obtain ⟨txMeta, hasMeta, -, deltas, counted, pays, whole, cents,
    ⟨-, rfl⟩, -, -, -, -, rfl⟩ := extracted
  have reads : tx.microUsdcTo usdcMint destinationOwner = deltas.of destinationOwner := by
    simp [RpcTransaction.microUsdcTo, hasMeta, counted]
  rw [reads]
  exact ⟨by omega, Int.ediv_mul_cancel (Int.dvd_of_emod_eq_zero (by omega))⟩

/-- The transaction a node shows under a signature brings an owner a positive
number of cents. -/
structure Pays (config : SolanaConfig) (rpc : Rpc) (txSignature owner : String)
    (amountUsdcCents : ℤ) (tx : RpcTransaction) : Prop where
  fetched : rpc.fetchTransaction txSignature = .ok (some tx)
  positive : 0 < tx.microUsdcTo config.usdcMint owner
  amount : amountUsdcCents * microUsdcPerCent = tx.microUsdcTo config.usdcMint owner

theorem verifyUsdcDeposit_pays {rpc : Rpc}
    (isVerified : verifyUsdcDeposit config rpc destinationOwner txSignature
      amount source = .ok verified) : verified.txSignature = trim txSignature ∧
      ∃ tx, Pays config rpc verified.txSignature destinationOwner verified.amountUsdcCents tx := by
  simp only [verifyUsdcDeposit, ok_iff, mapError_eq_ok] at isVerified
  obtain ⟨-, tx, settled, extractedDeposit, extracted, rfl⟩ := isVerified
  have pays := extractVerifiedDeposit_pays extracted
  exact ⟨rfl, tx, fetchTransaction_of_fetchSettled settled, pays.1, pays.2⟩

theorem verifyTreasuryDeposit_pays {verified : VerifiedTreasuryDeposit}
    (isVerified : verifyTreasuryDeposit config rpc txSignature expectedMemo = .ok verified) :
    ∃ tx, expectedMemo ∈ tx.memos ∧ Pays config rpc verified.txSignature config.treasuryAddress
        verified.amountUsdcCents tx := by
  simp only [verifyTreasuryDeposit, ok_iff, mapError_eq_ok, not_not] at isVerified
  obtain ⟨-, tx, settled, message, hasMessage, _, -, -, hasMemo, _, extracted, rfl⟩ := isVerified
  have pays := extractVerifiedDeposit_pays extracted
  have carries : expectedMemo ∈ tx.memos := by
    simpa [RpcTransaction.memos, hasMessage] using hasMemo
  exact ⟨tx, carries, fetchTransaction_of_fetchSettled settled, pays.1, pays.2⟩

end Teale.Gateway
