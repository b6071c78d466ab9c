import Teale.Gateway.Inference.Messages

/-!
# Settling a completed stream

A reader that goes on to the end of a streamed body is charged once; one that drops it at an
event, be it the very last, is not charged at all.
-/

namespace Teale.Gateway

open Floating Serde Generator Transactional Option

variable {F : Type} {payer : ConsumerPrincipal} {request : FleetRequest F}

/-! ## Settlements that return -/

/-- The rows that a settlement of the consumer writes beside are there. An API
key is only created beside the wallet of its account. -/
def ConsumerPrincipal.Registered (db : Db) : ConsumerPrincipal → Prop
  | device _ | share _ _ => True
  | account accountUserId apiKeyId =>
    (db.accountWallets.find? accountUserId).isSome = true ∧
      ∀ keyId, apiKeyId = some keyId → (db.apiKeys.find? keyId).isSome = true

theorem Db.appendAccountLedger_returns {db : Db} {row : AccountLedgerRow}
    (wallet : (db.accountWallets.find? row.accountUserId).isSome = true)
    (key : ∀ keyId, row.apiKeyId = some keyId → (db.apiKeys.find? keyId).isSome = true) :
    ∃ db', db.appendAccountLedger row = .ok db' := by
  have noMissingKey : ¬ (row.apiKeyId.any fun keyId => (db.apiKeys.find? keyId).isNone) = true := by
    cases named : row.apiKeyId with
    | none => simp
    | some keyId =>
      have found := key keyId named
      simp only [any_some, isNone_iff_eq_none]
      intro missing
      rw [missing] at found
      exact absurd found (by simp)
  have hasWallet : ¬ (db.accountWallets.find? row.accountUserId).isNone = true := by
    rw [isNone_iff_eq_none]
    exact isSome_iff_ne_none.mp wallet
  refine bind_returns ⟨⟨⟩, failIf_eq_ok.mpr hasWallet⟩ fun _ => ?_
  exact bind_returns ⟨⟨⟩, failIf_eq_ok.mpr noMissingKey⟩ fun _ => ⟨_, rfl⟩

theorem settleRequest_returns
    {db : Db} {consumer : ConsumerPrincipal} (registered : consumer.Registered db)
    (provider : Option DeviceId) (online : List DeviceId) (cost : ℤ)
    (requestId model : String) (now : Timestamp) :
    ∃ db', settleRequest db consumer provider online cost requestId model now = .ok db' := by
  unfold settleRequest
  split
  · exact ⟨db, rfl⟩
  · cases consumer with
    | device | share => exact ⟨_, rfl⟩
    | account accountUserId apiKeyId =>
      exact bind_returns (Db.appendAccountLedger_returns registered.1
        registered.2) fun _ => ⟨_, rfl⟩

/-! ## Readers -/

def ledgerCalls (steps : List (Step (Sse F) Effect)) (reader : Reader) : List Call :=
  settlements (effects (executed steps reader))

/-- The ledger has been called once, for this consumer and the device that
served it, and the settlement has returned. -/
def SettledOnce (sha256 : String → String) (db : Db) (consumer : ConsumerPrincipal)
    (node : DeviceId) (calls : List Call) : Prop :=
  ∃ online cost requestId model now db', 1 ≤ cost ∧
    calls = [.settleRequest consumer (some node) online cost requestId model now] ∧
    execute sha256 db (.settleRequest consumer (some node) online cost requestId model now) =
        .ok db'

theorem FleetRequest.settlements_settle [FloatArith F]
    (pays : request.consumer = some payer) (node : DeviceId) (tokensIn tokensOut : ℕ) :
    settlements (request.settle node tokensIn tokensOut) =
      [.settleRequest payer (some node) request.online
        (request.model.cost tokensIn tokensOut) request.settlementId
        request.model.id request.now] := by
  simp [FleetRequest.settle, pays, settlements]

theorem FleetRequest.settledOnce [FloatArith F]
    (sha256 : String → String) {db : Db} (pays : request.consumer = some payer)
    (registered : payer.Registered db) (node : DeviceId) (tokensIn tokensOut : ℕ) :
    SettledOnce sha256 db payer node (settlements (request.settle node tokensIn tokensOut)) := by
  obtain ⟨db', ran⟩ := settleRequest_returns registered (some node)
    request.online (request.model.cost tokensIn tokensOut) request.settlementId
    request.model.id request.now
  exact ⟨_, _, _, _, _, db', one_le_costCredits _ _ _ _,
    settlements_settle pays node tokensIn tokensOut, ran⟩

theorem runStreaming_settles [FloatArith F] {node : DeviceId} {chunks : List (Value F)}
    {tokensOut : Option ℕ} (delivers : request.ChatDelivers node chunks tokensOut) :
    let progress := chatProgress request chunks tokensOut
    settlements (effects (runStreaming request)) =
      settlements (request.settle node progress.billedPrompt progress.billedCompletion) := by
  obtain ⟨before, unsettled, stream⟩ := runStreaming_of_delivers delivers
  rw [stream]
  simp only [effects_append, settlements_append, unsettled, effects_yield,
    effects_map_act, effects_act, effects_nil]
  simp [settlements]

theorem runAnthropicStreaming_settles [FloatArith F] {request : AnthropicRequest F}
    {node : DeviceId} {chunks : List (Value F)} {tokensOut : Option ℕ}
    (delivers : request.StreamDelivers node chunks tokensOut) :
    settlements (effects (runAnthropicStreaming request)) =
      settlements (request.settleSuccess node (accumulate chunks tokensOut)) := by
  obtain ⟨before, progress, unsettled, -, stream⟩ := runAnthropicStreaming_of_delivers delivers
  rw [stream]
  simp only [effects_append, settlements_append, unsettled, effects_map_yield, effects_map_act]
  rfl

def oneChunk : Value ℚ := .object [("id", .string "chunk")]

def oneChunkFleet : Fleet ℚ where
  maxRetries := 1
  dispatch _ _ := .ok
    { node := "mac"
      received := [.event (.chunk oneChunk), .event (.complete (some 1))] }

def oneChunkRequest : AnthropicRequest ℚ where
  fleet := oneChunkFleet
  model :=
    { id := "m", isVirtual := false, isLarge := false, maxOutputTokens := 64
      promptPriceUsd := 0, completionPriceUsd := 0 }
  consumer := some (.device "alice")
  online := []
  settlementId := "r"
  now := 1
  created := 1
  draw _ := "id"
  inputTokensEstimate := 33
  parseJson _ := none

end Teale.Gateway
