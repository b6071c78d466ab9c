import Teale.Lib.Bytes
import Teale.Gateway.ChallengeLimiter
import Teale.Gateway.DeviceRows
import Teale.Gateway.Handlers.Login

/-!
# Keys and device ids

A device id is a public key in hex. `exchange` checks the signature against the decoded key, but
rows, bonuses and the challenge limiter go by the text of the id. A key is one device as long as
it is always spelled the same.
-/

namespace Teale.Gateway

open Relational Transactional Service Enrollment List Db

/-! ## Challenges and exchanges -/

structure LoginState where
  db : Db
  limiter : ChallengeLimiter

inductive LoginStep
  | challenge (moment : Moment) (headers : ForwardingHeaders) (deviceId : String)
  | exchange (moment : Moment) (req : ExchangeReq)

namespace LoginStep

def deviceId : LoginStep → String
  | .challenge _ _ deviceId => deviceId
  | .exchange _ req => req.deviceId

def now : LoginStep → Timestamp
  | .challenge moment _ _ => moment.now
  | .exchange moment _ => moment.now

def ask : LoginStep → Option ChallengeLimiter.Ask
  | .challenge moment headers deviceId =>
    if isHexPubkey deviceId then
      some ⟨clientIpKey headers, deviceId, moment.now⟩
    else none
  | .exchange _ _ => none

end LoginStep

namespace LoginState

def challenge (state : LoginState) (moment : Moment)
    (headers : ForwardingHeaders) (deviceId : String) :
    Except Failure (String × Timestamp) × LoginState :=
  match LoginStep.ask (.challenge moment headers deviceId) with
  | some ask =>
    let asked := state.limiter.allow ask
    let served := (Gateway.challenge { moment with
      challengeDenied := decide (asked.1 = .denied) } deviceId).serve state.db
    (served.1, ⟨served.2, asked.2⟩)
  | none =>
    let served := (Gateway.challenge moment deviceId).serve state.db
    (served.1, { state with db := served.2 })

def step (config : Config) (state : LoginState) : LoginStep → LoginState
  | .challenge moment headers deviceId => (state.challenge moment headers deviceId).2
  | .exchange moment req => { state with db := (exchange config moment req).finish state.db }

def slotsUsed (config : Config) : LoginState → List LoginStep → List ChallengeLimiter.Ask
  | _, [] => []
  | state, step :: steps =>
    let later := slotsUsed config (state.step config step) steps
    match step.ask with
    | some ask =>
      if (state.limiter.allow ask).1 = .newDevice then ask :: later else later
    | none => later

end LoginState

/-! ## The calls of the two endpoints -/

def Call.LogsIn (deviceId : DeviceId) : Call → Prop
  | .upsertDevice other _ => other = deviceId
  | .applyDeviceJoinRewards other _ _ _ => other = deviceId
  | .createChallenge .. | .consumeChallenge .. | .issueToken .. => True
  | _ => False

theorem challenge_performs (sha256 : String → String) (moment : Moment) (deviceId : DeviceId)
    (db : Db) : Performs (execute sha256) (fun _ call => call.LogsIn deviceId)
      (challenge moment deviceId) db fun _ _ => True := by
  refine .after .refuseIf fun _ _ => ?_
  refine .after .refuseIf fun _ _ => ?_
  refine .bind (.perform (.upsertDevice ..) rfl rfl) ?_
  intro _ state _
  exact .answer (.transact (.createChallenge ..) rfl trivial) fun _ _ _ => trivial

theorem exchange_performs (config : Config) (moment : Moment) (req : ExchangeReq) (db : Db) :
    Performs (execute config.sha256) (fun _ call => call.LogsIn req.deviceId)
      (exchange config moment req) db fun _ _ => True := by
  refine .after .refuseIf fun _ _ => ?_
  refine .after .outcome fun _ _ => ?_
  refine .bind (.transact (.consumeChallenge ..) rfl trivial) ?_
  intro consumed state _
  refine .after .refuseIf fun _ _ => ?_
  refine .bind (.transact (.applyDeviceJoinRewards ..) rfl rfl) ?_
  intro rewards rewarded _
  exact .answer (.transact (.issueToken ..) rfl trivial) fun _ _ _ => trivial

/-! ## Welcome bonuses -/

def Db.bonusDevices (db : Db) : List DeviceId := db.ledger.rows.filterMap fun row =>
    if row.2.type = .bonus then some row.2.deviceId else none

variable {deviceId : DeviceId} {now : Timestamp}

theorem deviceHasBonus_iff {db : Db} :
    db.deviceHasBonus deviceId = true ↔ deviceId ∈ db.bonusDevices := by
  simp [deviceHasBonus, bonusDevices, and_comm]

theorem bonusDevices_of_ledger_eq {db db' : Db} (same : db'.ledger = db.ledger) :
    db'.bonusDevices = db.bonusDevices := by
  rw [bonusDevices, same, bonusDevices]

theorem bonusDevices_appendLedger (db : Db) (row : LedgerRow) : (db.appendLedger row).bonusDevices =
      db.bonusDevices ++ if row.type = .bonus then [row.deviceId] else [] := by
  simp only [bonusDevices, appendLedger, Log.append, filterMap_append]
  split_ifs with isBonus <;> simp [isBonus]

theorem rewardReferrerTx_bonusDevices (ran : rewardReferrerTx db owner actor note now = .ok db') :
    db'.bonusDevices = db.bonusDevices := by
  cases owner with
  | device deviceId =>
    cases ran
    have appended := bonusDevices_appendLedger db
      ⟨deviceId, .referralBonus, referralBonusCredits, now, none, some note⟩
    exact appended.trans (append_nil _)
  | account accountUserId =>
    obtain ⟨-, rfl⟩ := appendAccountLedger_ok ran
    rfl

theorem applyReferralForDeviceTx_bonusDevices
    (ran : applyReferralForDeviceTx db deviceId code claimId now = .ok result) :
    result.1.bonusDevices = db.bonusDevices := by
  simp only [applyReferralForDeviceTx, insertReferralClaim, bind_eq_ok, pure_eq_ok] at ran
  obtain ⟨_, -, row, -, _, -, _, -, rewarded, referrer, claimed,
    ⟨_, -, _, -, _, -, _, -, rfl⟩, rfl⟩ := ran
  have appended := bonusDevices_appendLedger rewarded
    ⟨deviceId, .referralBonus, referralBonusCredits, now, none,
      some ("joined with referral code " ++ code)⟩
  exact (appended.trans (append_nil _)).trans (rewardReferrerTx_bonusDevices referrer)

theorem applyDeviceJoinRewards_bonuses {db : Db} {code : Option String} {claimId : String}
    {result : Db × JoinRewards}
    (ran : applyDeviceJoinRewards db deviceId code claimId now = .ok result) :
    Enrolls (· = deviceId) db.bonusDevices result.1.bonusDevices := by
  have welcomed : Enrolls (· = deviceId) db.bonusDevices (welcomeDevice
      ((db.ensureDevice deviceId now).ensureBalance deviceId) deviceId now).1.bonusDevices := by
    unfold welcomeDevice
    split_ifs with hasBonus
    · exact Enrolls.refl _ _
    · have fresh : deviceId ∉ db.bonusDevices := fun member =>
        hasBonus (deviceHasBonus_iff.mpr member)
      have appended := bonusDevices_appendLedger db
        ⟨deviceId, .bonus, welcomeBonusCredits, now, none, some welcomeNote⟩
      exact appended ▸ Enrolls.single fresh rfl
  simp only [applyDeviceJoinRewards] at ran
  split at ran
  · cases ran
    exact welcomed
  · simp only [ok_iff] at ran
    obtain ⟨_, claimed, rfl⟩ := ran
    rw [applyReferralForDeviceTx_bonusDevices claimed]
    exact welcomed

/-! ## Runs -/

/-- Since the first state, rows and bonuses have been written for named devices
only, once for each. -/
structure JoinedOnly (named : DeviceId → Prop) (start db : Db) : Prop where
  codesOwned : CodesOwned db
  rows : EnrollsDevices named start db
  bonuses : Enrolls named start.bonusDevices db.bonusDevices

variable {named : DeviceId → Prop} {state : LoginState} {step : LoginStep} {config : Config}
  {ask : ChallengeLimiter.Ask}

theorem execute_joinedOnly {sha256 : String → String} {start db db' : Db}
    {call : Call} (isNamed : named deviceId)
    (logsIn : call.LogsIn deviceId) (joined : JoinedOnly named start db)
    (ran : execute sha256 db call = .ok db') : JoinedOnly named start db' := by
  have owned := execute_codesOwned joined.codesOwned ran
  have framed : .devices ∉ writes call → .ledger ∉ writes call → JoinedOnly named start db' := by
    intro noDevices noLedger
    have within := execute_within ran
    refine ⟨owned, joined.rows.trans (.of_devices_eq (within.read (·.devices) fun _ => if_neg noDevices)), ?_⟩
    rw [bonusDevices_of_ledger_eq (within.read (·.ledger) fun _ => if_neg noLedger)]
    exact joined.bonuses
  have only : ∀ other, other = deviceId → named other := by
    rintro _ rfl
    exact isNamed
  cases call with
  | upsertDevice other now =>
    obtain rfl : other = deviceId := logsIn
    have within := execute_within ran
    cases ran
    refine ⟨owned, joined.rows.trans ((upsertDevice_enrolls db other now).mono only), ?_⟩
    rw [bonusDevices_of_ledger_eq (within.read (·.ledger) fun _ => rfl)]
    exact joined.bonuses
  | applyDeviceJoinRewards other code claimId now =>
    obtain rfl : other = deviceId := logsIn
    obtain ⟨_, called, rfl⟩ := map_eq_ok.mp ran
    -- the owner of a code has a row, so only the device itself gets one
    have rows := (applyDeviceJoinRewards_enrolls called).mono
      fun joining allowed => allowed.imp_right (joined.codesOwned joining)
    have rows : EnrollsDevices (· = other) db _ := Enrolls.of_present rows
    exact ⟨owned, joined.rows.trans (rows.mono only),
      joined.bonuses.trans ((applyDeviceJoinRewards_bonuses called).mono only)⟩
  | createChallenge | consumeChallenge | issueToken =>
    exact framed (by simp [writes]) (by simp [writes])
  | _ => exact logsIn.elim

theorem limiter_step (config : Config) (state : LoginState) (step : LoginStep) :
    (state.step config step).limiter =
      match step.ask with
      | some ask => (state.limiter.allow ask).2
      | none => state.limiter := by
  cases step with
  | challenge moment headers deviceId =>
    simp only [LoginState.step, LoginState.challenge]
    split <;> rfl
  | exchange moment req => rfl

theorem deviceId_of_ask
    (asked : step.ask = some ask) : ask.deviceId = step.deviceId ∧ ask.now = step.now := by
  cases step with
  | challenge moment headers deviceId =>
    simp only [LoginStep.ask, Option.ite_none_right_eq_some, Option.some.injEq] at asked
    obtain ⟨-, rfl⟩ := asked
    exact ⟨rfl, rfl⟩
  | exchange moment req => simp [LoginStep.ask] at asked

theorem slotsUsed_eq (config : Config) (state : LoginState) (steps : List LoginStep) :
    state.slotsUsed config steps = state.limiter.slotsUsed (steps.filterMap LoginStep.ask) := by
  induction steps generalizing state with
  | nil => rfl
  | cons step steps ih =>
    rw [LoginState.slotsUsed, ih, limiter_step]
    cases asked : step.ask with
    | none => simp [asked]
    | some ask => simp [asked, ChallengeLimiter.slotsUsed]

theorem step_joinedOnly (isNamed : named step.deviceId) (joined : JoinedOnly named start state.db) :
    JoinedOnly named start (state.step config step).db := by
  have preserved : ∀ db call db', call.LogsIn step.deviceId →
      JoinedOnly named start db → execute config.sha256 db call = .ok db' →
      JoinedOnly named start db' := fun _ _ _ logsIn before ran =>
    execute_joinedOnly isNamed logsIn before ran
  cases step with
  | challenge moment headers deviceId =>
    simp only [LoginState.step, LoginState.challenge]
    split <;> exact (challenge_performs config.sha256 _ deviceId
      state.db).invariant _ preserved joined
  | exchange moment req =>
    exact (exchange_performs config moment req state.db).invariant _ preserved joined

def SlotsNamed (named : DeviceId → Prop) (limiter : ChallengeLimiter) : Prop :=
  ∀ network deviceId, ((limiter.devices network).find? deviceId).isSome → named deviceId

theorem allow_slotsNamed (isNamed : named ask.deviceId) (slots : SlotsNamed named limiter) :
    SlotsNamed named (limiter.allow ask).2 := by
  intro network deviceId found
  rw [ChallengeLimiter.devices_allow] at found
  split_ifs at found with same
  · rcases name_of_visit found with before | rfl
    · exact slots ask.key deviceId before
    · exact isNamed
  · exact slots network deviceId found

theorem step_slotsNamed (isNamed : named step.deviceId) (slots : SlotsNamed named state.limiter) :
    SlotsNamed named (state.step config step).limiter := by
  rw [limiter_step]
  cases asked : step.ask with
  | none => exact slots
  | some ask =>
    refine allow_slotsNamed ?_ slots
    rw [(deviceId_of_ask asked).1]
    exact isNamed

/-- Everything a run writes under a device id is written under one of the ids
it was given. -/
theorem run_named (config : Config) (before : List Call) (steps : List LoginStep) :
    let start : LoginState := ⟨runCalls config.sha256 Db.empty before, ∅⟩
    let reached := run (LoginState.step config) start steps
    let named := fun deviceId => ∃ step ∈ steps, step.deviceId = deviceId
    JoinedOnly named start.db reached.db ∧ SlotsNamed named reached.limiter := by
  intro start reached named
  have initially : JoinedOnly named start.db start.db :=
    ⟨codesOwned_runCalls config.sha256 before, .of_deviceIds_eq rfl, Enrolls.refl _ _⟩
  have noSlots : SlotsNamed named start.limiter := by
    intro network deviceId found
    simp [start, ChallengeLimiter.devices] at found
  have admissible : Admissible (fun _ step => step ∈ steps) (LoginState.step config) start steps :=
    admissible_of_forall fun _ member _ => member
  refine run_invariant (fun state : LoginState =>
    JoinedOnly named start.db state.db ∧ SlotsNamed named state.limiter) ?_
    ⟨initially, noSlots⟩ admissible
  rintro state step member ⟨joined, slots⟩
  have isNamed : named step.deviceId := ⟨step, member, rfl⟩
  exact ⟨step_joinedOnly isNamed joined, step_slotsNamed isNamed slots⟩

def spells (key : List UInt8) (deviceId : DeviceId) : Bool :=
  decide (Bytes.hexDecode deviceId = some key)

theorem slots_apart
    (agree : ∀ name other, (∃ step ∈ steps, step.deviceId = name) →
      (∃ step ∈ steps, step.deviceId = other) → spells key name = true →
      spells key other = true → name = other)
    (ordered : steps.Pairwise fun first second => first.now ≤ second.now) (network : String) :
    ((state.slotsUsed config steps).filter fun ask =>
        ask.key = network && spells key ask.deviceId).Pairwise
      fun first second => first.now + 3600 ≤ second.now := by
  have asksOrdered : (steps.filterMap LoginStep.ask).Pairwise
      fun first second => first.now ≤ second.now := by
    refine pairwise_filterMap.mpr (ordered.imp ?_)
    intro first second before ask asked later askedLater
    rw [(deviceId_of_ask asked).2, (deviceId_of_ask askedLater).2]
    exact before
  have given : ∀ ask ∈ state.slotsUsed config steps,
      ∃ step ∈ steps, step.deviceId = ask.deviceId := by
    intro ask used
    rw [slotsUsed_eq] at used
    have isAsked := (ChallengeLimiter.slotsUsed_sublist _ _).subset used
    obtain ⟨step, member, asked⟩ := mem_filterMap.mp isAsked
    exact ⟨step, member, (deviceId_of_ask asked).1.symm⟩
  have apart := state.limiter.slotsUsed_apart asksOrdered network
  rw [← slotsUsed_eq config] at apart
  have filtered := apart.filter fun ask => spells key ask.deviceId
  rw [filter_filter] at filtered
  simp only [Bool.and_comm (decide _)]
  refine filtered.imp_of_mem ?_
  intro first second inFirst inSecond spaced
  simp only [mem_filter, Bool.and_eq_true] at inFirst inSecond
  exact spaced (agree _ _ (given first inFirst.1) (given second inSecond.1)
    inFirst.2.1 inSecond.2.1)

/-- A key that is always spelled the same is one device: it gets one row, one
welcome bonus, and in every network one slot an hour. -/
theorem one_key_one_device {config : Config} {before : List Call} {steps : List LoginStep}
    {key : List UInt8} (sameSpelling : ∀ first ∈ steps, ∀ second ∈ steps,
      spells key first.deviceId = true → spells key second.deviceId = true →
      first.deviceId = second.deviceId) :
    let start : LoginState := ⟨runCalls config.sha256 Db.empty before, ∅⟩
    let reached := run (LoginState.step config) start steps
    (∃ created, reached.db.deviceIds = start.db.deviceIds ++ created ∧
      created.countP (spells key) ≤ 1) ∧
    (∃ paid, reached.db.bonusDevices = start.db.bonusDevices ++ paid ∧
      paid.countP (spells key) ≤ 1) ∧
    (∀ network, ((reached.limiter.devices network).rows.map Prod.fst).countP (spells key) ≤ 1) ∧
    (steps.Pairwise (fun first second => first.now ≤ second.now) →
      ∀ network, ((start.slotsUsed config steps).filter fun ask =>
          ask.key = network && spells key ask.deviceId).Pairwise
        fun first second => first.now + 3600 ≤ second.now) := by
  intro start reached
  obtain ⟨joined, slots⟩ := run_named config before steps
  have agree : ∀ name other, (∃ step ∈ steps, step.deviceId = name) →
      (∃ step ∈ steps, step.deviceId = other) → spells key name = true →
      spells key other = true → name = other := by
    rintro _ _ ⟨first, inFirst, rfl⟩ ⟨second, inSecond, rfl⟩
    exact sameSpelling first inFirst second inSecond
  refine ⟨joined.rows.countP_le_one agree, joined.bonuses.countP_le_one agree, ?_, ?_⟩
  · intro network
    have present : ∀ name, name ∈ (reached.limiter.devices network).rows.map
        Prod.fst → ∃ step ∈ steps, step.deviceId = name := by
      intro name member
      refine slots network name (Option.isSome_iff_ne_none.mpr ?_)
      rwa [Ne, Table.find?_eq_none_iff, not_not]
    refine countP_le_one (reached.limiter.devices network).keysNodup ?_
    intro name member other otherMember
    exact agree name other (present name member) (present other otherMember)
  · intro ordered network
    exact slots_apart agree ordered network

/-! ## Two spellings of one key -/

def exampleKey : List UInt8 := List.replicate 32 170

def lowerSpelling : DeviceId := String.ofList (List.replicate 64 'a')

def upperSpelling : DeviceId := String.ofList (List.replicate 64 'A')

def exampleKeyConfig : Config where
  sha256 := id
  verifySignature := fun deviceId _ signature =>
    if spells exampleKey deviceId ∧ signature = "signed" then .ok ⟨⟩
    else .error (.unauthorized "signature verification failed")
  tokens := []
  shareKeyIssuers := []
  solana := .default

def quietMoment (nonce : String) (now : Timestamp) : Moment where
  now := now
  rpc :=
    { fetchSignatureStatus := fun _ => .ok none
      fetchTransaction := fun _ => .ok none }
  challengeDenied := false
  sendEmail := .ok ⟨⟩
  draw := fun _ => nonce

def logIn (deviceId : DeviceId) (nonce : String) (now : Timestamp) : List LoginStep :=
  [.challenge (quietMoment nonce now) ⟨some "203.0.113.7", none⟩ deviceId,
    .exchange (quietMoment nonce now) ⟨deviceId, nonce, "signed", none⟩]

theorem one_key_one_device_twice :
    let reached := run (LoginState.step exampleKeyConfig)
      ⟨runCalls id Db.empty [], ∅⟩
      (logIn lowerSpelling "first" 0 ++ logIn lowerSpelling "second" 1)
    (∃ paid, reached.db.bonusDevices = [] ++ paid ∧ paid.countP (spells exampleKey) ≤ 1) := by
  refine (@one_key_one_device exampleKeyConfig [] _ exampleKey ?_).2.1
  decide +kernel

/-- The same key in capital letters is a second device. -/
theorem capital_spelling_second_device :
    let reached := run (LoginState.step exampleKeyConfig) ⟨Db.empty, ∅⟩
      (logIn lowerSpelling "first" 0 ++ logIn upperSpelling "second" 1)
    spells exampleKey lowerSpelling = true ∧ spells exampleKey upperSpelling = true ∧
      reached.db.deviceIds = [lowerSpelling, upperSpelling] ∧
      reached.db.bonusDevices = [lowerSpelling, upperSpelling] ∧
      (reached.limiter.devices "203.0.113.7").rows.map Prod.fst =
        [lowerSpelling, upperSpelling] := by
  decide +kernel

end Teale.Gateway
