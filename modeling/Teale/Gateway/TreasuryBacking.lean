import Teale.Gateway.Conservation
import Teale.Gateway.TreasuryBinding
import Teale.Gateway.Withdrawals

/-!
# What the treasury pays out

What can be withdrawn is bounded by what was deposited; but `deposit-intent` also credits what was
paid to an address of the user's own, which never reaches the treasury.
-/

namespace Teale.Gateway

open Relational Transactional Bookkeeping List Option

variable {entry : Entry} {txSignature : String} {cents : ℤ} {entries : List Entry}
  {db' : Db} {sha256 : String → String}

/-! ## What the deposits leave over -/

def depositedCents (db : Db) : ℤ := db.deposits.sum fun _ row => row.amountUsdcCents

def withdrawalCents (status : WithdrawalStatus) (db : Db) : ℤ := db.withdrawals.sum fun _ row =>
    if row.status = status then row.amountUsdcCents else 0

/-- Deposits count in credits, and all that is held, asked for or paid out
counts against them. -/
def surplusWeight : Book → ℤ
  | .depositRows _ => creditsPerUsdcCent
  | .pending _ | .submitted _ => -creditsPerUsdcCent
  | .wallet _ | .provider _ | .pool _ => -1
  | .rows _ | .session _ | .usdc _ | .deposited _ | .withdrawn _ => 0

def submittedWeight : Book → ℤ
  | .submitted _ => 1
  | .wallet _ | .rows _ | .session _ | .provider _ | .pool _ | .usdc _
  | .deposited _ | .withdrawn _ | .depositRows _ | .pending _ => 0

theorem weigh_surplusWeight (db : Db) : weigh surplusWeight (books db) =
      (depositedCents db - withdrawalCents .pending db -
        withdrawalCents .submitted db) * creditsPerUsdcCent - totalCredits db := by
  simp only [weigh_books, surplusWeight, mul_neg, mul_one, mul_zero, add_zero,
    Table.sum_add, Table.sum_neg, Table.sum_mul, Table.sum_zero, Log.sum_zero]
  rw [depositedCents, withdrawalCents, withdrawalCents, totalCredits]
  ring

theorem weigh_submittedWeight (db : Db) :
    weigh submittedWeight (books db) = withdrawalCents .submitted db := by
  simp [weigh_books, withdrawalCents, submittedWeight]

/-! ## Entries that are backed -/

def Entry.IsBacked : Entry → Prop
  | .grant _ _ | .drip _ _ | .endow _ _ => False
  | .charge _ amount earnings | .spendPool _ _ amount earnings => earned earnings ≤ amount
  | .deposit _ credits cents | .hold _ credits cents | .burn _ credits cents
  | .finalize _ credits cents | .release _ credits cents => credits = cents * creditsPerUsdcCent
  | .endSession _ _ | .dropSession _ _ | .move _ _ _ | .fund _ _ _
  | .refund _ _ _ | .payout _ _ => True

theorem Entry.IsBacked.surplus (backed : entry.IsBacked) (allowed : entry.Allowed current) :
    0 ≤ entry.journal.total surplusWeight := by
  have earnings := total_creditAll surplusWeight (-1) (fun _ => rfl) (fun _ => rfl)
  cases entry with
  | grant | drip | endow => exact backed.elim
  | charge payer amount shares | spendPool issuer keyId amount shares =>
    have covered : earned shares ≤ amount := backed
    simp [Entry.journal, surplusWeight, earnings]
    omega
  | payout providerId amount =>
    have positive : 0 < amount := allowed.1
    have total : (Entry.payout providerId amount).journal.total surplusWeight = amount := by
      simp [Entry.journal, surplusWeight]
    omega
  | deposit account credits cents | hold account credits cents
  | burn account credits cents | release account credits cents
  | finalize account credits cents =>
    have converted : credits = cents * creditsPerUsdcCent := backed
    simp [Entry.journal, surplusWeight, converted]
  | endSession | dropSession | move | fund | refund => simp [Entry.journal, surplusWeight]

theorem Entry.IsBacked.submitted (backed : entry.IsBacked) (allowed : entry.Allowed current) :
    0 ≤ entry.journal.total submittedWeight := by
  have earnings := total_creditAll submittedWeight 0 (fun _ => rfl) (fun _ => rfl)
  cases entry with
  | burn account credits cents | finalize account credits cents =>
    have converted : credits = cents * 10000 := backed
    have positive : 0 < credits := by
      first | exact allowed | exact allowed.1
    simp [Entry.journal, submittedWeight]
    omega
  | _ => simp [Entry.journal, submittedWeight, earnings]

def ExactRequests (db : Db) : Prop := ∀ requestId row, db.withdrawals.find? requestId = some row →
    row.amountCredits = row.amountUsdcCents * creditsPerUsdcCent

theorem Call.Grants.mints {call : Call} {amount : ℤ} (grants : call.Grants amount) :
    call.mints = true := by
  cases call with
  | recordBonus | recordAccountBonus | adminMint | applyDeviceJoinRewards
  | applyAccountJoinRewards => rfl
  | _ => exact grants.elim

theorem Call.Drips.mints {call : Call} {amount : ℤ} (drips : call.Drips amount) :
    call.mints = true := by
  cases call with
  | reconcileAvailabilitySessions => rfl
  | _ => exact drips.elim

theorem Entry.Arises.isBacked {db : Db} {call : Call} (arises : entry.Arises db call)
    (isExact : ExactRequests db) (unminted : call.mints = false) : entry.IsBacked := by
  have exact : ∀ {credits cents : ℤ}, db.HasRequest credits cents →
      credits = cents * creditsPerUsdcCent := by
    rintro _ _ ⟨requestId, row, found, rfl, rfl⟩
    exact isExact requestId row found
  cases entry with
  | grant => exact nomatch (Call.Grants.mints arises).symm.trans unminted
  | drip => exact nomatch (Call.Drips.mints arises).symm.trans unminted
  | endow => exact nomatch arises.symm.trans unminted
  | charge | spendPool | hold | burn => exact arises.1
  | deposit => exact arises
  | finalize => exact exact arises.1
  | release => exact exact arises
  | _ => trivial

/-! ## Calls -/

theorem WithdrawalStep.exactRequests (step : WithdrawalStep db requestId now entry db')
    (backed : entry.IsBacked) (isExact : ExactRequests db) : ExactRequests db' := by
  intro other later found
  by_cases same : other = requestId
  · subst same
    obtain ⟨row, stored, recorded, -⟩ := step.stored
    cases stored.symm.trans found
    simp only [mem_cons, not_mem_nil, or_false] at recorded
    rcases recorded with rfl | rfl | rfl | rfl <;> exact backed
  · rw [step.find?_other same] at found
    exact isExact other later found

theorem execute_exactRequests (ran : execute sha256 db call = .ok db')
    (keeps : call ≠ .resetGenesis) (isExact : ExactRequests db) : ExactRequests db' := by
  rcases execute_withdrawals ran keeps with
    ⟨-, kept⟩ | ⟨requestId, named, ⟨rfl, -⟩ | ⟨_, entry, step, -, arises⟩⟩
  · rwa [ExactRequests, kept]
  · exact isExact
  · have unminted : call.mints = false := by
      cases call <;> first | rfl | exact nomatch named
    exact step.exactRequests (arises.isBacked isExact unminted) isExact

theorem execute_surplus (ran : execute sha256 db call = .ok db')
    (keeps : call ≠ .resetGenesis) (unminted : call.mints = false) (isExact : ExactRequests db) :
    weigh surplusWeight (books db) ≤ weigh surplusWeight (books db') ∧
      withdrawalCents .submitted db ≤ withdrawalCents .submitted db' := by
  rcases execute_accounted ran keeps with ⟨entries, -, posted, arises⟩
  have backed : ∀ entry ∈ entries, entry.IsBacked :=
    fun entry member => (arises entry member).isBacked isExact unminted
  have paid := posted.weigh_mono submittedWeight fun entry member _ allowed =>
    (backed entry member).submitted allowed
  rw [weigh_submittedWeight, weigh_submittedWeight] at paid
  exact ⟨posted.weigh_mono surplusWeight fun entry member _ allowed =>
    (backed entry member).surplus allowed, paid⟩

/-! ## What arrived in the treasury -/

def Chain.treasuryCents (chain : Chain) (config : SolanaConfig) (txSignature : String) : ℤ :=
  match chain txSignature with
  | none => 0
  | some tx => max 0 (tx.microUsdcTo config.usdcMint config.treasuryAddress / microUsdcPerCent)

/-- The cents that the recorded transactions brought to the treasury. -/
def arrivedCents (config : SolanaConfig) (chain : Chain) (db : Db) : ℤ :=
  db.deposits.sum fun txSignature _ => chain.treasuryCents config txSignature

/-- The arrival claims no payment to an address other than the treasury's. -/
def ClaimsAtTreasury (config : Config) (db : Db) (arrival : Arrival) : Prop :=
  ∀ txSignature claimant address, arrival.claim db = some (txSignature, claimant, address) →
      address = config.solana.treasuryAddress

theorem Pays.treasuryCents (pays : Pays config rpc txSignature config.treasuryAddress cents tx)
    (shows : rpc.Shows chain) : cents = chain.treasuryCents config txSignature := by
  have isTx := shows _ _ pays.fetched
  have positive := pays.positive
  rw [← pays.amount, microUsdcPerCent] at positive
  rw [Chain.treasuryCents, isTx]
  dsimp only
  rw [← pays.amount, microUsdcPerCent]
  omega

theorem Entitled.depositCents (entitled : Entitled config arrival before db call)
    (shows : arrival.moment.rpc.Shows chain) (claims : ClaimsAtTreasury config before arrival)
    (named : call.depositSignature = some txSignature) (amount : call.depositCents = some cents) :
    cents = chain.treasuryCents config.solana txSignature := by
  cases call with
  | recordAccountOnchainDeposit requester req =>
    rcases entitled.grounds txSignature named with
      ⟨claimant, address, paid, tx, claimed, -, isAmount, pays⟩
    have atTreasury := claims txSignature claimant address claimed
    have same : paid = cents := some.inj (isAmount.symm.trans amount)
    rw [atTreasury, same] at pays
    exact pays.treasuryCents shows
  | recordAccountTreasuryDeposit requester signature paid =>
    rcases entitled.grounds with ⟨-, atTreasury, -, tx, -, -, pays⟩
    have isSignature : signature = txSignature := some.inj named
    have same : paid = cents := some.inj amount
    rw [isSignature, atTreasury, same] at pays
    exact pays.treasuryCents shows
  | _ => exact nomatch named

structure Backed (config : SolanaConfig) (chain : Chain) (db : Db) : Prop where
  balances : BalancesNonneg (books db)
  requests : ExactRequests db
  deposits : ∀ txSignature row, db.deposits.find? txSignature = some row →
    row.amountUsdcCents = chain.treasuryCents config txSignature
  surplus : 0 ≤ weigh surplusWeight (books db)

theorem totalCredits_nonneg (balances : BalancesNonneg (books db)) : 0 ≤ totalCredits db := by
  rw [← weigh_creditWeight]
  apply weigh_nonneg
  intro book
  cases book with
  | wallet owner =>
    have nonneg := balances (.wallet owner) trivial
    simpa [creditWeight] using nonneg
  | provider providerId =>
    have nonneg := balances (.provider providerId) trivial
    simpa [creditWeight] using nonneg
  | pool keyId =>
    have nonneg : 0 ≤ books db (.pool keyId) := by
      rw [books_pool]
      exact sumShareKeyContributions_nonneg db keyId
    simpa [creditWeight] using nonneg
  | _ => simp [creditWeight]

theorem withdrawalCents_nonneg (status : WithdrawalStatus) (db : Db) :
    0 ≤ withdrawalCents status db := by
  apply Table.sum_nonneg
  intro requestId row _
  have positive := row.centsPos
  split
  · omega
  · exact le_refl 0

/-- Whatever has been paid out had arrived before. -/
theorem Backed.submitted_le (backed : Backed config chain db) :
    withdrawalCents .submitted db ≤ arrivedCents config chain db := by
  have arrived : depositedCents db = arrivedCents config chain db := by
    apply Table.sum_congr
    intro txSignature row member
    exact backed.deposits txSignature row (Table.mem_rows_iff_find?.mp member)
  have credits := totalCredits_nonneg backed.balances
  have pending := withdrawalCents_nonneg .pending db
  have surplus := backed.surplus
  rw [weigh_surplusWeight, arrived, creditsPerUsdcCent] at surplus
  omega

/-! ## Arrivals -/

def Request.rewards : Request → Bool
  | .exchange _ | .linkAccount _ | .mint _ => true
  | _ => false

/-- Deposits are all the credits the arrival brings, and it deletes nothing. -/
structure OnlyDeposits (config : Config) (db : Db) (arrival : Arrival) :
    Prop where
  unrewarded : arrival.request.rewards = true →
    totalCredits (respond config db arrival) ≤ totalCredits db
  keeps : arrival.request ≠ .resetGenesis

section Steps

variable {config : Config} {chain : Chain} {arrival : Arrival} {before db : Db}
  {call : Call}

section

variable (entitled : Entitled config arrival before db call)

include entitled

theorem Entitled.keeps (keeps : arrival.request ≠ .resetGenesis) : call ≠ .resetGenesis := by
  intro resets
  have grounds := entitled.grounds
  rw [resets] at grounds
  exact keeps grounds.1

theorem Entitled.mints_eq_false
    (unrewarding : arrival.request.rewards = false) : call.mints = false := by
  have grounds := entitled.grounds
  cases call with
  | recordBonus | recordAccountBonus | reconcileAvailabilitySessions
  | backfillFundedShareKeyContributions => exact grounds.elim
  | applyDeviceJoinRewards =>
    rcases grounds with ⟨req, isRequest, -⟩
    rw [isRequest] at unrewarding
    exact nomatch unrewarding
  | applyAccountJoinRewards | adminMint =>
    rcases grounds with ⟨req, isRequest⟩
    rw [isRequest] at unrewarding
    exact nomatch unrewarding
  | _ => rfl

theorem Entitled.names_nothing (rewarding : arrival.request.rewards = true) :
    call.depositSignature = none ∧ call.requestId = none := by
  have grounds := entitled.grounds
  cases call with
  | recordAccountOnchainDeposit requester req =>
    refine ⟨?_, rfl⟩
    cases named : normalizedOptionalString req.txSignature with
    | none => exact named
    | some txSignature =>
      rcases grounds txSignature named with ⟨_, _, _, _, claimed, -⟩
      unfold Arrival.claim at claimed
      split at claimed
      next isRequest =>
        rw [isRequest] at rewarding
        exact nomatch rewarding
      next => exact nomatch claimed
  | recordAccountTreasuryDeposit =>
    rcases grounds with ⟨⟨reported, isRequest⟩, -⟩
    rw [isRequest] at rewarding
    exact nomatch rewarding
  | submitAccountWithdrawal | completeAccountWithdrawalFromTreasury =>
    rcases grounds with ⟨_, isRequest⟩
    rw [isRequest] at rewarding
    exact nomatch rewarding
  | rejectAccountWithdrawal =>
    have isRequest : arrival.request = _ := grounds
    rw [isRequest] at rewarding
    exact nomatch rewarding
  | _ => exact ⟨rfl, rfl⟩

/-- A deposit that is recorded brought its cents to the treasury. -/
theorem Backed.deposits_execute
    (shows : arrival.moment.rpc.Shows chain) (claims : ClaimsAtTreasury config before arrival)
    (keeps : call ≠ .resetGenesis) (ran : execute config.sha256 db call = .ok db')
    (backed : Backed config.solana chain db) :
    ∀ txSignature row, db'.deposits.find? txSignature = some row →
      row.amountUsdcCents = chain.treasuryCents config.solana txSignature := by
  intro txSignature row found
  cases named : call.depositSignature with
  | none =>
    rw [execute_deposits_eq ran keeps named] at found
    exact backed.deposits txSignature row found
  | some recorded =>
    rcases execute_depositOutcome ran named with
      ⟨account, cents, -, amount, outcome⟩
    cases outcome with
    | repeated _ _ _ same =>
      rw [same] at found
      exact backed.deposits txSignature row found
    | credited fresh _ isAmount stored =>
      rw [stored, Table.find?_insertOrIgnore] at found
      by_cases same : txSignature = recorded
      · rw [if_pos same, fresh, getD_none] at found
        rw [← some.inj found, isAmount, same]
        exact entitled.depositCents shows claims named amount
      · rw [if_neg same] at found
        exact backed.deposits txSignature row found

theorem Backed.execute
    (shows : arrival.moment.rpc.Shows chain) (claims : ClaimsAtTreasury config before arrival)
    (keeps : call ≠ .resetGenesis) (unminted : call.mints = false)
    (ran : execute config.sha256 db call = .ok db') (backed : Backed config.solana chain db) :
    Backed config.solana chain db' where
  balances := execute_balances backed.balances entitled.promised ran
  requests := execute_exactRequests ran keeps backed.requests
  deposits := backed.deposits_execute entitled shows claims keeps ran
  surplus := le_trans backed.surplus (execute_surplus ran keeps unminted backed.requests).1

end

theorem respond_rewarding (rewarding : arrival.request.rewards = true)
    (keeps : arrival.request ≠ .resetGenesis) : (respond config db arrival).deposits = db.deposits ∧
      (respond config db arrival).withdrawals = db.withdrawals := by
  apply respond_invariant fun state =>
    state.deposits = db.deposits ∧ state.withdrawals = db.withdrawals
  · intro state call state' entitled same executed
    have names := entitled.names_nothing rewarding
    have kept := entitled.keeps keeps
    refine ⟨(execute_deposits_eq executed kept names.1).trans same.1, ?_⟩
    rcases execute_withdrawals executed kept with ⟨-, unchanged⟩ | ⟨_, named, -⟩
    · exact unchanged.trans same.2
    · exact nomatch names.2.symm.trans named
  · exact ⟨rfl, rfl⟩

theorem Backed.of_tables (backed : Backed config.solana chain db)
    (balances : BalancesNonneg (books db')) (deposits : db'.deposits = db.deposits)
    (withdrawals : db'.withdrawals = db.withdrawals)
    (credits : totalCredits db' ≤ totalCredits db) : Backed config.solana chain db' where
  balances := balances
  requests := by
    intro requestId row found
    rw [withdrawals] at found
    exact backed.requests requestId row found
  deposits := by
    intro txSignature row found
    rw [deposits] at found
    exact backed.deposits txSignature row found
  surplus := by
    have before := backed.surplus
    rw [weigh_surplusWeight, depositedCents, withdrawalCents, withdrawalCents] at before ⊢
    rw [deposits, withdrawals]
    omega

theorem respond_backed (shows : arrival.moment.rpc.Shows chain)
    (only : OnlyDeposits config db arrival) (claims : ClaimsAtTreasury config db arrival)
    (backed : Backed config.solana chain db) :
    Backed config.solana chain (respond config db arrival) ∧ withdrawalCents .submitted db ≤
        withdrawalCents .submitted (respond config db arrival) := by
  cases rewarding : arrival.request.rewards with
  | true =>
    have balances : BalancesNonneg (books (respond config db arrival)) := by
      apply respond_invariant fun state => BalancesNonneg (books state)
      · intro state call state' entitled nonneg executed
        exact execute_balances nonneg entitled.promised executed
      · exact backed.balances
    have tables : (respond config db arrival).deposits = db.deposits ∧
        (respond config db arrival).withdrawals = db.withdrawals :=
      respond_rewarding rewarding only.keeps
    have paid : withdrawalCents .submitted (respond config db arrival) =
        withdrawalCents .submitted db := by
      rw [withdrawalCents, tables.2, withdrawalCents]
    exact ⟨backed.of_tables balances tables.1 tables.2
      (only.unrewarded rewarding), le_of_eq paid.symm⟩
  | false =>
    apply respond_invariant fun state => Backed config.solana chain state ∧
      withdrawalCents .submitted db ≤ withdrawalCents .submitted state
    · intro state call state' entitled kept executed
      have unminted := entitled.mints_eq_false rewarding
      have keeps := entitled.keeps only.keeps
      have paid := execute_surplus executed keeps unminted kept.1.requests
      exact ⟨kept.1.execute entitled shows claims keeps unminted executed, le_trans kept.2 paid.2⟩
    · exact ⟨backed, le_refl _⟩

end Steps

/-! ## Runs -/

/-- What the treasury pays for an arrival: a completed withdrawal is one more
that is submitted. -/
def Arrival.payout (config : Config) (db : Db) (arrival : Arrival) : ℤ :=
  match arrival.request with
  | .completeWithdrawal _ _ =>
    withdrawalCents .submitted (respond config db arrival) - withdrawalCents .submitted db
  | _ => 0

def treasuryPayouts (config : Config) (db : Db) : List Arrival → ℤ
  | [] => 0
  | arrival :: rest =>
    arrival.payout config db + treasuryPayouts config (respond config db arrival) rest

/-- Nobody holds credits yet, and nothing was deposited or withdrawn. -/
structure Unfunded (db : Db) : Prop where
  balances : BalancesNonneg (books db)
  noCredits : totalCredits db = 0
  noDeposits : db.deposits = ∅
  noWithdrawals : db.withdrawals = ∅

theorem Unfunded.backed (unfunded : Unfunded db) : Backed config chain db := by
  refine ⟨unfunded.balances, ?_, ?_, ?_⟩
  · intro requestId row found
    rw [unfunded.noWithdrawals] at found
    exact nomatch found
  · intro txSignature row found
    rw [unfunded.noDeposits] at found
    exact nomatch found
  · rw [weigh_surplusWeight, unfunded.noCredits, depositedCents,
      unfunded.noDeposits, withdrawalCents, withdrawalCents,
      unfunded.noWithdrawals]
    exact le_refl 0

theorem runArrivals_backed {start : Db} {arrivals : List Arrival}
    (backed : Backed config.solana chain start)
    (admissible : Admissible (fun db arrival => arrival.moment.rpc.Shows chain ∧
        OnlyDeposits config db arrival ∧ ClaimsAtTreasury config db arrival)
      (respond config) start arrivals) :
    Backed config.solana chain (runArrivals config start arrivals) ∧
      withdrawalCents .submitted start + treasuryPayouts config start arrivals ≤
        withdrawalCents .submitted (runArrivals config start arrivals) := by
  induction arrivals generalizing start with
  | nil =>
    refine ⟨backed, ?_⟩
    rw [treasuryPayouts, add_zero]
    exact le_refl _
  | cons arrival rest ih =>
    rcases admissible with ⟨⟨shows, only, claims⟩, later⟩
    have step := respond_backed shows only claims backed
    have run := ih step.1 later
    refine ⟨run.1, ?_⟩
    have paid : withdrawalCents .submitted start + arrival.payout config start ≤
          withdrawalCents .submitted (respond config start arrival) := by
      unfold Arrival.payout
      split
      · omega
      · rw [add_zero]
        exact step.2
    have rest := run.2
    rw [treasuryPayouts]
    exact le_trans (by omega) rest

/-- Where deposits are the only credits and all of them are claimed at the
treasury's address, the treasury pays no more than has arrived there. -/
theorem treasuryPayouts_le_arrivedCents
    {config : Config} {chain : Chain} {start : Db} {arrivals : List Arrival}
    (unfunded : Unfunded start)
    (admissible : Admissible (fun db arrival => arrival.moment.rpc.Shows chain ∧
        OnlyDeposits config db arrival ∧ ClaimsAtTreasury config db arrival)
      (respond config) start arrivals) : treasuryPayouts config start arrivals ≤
      arrivedCents config.solana chain (runArrivals config start arrivals) := by
  have run := runArrivals_backed unfunded.backed admissible
  have arrived := run.1.submitted_le
  have nonneg := withdrawalCents_nonneg .submitted start
  omega

/-! ## Two dollars, one of them not in the treasury -/

def usdcTransfer (source sourceBefore sourceAfter destination received : String) :
    RpcTransaction where
  txMeta := some
    { err := none
      preTokenBalances := some [⟨SolanaConfig.default.usdcMint, some source, ⟨sourceBefore, 6⟩⟩]
      postTokenBalances := some
        [⟨SolanaConfig.default.usdcMint, some source, ⟨sourceAfter, 6⟩⟩,
          ⟨SolanaConfig.default.usdcMint, some destination, ⟨received, 6⟩⟩] }
  message := none

/-- A dollar to the treasury, a dollar to the wallet of `alice`, and a payout of
the treasury to that wallet. -/
def walletChain : Chain := fun txSignature =>
  if txSignature = "sig" then some paidDollar
  else if txSignature = "own" then
    some (usdcTransfer "payer" "1000000" "0" "alice-wallet" "1000000")
  else if txSignature = "pay" then
    some (usdcTransfer SolanaConfig.default.treasuryAddress "2000000" "1018000"
      "alice-wallet" "982000")
  else none

def walletMoment : Moment := { dollarMoment with
    rpc :=
      { fetchSignatureStatus := fun _ => .ok (some ⟨none, some "finalized"⟩)
        fetchTransaction := fun txSignature => .ok (walletChain txSignature) } }

def byAlice (request : Request) : Arrival := ⟨⟨some "Bearer token-a", none⟩, request, walletMoment⟩

/-- `alice` names a wallet, and perhaps a payment to it. -/
def namesWallet (txSignature : Option String) : Arrival :=
  byAlice (.depositIntent { solanaAddress := some "alice-wallet", txSignature })

def reportsDollar : Arrival := byAlice (.depositTreasury "sig")

def asksForDollar : Arrival := byAlice (.withdraw ⟨"r", "alice-wallet", 100, none⟩)

def completesRequest : Arrival :=
  ⟨⟨some "Bearer operator", none⟩, .completeWithdrawal "r" "pay", walletMoment⟩

theorem walletMoment_shows : walletMoment.rpc.Shows walletChain := by
  intro txSignature tx fetched
  exact Except.ok.inj fetched

theorem twoAccounts_unfunded : Unfunded twoAccounts where
  balances := by
    have promised : ∀ call ∈ [Call.upsertDevice "a" 0,
        .issueToken "a" "token-a" 0, .linkDeviceToAccount "a" "alice" {} 0,
        .upsertDevice "m" 0, .issueToken "m" "token-m" 0,
        .linkDeviceToAccount "m" "mallory" {} 0], call.Promised := by
      simp [Call.Promised]
    exact (runCalls_balances balancesNonneg_empty
      (by decide : (0 : ℤ) ≤ initialMintPool) promised).1
  noCredits := by decide +kernel
  noDeposits := by
    apply Table.ext
    have empty : twoAccounts.deposits.rows.length = 0 := by decide +kernel
    exact length_eq_zero_iff.mp empty
  noWithdrawals := by
    apply Table.ext
    have empty : twoAccounts.withdrawals.rows.length = 0 := by decide +kernel
    exact length_eq_zero_iff.mp empty

theorem onlyDeposits_of_unrewarding
    (unrewarding : arrival.request.rewards = false) (keeps : arrival.request ≠ .resetGenesis) :
    OnlyDeposits config db arrival := by
  refine ⟨fun rewarding => ?_, keeps⟩
  rw [unrewarding] at rewarding
  exact nomatch rewarding

theorem treasuryPayouts_reportedDollar : treasuryPayouts plainConfig twoAccounts
        [namesWallet none, reportsDollar, asksForDollar, completesRequest] = 100 ∧
      treasuryPayouts plainConfig twoAccounts
          [namesWallet none, reportsDollar, asksForDollar, completesRequest] ≤
        arrivedCents plainConfig.solana walletChain (runArrivals plainConfig twoAccounts
          [namesWallet none, reportsDollar, asksForDollar, completesRequest]) := by
  have paid : treasuryPayouts plainConfig twoAccounts
      [namesWallet none, reportsDollar, asksForDollar, completesRequest] = 100 := by
    decide +kernel
  refine ⟨paid, treasuryPayouts_le_arrivedCents twoAccounts_unfunded
    ⟨⟨walletMoment_shows, onlyDeposits_of_unrewarding rfl nofun, ?_⟩,
      ⟨walletMoment_shows, onlyDeposits_of_unrewarding rfl nofun, nofun⟩,
      ⟨walletMoment_shows, onlyDeposits_of_unrewarding rfl nofun, nofun⟩,
      ⟨walletMoment_shows, onlyDeposits_of_unrewarding rfl nofun, nofun⟩,
      trivial⟩⟩
  intro txSignature claimant address claimed
  exact nomatch claimed

/-- The account of `alice` is credited for a dollar that went to a wallet outside
the treasury, and the treasury pays the dollar once more. -/
theorem treasury_pays_what_did_not_arrive : Unfunded twoAccounts ∧ Admissible
        (fun db arrival => arrival.moment.rpc.Shows walletChain ∧
          OnlyDeposits plainConfig db arrival) (respond plainConfig) twoAccounts
        [namesWallet (some "own"), asksForDollar, completesRequest] ∧
      treasuryPayouts plainConfig twoAccounts
        [namesWallet (some "own"), asksForDollar, completesRequest] = 100 ∧
      arrivedCents plainConfig.solana walletChain (runArrivals plainConfig twoAccounts
        [namesWallet (some "own"), asksForDollar, completesRequest]) = 0 := by
  refine ⟨twoAccounts_unfunded, ⟨⟨walletMoment_shows, onlyDeposits_of_unrewarding rfl nofun⟩,
      ⟨walletMoment_shows, onlyDeposits_of_unrewarding rfl nofun⟩,
      ⟨walletMoment_shows, onlyDeposits_of_unrewarding rfl nofun⟩, trivial⟩, ?_⟩
  decide +kernel

end Teale.Gateway
