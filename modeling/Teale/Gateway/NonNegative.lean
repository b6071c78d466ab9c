import Teale.Gateway.Books.Refinement

/-!
# Balances never go below zero

A settlement is capped by what the payer has, a transfer, a sweep, a withdrawal and a payout are
checked first, and the mint pool is cut off at zero.
-/

namespace Teale.Gateway

open Relational Transactional Bookkeeping List Db

variable {amount : ℤ} {db db' : Db} {now : Timestamp} {claimId : String}
  {sha256 : String → String} {call : Call} {result : Db × JoinRewards}
  (recipients : List DripRecipient)

/-! ## Entries -/

def Guarded : Book → Prop
  | .wallet _ | .provider _ | .session _ => True
  | _ => False

def BalancesNonneg (books : Books Book) : Prop := ∀ book, Guarded book → 0 ≤ books book

def Entry.Promised : Entry → Prop
  | .grant _ amount | .drip _ amount => 0 ≤ amount
  | _ => True

/-- Nothing guarded is debited. -/
def Credits (journal : Journal Book) : Prop := ∀ entry ∈ journal, Guarded entry.1 → 0 ≤ entry.2

theorem Wallet.credit_nonneg (owner : Wallet) (nonneg : 0 ≤ amount) :
    Credits (owner.credit amount) := by
  simp [Credits, Wallet.credit, nonneg]

theorem creditAll_nonneg {earnings : List (Earner × ℤ)}
    (nonneg : ∀ earning ∈ earnings, 0 ≤ earning.2) : Credits (creditAll earnings) := by
  intro entry member isGuarded
  obtain ⟨⟨earner, amount⟩, earns, member⟩ := mem_flatMap.mp member
  have earned : 0 ≤ amount := nonneg _ earns
  cases earner with
  | device deviceId => exact Wallet.credit_nonneg (.device deviceId) earned entry member isGuarded
  | provider providerId =>
    obtain rfl := mem_singleton.mp member
    exact earned

theorem covered_pay {books : Books Book} {payer : Wallet} {rest : Journal Book}
    (before : BalancesNonneg books) (afford : amount ≤ books (.wallet payer))
    (credits : Credits rest) : Covered Guarded books (payer.credit (-amount) ++ rest) :=
  covered_payment before (fun _ => afford) (forall_mem_cons.mpr ⟨False.elim, credits⟩)

theorem credits_of_unguarded
    {journal : Journal Book} (unguarded : ∀ entry ∈ journal, ¬ Guarded entry.1) :
    Credits journal :=
  fun entry member isGuarded => (unguarded entry member isGuarded).elim

theorem Entry.covered {books : Books Book} (entry : Entry) (promised : entry.Promised)
    (before : BalancesNonneg books) (allowed : entry.Allowed books) :
    Covered Guarded books entry.journal := by
  cases entry with
  | grant owner amount => exact covered_of_credits before (owner.credit_nonneg promised)
  | drip deviceId amount =>
    have nonneg : 0 ≤ amount := promised
    exact covered_of_credits before (by simp [journal, nonneg])
  | endSession deviceId amount =>
    refine covered_payment before (fun _ => le_of_eq allowed) ?_
    exact credits_of_unguarded (by simp [Guarded])
  | dropSession deviceId amount =>
    exact covered_payment before (fun _ => le_of_eq allowed.1) (by simp)
  | move payer payee amount => exact covered_pay before allowed.2 (payee.credit_nonneg allowed.1.le)
  | fund | hold | burn =>
    exact covered_pay before allowed.2 (credits_of_unguarded (by simp [Guarded]))
  | endow | finalize =>
    exact covered_of_credits before (credits_of_unguarded (by simp [journal, Guarded]))
  | refund keyId deviceId amount =>
    exact covered_of_credits before
      (forall_mem_cons.mpr ⟨False.elim, Wallet.credit_nonneg _ (le_of_lt allowed)⟩)
  | charge payer amount earnings =>
    obtain ⟨nonneg, afford, earningsNonneg⟩ := allowed
    refine covered_pay before ?_ (creditAll_nonneg earningsNonneg)
    have balance := before (.wallet payer) trivial
    rcases nonneg.lt_or_eq with charged | free
    · exact afford charged
    · omega
  | spendPool issuer keyId amount earnings =>
    exact covered_of_credits before (forall_mem_cons.mpr
      ⟨False.elim, forall_mem_cons.mpr ⟨False.elim, creditAll_nonneg allowed.2⟩⟩)
  | deposit account credits cents | release account credits cents =>
    have nonneg : 0 ≤ credits := by
      first | exact allowed.1.le | exact le_of_lt allowed
    exact covered_of_credits before (forall_mem_append.mpr
      ⟨Wallet.credit_nonneg _ nonneg, credits_of_unguarded (by simp [Guarded])⟩)
  | payout providerId amount => exact covered_payment before (fun _ => allowed.2) (by simp)

/-! ## The mint pool -/

theorem execute_pool (before : PoolNonneg db) (ran : execute sha256 db call = .ok db') :
    PoolNonneg db' := by
  by_cases other : call.changesDirectory = false
  · exact (execute_alters other ran).pool before
  · cases call with
    | linkDeviceToAccount | accountUserIdForLogin =>
      rw [PoolNonneg, (execute_within ran).read (·.mintPool) fun _ => rfl]
      exact before
    | resetGenesis =>
      cases execute_resetGenesis ran
      exact (by decide : (0 : ℤ) ≤ initialMintPool)
    | _ => exact absurd rfl other

/-! ## Runs -/

/-- What the callers of the ledger guarantee: bonuses and drips are not
negative. -/
def Call.Promised : Call → Prop
  | .recordBonus _ amount _ | .recordAccountBonus _ amount _ _ _ => 0 ≤ amount
  | .reconcileAvailabilitySessions recipients _ => ∀ recipient ∈ recipients, 0 ≤ recipient.credits
  | _ => True

theorem Call.Promised.grants_nonneg (promised : call.Promised)
    (grants : call.Grants amount) : 0 ≤ amount := by
  cases call with
  | recordBonus | recordAccountBonus =>
    obtain rfl : amount = _ := grants
    exact promised
  | adminMint | applyDeviceJoinRewards | applyAccountJoinRewards => exact le_of_lt grants
  | _ => exact grants.elim

theorem Entry.From.promised {entry : Entry} (origin : entry.From db call)
    (promised : call.Promised) : entry.Promised := by
  cases entry with
  | grant => exact promised.grants_nonneg origin
  | drip =>
    cases call with
    | reconcileAvailabilitySessions =>
      obtain ⟨recipient, listed, rfl⟩ := origin
      exact promised recipient listed
    | _ => exact origin.elim
  | _ => trivial

theorem resetGenesis_balances {result : Db × GenesisResetReport}
    (before : BalancesNonneg (books db)) (ran : resetGenesis db = .ok result) :
    BalancesNonneg (books result.1) := by
  simp only [resetGenesis, ok_iff] at ran
  obtain ⟨_, -, rfl⟩ := ran
  intro book isGuarded
  cases book with
  | wallet owner =>
    cases owner with
    | device => rw [books_device]; exact le_refl 0
    | account => rw [books_account]; exact le_refl 0
  | session => rw [books_session]; exact le_refl 0
  | provider providerId =>
    have kept := before (.provider providerId) trivial
    rw [books_provider] at kept ⊢
    exact kept
  | _ => exact isGuarded.elim

theorem execute_balances (before : BalancesNonneg (books db)) (promised : call.Promised)
    (ran : execute sha256 db call = .ok db') : BalancesNonneg (books db') := by
  by_cases resets : call = .resetGenesis
  · subst resets
    obtain ⟨_, called, rfl⟩ := map_eq_ok.mp ran
    exact resetGenesis_balances before called
  · obtain ⟨entries, -, posted, arises⟩ := execute_accounted ran resets
    refine posted.nonneg ?_ before
    intro entry member current nonneg allowed
    exact entry.covered ((arises entry member).from.promised promised) nonneg allowed

/-- No balance, no contribution and not the mint pool is below zero. -/
structure NonNegative (db : Db) : Prop where
  device : ∀ deviceId row, db.balances.find? deviceId = some row → 0 ≤ row.balance
  account : ∀ accountUserId row,
    db.accountWallets.find? accountUserId = some row → 0 ≤ row.balanceCredits
  provider : ∀ providerId row,
    db.providerWallets.find? providerId = some row → 0 ≤ row.balanceCredits
  contribution : ∀ contributionId row,
    db.contributions.find? contributionId = some row → 0 ≤ row.remainingCredits
  mintPool : 0 ≤ db.mintPool.remaining

theorem nonNegative_of_books (balances : BalancesNonneg (books db)) (pool : PoolNonneg db) :
    NonNegative db where
  device deviceId row found := by
    have nonneg := balances (.wallet (.device deviceId)) trivial
    simpa [books_device, balanceOf, found] using nonneg
  account accountUserId row found := by
    have nonneg := balances (.wallet (.account accountUserId)) trivial
    simpa [books_account, creditsOf, found] using nonneg
  provider providerId row found := by
    have nonneg := balances (.provider providerId) trivial
    simpa [books_provider, providerCreditsOf, found] using nonneg
  contribution _ row _ := row.remainingNonneg
  mintPool := pool

theorem runCalls_balances {start : Db} {calls : List Call}
    (balances : BalancesNonneg (books start)) (pool : PoolNonneg start)
    (promised : ∀ call ∈ calls, call.Promised) :
    BalancesNonneg (books (runCalls sha256 start calls)) ∧
      PoolNonneg (runCalls sha256 start calls) := by
  refine run_commit_invariant (fun db => BalancesNonneg (books db) ∧ PoolNonneg db) ?_ ?_
    (admissible_of_forall fun call member _ => promised call member)
  · intro db call db' promise nonneg ran
    exact ⟨execute_balances nonneg.1 promise ran, execute_pool nonneg.2 ran⟩
  · exact ⟨balances, pool⟩

theorem balancesNonneg_empty : BalancesNonneg (books Db.empty) := by
  intro book _
  exact le_refl 0

/-- From the empty database on, whatever the ledger is called with, nothing
goes below zero. -/
theorem nonNegative_runCalls (sha256 : String → String) (calls : List Call)
    (promised : ∀ call ∈ calls, call.Promised) : NonNegative (runCalls sha256 Db.empty calls) := by
  obtain ⟨balances, pool⟩ := @runCalls_balances sha256 _ _ balancesNonneg_empty
    (by decide : (0 : ℤ) ≤ initialMintPool) promised
  exact nonNegative_of_books balances pool

/-- A key revoked while a request is in flight is charged nothing. -/
theorem nonNegative_late_settlement :
    NonNegative (runCalls id Db.empty [.upsertDevice "alice" 0, .recordBonus "alice" 500 0,
        .mintShareKey "alice" none 60 300 ⟨"k", "f", "t", "c"⟩ 1, .revokeShareKey "alice" "k" 2,
        .settleRequest (.share "alice" "k") (some "bob") ["bob"] 1000 "r" "m" 3]) :=
  nonNegative_runCalls id _ (by simp [Call.Promised])

end Teale.Gateway
