import Teale.Gateway.Db
import Teale.Lib.Bookkeeping

/-!
# The books of the gateway

What the ledger is for, without the tables: a transaction is a list of entries of the kinds below.
The tables are read as books, and every ledger function is shown to post entries, in the modules
that follow.
-/

namespace Teale.Gateway

open Bookkeeping List

inductive Wallet
  | device (deviceId : DeviceId)
  | account (accountUserId : AccountUserId)
  deriving DecidableEq, Repr

inductive Book
  /-- The credits a wallet holds. -/
  | wallet (owner : Wallet)
  /-- The sum of the credit rows of a wallet's ledger. -/
  | rows (owner : Wallet)
  /-- The credits of a device's open availability session. -/
  | session (deviceId : DeviceId)
  | provider (providerId : ProviderId)
  /-- What is left of the contributions to a share key. -/
  | pool (keyId : KeyId)
  | usdc (accountUserId : AccountUserId)
  | deposited (accountUserId : AccountUserId)
  | withdrawn (accountUserId : AccountUserId)
  /-- The cents of the deposit rows of an account. -/
  | depositRows (accountUserId : AccountUserId)
  /-- The cents of the pending withdrawal rows of an account. -/
  | pending (accountUserId : AccountUserId)
  /-- The cents of the submitted withdrawal rows of an account. -/
  | submitted (accountUserId : AccountUserId)
  deriving DecidableEq, Repr

inductive Earner
  | device (deviceId : DeviceId)
  | provider (providerId : ProviderId)
  deriving DecidableEq, Repr

def Wallet.credit (owner : Wallet) (amount : ℤ) : Journal Book :=
  [(.wallet owner, amount), (.rows owner, amount)]

def Earner.credit : Earner → ℤ → Journal Book
  | .device deviceId, amount => (Wallet.device deviceId).credit amount
  | .provider providerId, amount => [(.provider providerId, amount)]

def creditAll (earnings : List (Earner × ℤ)) : Journal Book :=
  earnings.flatMap fun earning => earning.1.credit earning.2

def earned (earnings : List (Earner × ℤ)) : ℤ := (earnings.map Prod.snd).sum

inductive Entry
  /-- A bonus, an operator mint or a referral reward. -/
  | grant (owner : Wallet) (amount : ℤ)
  /-- An availability drip, recorded on the open session. -/
  | drip (deviceId : DeviceId) (amount : ℤ)
  /-- The end of a session: its credits become one ledger row. -/
  | endSession (deviceId : DeviceId) (amount : ℤ)
  /-- The end of a session below zero, which leaves no row. -/
  | dropSession (deviceId : DeviceId) (amount : ℤ)
  /-- A transfer or a sweep. -/
  | move (payer payee : Wallet) (amount : ℤ)
  /-- Credits put into the pool of a share key. -/
  | fund (deviceId : DeviceId) (keyId : KeyId) (amount : ℤ)
  /-- The pool of a key funded before contributions were kept. -/
  | endow (keyId : KeyId) (amount : ℤ)
  /-- Credits of a pool given back. -/
  | refund (keyId : KeyId) (deviceId : DeviceId) (amount : ℤ)
  /-- A request paid from a wallet. -/
  | charge (payer : Wallet) (amount : ℤ) (earnings : List (Earner × ℤ))
  /-- A request paid from the pool of a share key, with the row written to the
  ledger of the key's issuer. -/
  | spendPool (issuer : DeviceId) (keyId : KeyId) (amount : ℤ) (earnings : List (Earner × ℤ))
  | deposit (accountUserId : AccountUserId) (credits cents : ℤ)
  /-- A withdrawal request whose funds are reserved. -/
  | hold (accountUserId : AccountUserId) (credits cents : ℤ)
  /-- A withdrawal request that is paid at once. -/
  | burn (accountUserId : AccountUserId) (credits cents : ℤ)
  /-- The payout of a reserved request, which writes a second row. -/
  | finalize (accountUserId : AccountUserId) (credits cents : ℤ)
  /-- A reserved request given back. -/
  | release (accountUserId : AccountUserId) (credits cents : ℤ)
  | payout (providerId : ProviderId) (amount : ℤ)

namespace Entry

def journal : Entry → Journal Book
  | grant owner amount => owner.credit amount
  | drip deviceId amount => [(.wallet (.device deviceId), amount), (.session deviceId, amount)]
  | endSession deviceId amount => [(.session deviceId, -amount), (.rows (.device deviceId), amount)]
  | dropSession deviceId amount => [(.session deviceId, -amount)]
  | move payer payee amount => payer.credit (-amount) ++ payee.credit amount
  | fund deviceId keyId amount =>
    (Wallet.device deviceId).credit (-amount) ++ [(.pool keyId, amount)]
  | endow keyId amount => [(.pool keyId, amount)]
  | refund keyId deviceId amount => (.pool keyId, -amount) :: (Wallet.device deviceId).credit amount
  | charge payer amount earnings => payer.credit (-amount) ++ creditAll earnings
  | spendPool issuer keyId amount earnings =>
    (.rows (.device issuer), -amount) :: (.pool keyId, -amount) :: creditAll earnings
  | deposit accountUserId credits cents =>
    (Wallet.account accountUserId).credit credits ++
      [(.usdc accountUserId, cents), (.deposited accountUserId, cents),
        (.depositRows accountUserId, cents)]
  | hold accountUserId credits cents =>
    (Wallet.account accountUserId).credit (-credits) ++
      [(.usdc accountUserId, -cents), (.pending accountUserId, cents)]
  | burn accountUserId credits cents =>
    (Wallet.account accountUserId).credit (-credits) ++
      [(.usdc accountUserId, -cents), (.withdrawn accountUserId, cents),
        (.submitted accountUserId, cents)]
  | finalize accountUserId credits cents =>
    [(.rows (.account accountUserId), -credits),
      (.withdrawn accountUserId, cents), (.pending accountUserId, -cents),
      (.submitted accountUserId, cents)]
  | release accountUserId credits cents =>
    (Wallet.account accountUserId).credit credits ++
      [(.usdc accountUserId, cents), (.pending accountUserId, -cents)]
  | payout providerId amount => [(.provider providerId, -amount)]

/-- The books an entry may be posted to: debits are covered, and what is
shared out is not negative. -/
def Allowed (books : Books Book) : Entry → Prop
  | grant _ _ => True
  | drip _ _ => True
  | endSession deviceId amount => amount = books (.session deviceId)
  | dropSession deviceId amount => amount = books (.session deviceId) ∧ amount < 0
  | move payer _ amount => 0 < amount ∧ amount ≤ books (.wallet payer)
  | fund deviceId _ amount => 0 < amount ∧ amount ≤ books (.wallet (.device deviceId))
  | endow _ amount => 0 ≤ amount
  | refund _ _ amount => 0 < amount
  | charge payer amount earnings =>
    0 ≤ amount ∧ (0 < amount → amount ≤ books (.wallet payer)) ∧ ∀ earning ∈ earnings, 0 ≤ earning.2
  | spendPool _ _ amount earnings => 0 < amount ∧ ∀ earning ∈ earnings, 0 ≤ earning.2
  | deposit _ credits cents => 0 < credits ∧ 0 < cents
  | hold accountUserId credits _ => 0 < credits ∧ credits ≤ books (.wallet (.account accountUserId))
  | burn accountUserId credits _ => 0 < credits ∧ credits ≤ books (.wallet (.account accountUserId))
  | finalize _ credits _ => 0 < credits
  | release _ credits _ => 0 < credits
  | payout providerId amount => 0 < amount ∧ amount ≤ books (.provider providerId)

def flow : Entry → ℤ
  | grant _ amount => amount
  | drip _ amount => amount
  | endow _ amount => amount
  | charge _ amount earnings => earned earnings - amount
  | spendPool _ _ amount earnings => earned earnings - amount
  | deposit _ credits _ => credits
  | hold _ credits _ => -credits
  | burn _ credits _ => -credits
  | release _ credits _ => credits
  | payout _ amount => -amount
  | endSession _ _ | dropSession _ _ | move _ _ _ | fund _ _ _
  | refund _ _ _ | finalize _ _ _ => 0

end Entry

def rules : Rules Book Entry where
  journal := Entry.journal
  Allowed := Entry.Allowed

/-! ## Totals -/

@[simp] theorem Wallet.total_credit (weight : Book → ℤ) (owner : Wallet) (amount : ℤ) :
    (owner.credit amount).total weight =
      amount * (weight (.wallet owner) + weight (.rows owner)) := by
  simp [Wallet.credit, mul_add]

theorem total_creditAll (weight : Book → ℤ) (unit : ℤ)
    (devices : ∀ deviceId, weight (.wallet (.device deviceId)) +
      weight (.rows (.device deviceId)) = unit)
    (providers : ∀ providerId, weight (.provider providerId) = unit)
    (earnings : List (Earner × ℤ)) :
    (creditAll earnings).total weight = earned earnings * unit := by
  induction earnings with
  | nil => simp [creditAll, earned]
  | cons earning rest ih =>
    obtain ⟨earner, amount⟩ := earning
    have head : (earner.credit amount).total weight = amount * unit := by
      cases earner with
      | device deviceId =>
        rw [Earner.credit, Wallet.total_credit, devices]
      | provider providerId => simp [Earner.credit, providers]
    simp only [creditAll, earned, flatMap_cons, Journal.total_append,
      map_cons, sum_cons] at ih ⊢
    rw [head, ih, add_mul]

def creditWeight : Book → ℤ
  | .wallet _ | .provider _ | .pool _ => 1
  | .rows _ | .session _ | .usdc _ | .deposited _ | .withdrawn _
  | .depositRows _ | .pending _ | .submitted _ => 0

theorem Entry.total_creditWeight (entry : Entry) :
    entry.journal.total creditWeight = entry.flow := by
  have earnings := total_creditAll creditWeight 1 (fun _ => rfl) (fun _ => rfl)
  cases entry <;> simp [Entry.journal, Entry.flow, creditWeight, earnings] <;> ring

end Teale.Gateway
