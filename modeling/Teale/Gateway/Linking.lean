import Teale.Gateway.Frame
import Teale.Gateway.Handlers.Account

/-!
# Linking a device to a new account

`link_account` writes the link, and with it the wallet of a new account, before
it pays the join rewards in a transaction of their own.
-/

namespace Teale.Gateway

open Relational Transactional Service Relational.Table

variable {moment : Moment} {principal : PrincipalKind} {req : LinkAccountReq}
  {db linked : Db} {deviceId : DeviceId} {account : AccountUserId}

/-- The request links the device to an account that has no wallet yet. -/
structure OpensAccount (moment : Moment) (principal : PrincipalKind) (req : LinkAccountReq)
    (db : Db) (deviceId : DeviceId) (account : AccountUserId) (linked : Db) : Prop where
  isDevice : requireDevice principal = .ok deviceId
  named : RustText.trim req.accountUserId ≠ ""
  normalized : normalizeAccountUserId req.accountUserId = .ok account
  isNew : accountWalletExists db account = .ok false
  links : linkDeviceToAccount db deviceId account req.metadata moment.now = .ok linked

/-- An error leaves the wallets, the links and the ledgers as they were, and the
request repeated with another code does what it would have done at first. -/
def LinkAccountReq.Whole (moment : Moment) (principal : PrincipalKind) (req : LinkAccountReq)
    (db : Db) : Prop :=
  match (linkAccount moment principal req).serve db with
  | (.error _, after) => after.accountWallets = db.accountWallets ∧
      after.accountDevices = db.accountDevices ∧ after.ledger = db.ledger ∧
      after.accountLedger = db.accountLedger ∧
      ∀ later code,
        (linkAccount later principal { req with referralCode := code }).serve after =
          (linkAccount later principal { req with referralCode := code }).serve db
  | (.ok _, _) => True

theorem linkDeviceToAccount_linked
    (ran : linkDeviceToAccount db deviceId account metadata now = .ok linked) :
    ∃ normalized, normalizeAccountUserId account = .ok normalized ∧
      linked.accountUserIdForDevice deviceId = some normalized ∧
      (linked.accountWallets.find? normalized).isSome := by
  simp only [linkDeviceToAccount, ok_iff] at ran
  obtain ⟨normalized, isNormalized, rfl⟩ := ran
  refine ⟨normalized, isNormalized, ?_, ?_⟩
  · unfold Db.upsertAccountDevice
    split <;> simp_all [Db.accountUserIdForDevice]
  · unfold Db.upsertAccountDevice Db.upsertWallet
    split <;> split <;> simp_all [Db.touchDevice, Db.updateWallet]

theorem accountSummaryForDevice_of_linked
    (ran : linkDeviceToAccount db deviceId account metadata now = .ok linked)
    (sameDevices : db'.accountDevices = linked.accountDevices) (kept : KeepsDirectory linked db') :
    ∃ summary, accountSummaryForDevice db' deviceId = .ok summary := by
  obtain ⟨normalized, -, isLinked, hasWallet⟩ := linkDeviceToAccount_linked ran
  have same := congrArg (fun table => (table.find? normalized).isSome) kept
  simp only [Db.directory, find?_map, Option.isSome_map, hasWallet] at same
  obtain ⟨wallet, found⟩ := Option.isSome_iff_exists.mp same
  rw [Db.accountUserIdForDevice, ← sameDevices] at isLinked
  exact ⟨_, by simp [accountSummaryForDevice, Db.accountUserIdForDevice, isLinked, accountSummary,
    found, getOr, bind, Except.bind, pure, Except.pure]; rfl⟩

theorem serve_rewardNewAccount (moment : Moment) (isNew : Bool) (deviceId : DeviceId)
    (account : AccountUserId) (code : Option String) (db : Db) :
    (rewardNewAccount moment isNew deviceId account code).serve db =
      if isNew then
        match applyAccountJoinRewards db deviceId account code (moment.draw 0) moment.now with
        | .ok rewarded => (.ok ⟨⟩, rewarded.1)
        | .error failure => (.error (mapReferralError failure), db)
      else
        (.ok ⟨⟩, db) := by
  unfold rewardNewAccount
  split
  · rw [serve_bind, serve_transact]
    cases applyAccountJoinRewards db deviceId account code (moment.draw 0) moment.now <;> rfl
  · rfl

def linkMoment : Moment where
  now := 0
  rpc := ⟨fun _ => .ok none, fun _ => .ok none⟩
  challengeDenied := false
  sendEmail := .ok ⟨⟩
  draw := fun _ => "claim"

end Teale.Gateway
