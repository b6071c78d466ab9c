import Teale.Lib.Enrollment
import Teale.Gateway.Ledger.Call
import Teale.Gateway.Ledger.OnchainCases

/-!
# What a call may change

`writes` lists the tables a call may change, and `execute_within` says that the rest is left as it
was. The functions are walked once, also for what holds of nearly all of them: the device ledger
only grows, no usage is written and no wallet gets another address.
-/

namespace Teale.Gateway

open Relational Transactional Enrollment Db

variable {result : Db × ShareKeyMigrationReport}
  {depositId usdcNote creditsNote fresh contributionId : String}
  {provider : Option DeviceId} {online : List DeviceId} {providerId : ProviderId}
  {apiKeyId : Option KeyId}

/-! ## Tables -/

inductive TableName
  | mintPool
  | devices
  | tokens
  | challenges
  | ledger
  | balances
  | shareKeys
  | contributions
  | accountWallets
  | accountDevices
  | accountLedger
  | availabilitySessions
  | providers
  | providerWallets
  | providerLedger
  | deposits
  | withdrawals
  | referralCodes
  | referralClaims
  | apiKeys
  | emailCodes
  | accountSessions
  | pins
  deriving DecidableEq, Repr

def Db.without (db : Db) (written : List TableName) : Db where
  mintPool := if .mintPool ∈ written then Db.empty.mintPool else db.mintPool
  devices := if .devices ∈ written then ∅ else db.devices
  tokens := if .tokens ∈ written then ∅ else db.tokens
  challenges := if .challenges ∈ written then ∅ else db.challenges
  ledger := if .ledger ∈ written then ∅ else db.ledger
  balances := if .balances ∈ written then ∅ else db.balances
  shareKeys := if .shareKeys ∈ written then ∅ else db.shareKeys
  contributions := if .contributions ∈ written then ∅ else db.contributions
  accountWallets := if .accountWallets ∈ written then ∅ else db.accountWallets
  accountDevices := if .accountDevices ∈ written then ∅ else db.accountDevices
  accountLedger := if .accountLedger ∈ written then ∅ else db.accountLedger
  availabilitySessions :=
    if .availabilitySessions ∈ written then ∅ else db.availabilitySessions
  providers := if .providers ∈ written then ∅ else db.providers
  providerWallets :=
    if .providerWallets ∈ written then ∅ else db.providerWallets
  providerLedger := if .providerLedger ∈ written then ∅ else db.providerLedger
  deposits := if .deposits ∈ written then ∅ else db.deposits
  withdrawals := if .withdrawals ∈ written then ∅ else db.withdrawals
  referralCodes := if .referralCodes ∈ written then ∅ else db.referralCodes
  referralClaims := if .referralClaims ∈ written then ∅ else db.referralClaims
  apiKeys := if .apiKeys ∈ written then ∅ else db.apiKeys
  emailCodes := if .emailCodes ∈ written then ∅ else db.emailCodes
  accountSessions :=
    if .accountSessions ∈ written then ∅ else db.accountSessions
  pins := if .pins ∈ written then ∅ else db.pins

def Within (written : List TableName) (db db' : Db) : Prop :=
  db'.without written = db.without written

theorem Within.trans (first : Within written db middle) (second : Within written middle db') :
    Within written db db' :=
  Eq.trans second first

theorem Within.mono {small large : List TableName}
    (within : Within small db db') (contained : small ⊆ large) : Within large db db' := by
  have collapse : ∀ {α : Type} (name : TableName) (emptied kept : α), (if name ∈ large then emptied
        else if name ∈ small then emptied else kept) =
      if name ∈ large then emptied else kept := by
    intro α name emptied kept
    split
    · rfl
    · rw [if_neg fun member => ‹name ∉ large› (contained member)]
  have absorbed : ∀ db : Db, (db.without small).without large = db.without large := by
    intro db
    simp only [without, collapse]
  rw [Within, ← absorbed db', within, absorbed db]

namespace Within

variable {written : List TableName} {db db' : Db} (within : Within written db db')

include within

/-- A column that no written table shows in is as it was. -/
theorem read {α : Type*} (column : Db → α)
    (kept : ∀ db : Db, column (db.without written) = column db) : column db' = column db := by
  rw [← kept db', ← kept db, within]

end Within

/-! ## What each call may write -/

def rewardTables : List TableName :=
  [.mintPool, .devices, .balances, .ledger, .accountWallets, .accountLedger, .referralClaims]

def transferTables : List TableName := [.balances, .ledger, .accountWallets, .accountLedger]

def shareKeyTables : List TableName := [.devices, .balances, .ledger, .shareKeys, .contributions]

def contributionTables : List TableName := [.balances, .ledger, .shareKeys, .contributions]

def ConsumerPrincipal.tables : ConsumerPrincipal → List TableName
  | .device _ => [.balances, .ledger]
  | .share _ _ => [.balances, .ledger, .shareKeys, .contributions]
  | .account _ _ => [.balances, .ledger, .accountWallets, .accountLedger, .apiKeys]

@[simp]
theorem ConsumerPrincipal.notMem_tables {table : TableName} (consumer : ConsumerPrincipal)
    (others : table ∉ [.balances, .ledger, .shareKeys, .contributions, .accountWallets,
      .accountLedger, .apiKeys]) : table ∉ consumer.tables := by
  simp only [List.mem_cons, not_or] at others
  cases consumer <;> simp [tables, others]

def writes : Call → List TableName
  | .upsertDevice .. => [.devices, .balances]
  | .createChallenge .. | .consumeChallenge .. => [.challenges]
  | .issueToken .. => [.tokens]
  | .recordBonus .. | .recordAccountBonus .. | .adminMint ..
  | .applyDeviceJoinRewards .. | .applyAccountJoinRewards .. => rewardTables
  | .referralCodeForDevice .. => [.devices, .balances, .referralCodes]
  | .linkDeviceToAccount .. => [.devices, .balances, .accountWallets, .accountDevices]
  | .transferFromDeviceWallet .. | .transferFromAccountWallet ..
  | .transferFromAccountWalletForAccount .. | .sweepDeviceToAccount .. => transferTables
  | .removeDeviceFromAccount .. => [.accountDevices]
  | .recordAccountOnchainDeposit .. | .recordAccountTreasuryDeposit .. =>
    [.deposits, .accountWallets, .accountLedger]
  | .submitAccountWithdrawal .. | .completeAccountWithdrawalFromTreasury ..
  | .rejectAccountWithdrawal .. => [.withdrawals, .accountWallets, .accountLedger]
  | .mintShareKey .. | .transferToShareKey .. | .revokeShareKey ..
  | .refundExpiredShareKeys .. | .backfillFundedShareKeyContributions ..
  | .migrateUnfundedShareKeys .. => shareKeyTables
  | .settleRequest consumer .. => consumer.tables
  | .settleProviderRequest consumer .. => .providerWallets :: .providerLedger :: consumer.tables
  | .recordProviderPayout .. => [.providerWallets, .providerLedger]
  | .reconcileAvailabilitySessions .. =>
    [.mintPool, .devices, .balances, .ledger, .availabilitySessions]
  | .createApiKey .. | .updateApiKey .. | .deleteApiKey .. | .touchLastUsed .. => [.apiKeys]
  | .createAccountEmailCode .. | .verifyAccountEmailCode ..
  | .verifyAccountEmailLinkToken .. => [.emailCodes]
  | .accountUserIdForLogin .. => [.accountWallets]
  | .createAccountSession .. | .resolveAccountSession ..
  | .revokeAccountSession .. => [.accountSessions]
  | .upsertProvider .. => [.providers]
  | .createPin .. => [.pins]
  | .resetGenesis =>
    [.mintPool, .devices, .tokens, .challenges, .ledger, .balances,
      .shareKeys, .contributions, .accountWallets, .accountDevices,
      .accountLedger, .availabilitySessions, .deposits, .withdrawals,
      .referralCodes, .referralClaims, .apiKeys]

/-! ## What a step leaves -/

/-- The second ledger is the first one with rows written after it. -/
def LedgerAppends (db db' : Db) : Prop := ∃ rows, db'.ledger = db.ledger.appendAll rows

def AccountLedgerRow.usage (row : AccountLedgerRow) (accountUserId : AccountUserId) : ℤ :=
  if row.accountUserId = accountUserId ∧ row.type = .spent ∧
      row.asset = .credits then
    -row.amount
  else
    0

/-- `SELECT COALESCE(SUM(-amount), 0) FROM account_ledger WHERE …` -/
def Db.usageOf (db : Db) (accountUserId : AccountUserId) : ℤ :=
  db.accountLedger.sum fun row => row.usage accountUserId

def KeepsUsage (db db' : Db) : Prop := db'.usageOf = db.usageOf

def AccountWalletRow.address (row : AccountWalletRow) : Option String :=
  row.email.map RustText.toAsciiLowercase

def Db.directory (db : Db) : Table AccountUserId (Option String) :=
  db.accountWallets.map AccountWalletRow.address

def KeepsDirectory (db db' : Db) : Prop := db'.directory = db.directory

def Db.deviceIds (db : Db) : List DeviceId := db.devices.rows.map Prod.fst

def EnrollsDevices (allowed : DeviceId → Prop) (db db' : Db) : Prop :=
  Enrolls allowed db.deviceIds db'.deviceIds

def PoolNonneg (db : Db) : Prop := 0 ≤ db.mintPool.remaining

/-- A step changes no other tables, and only a step that spends writes
usage. -/
structure Alters (written : List TableName) (spends : Bool) (db db' : Db) :
    Prop where
  within : Within written db db'
  ledger : LedgerAppends db db'
  usage : spends = false → KeepsUsage db db'
  directory : KeepsDirectory db db'

/-- It forgets no device either, and takes no more from the pool than there is. -/
structure Moves (written : List TableName) (spends : Bool) (db db' : Db) : Prop extends
    Alters written spends db db' where
  devices : db.deviceIds ⊆ db'.deviceIds
  pool : PoolNonneg db → PoolNonneg db'

section Relations

variable {written : List TableName} {spends : Bool} {db middle db' : Db}

theorem LedgerAppends.one (appended : db'.ledger = db.ledger.append row) : LedgerAppends db db' :=
  ⟨[row], appended⟩

theorem LedgerAppends.none (same : db'.ledger = db.ledger) : LedgerAppends db db' := ⟨[], same⟩

theorem KeepsUsage.of_accountLedger_eq
    (same : db'.accountLedger = db.accountLedger) : KeepsUsage db db' := by
  funext account
  rw [usageOf, usageOf, same]

theorem KeepsDirectory.of_accountWallets_eq
    (same : db'.accountWallets = db.accountWallets) : KeepsDirectory db db' := by
  rw [KeepsDirectory, directory, same, directory]

theorem EnrollsDevices.of_deviceIds_eq {allowed : DeviceId → Prop}
    (same : db'.deviceIds = db.deviceIds) : EnrollsDevices allowed db db' := by
  rw [EnrollsDevices, same]
  exact Enrolls.refl allowed db.deviceIds

theorem EnrollsDevices.of_devices_eq {allowed : DeviceId → Prop}
    (same : db'.devices = db.devices) : EnrollsDevices allowed db db' :=
  of_deviceIds_eq (congrArg (fun devices => devices.rows.map Prod.fst) same)

theorem ensureDevice_enrolls (db : Db) (deviceId : DeviceId) (now : Timestamp) :
    EnrollsDevices (· = deviceId) db (db.ensureDevice deviceId now) := by
  cases found : db.devices.find? deviceId with
  | some row => exact .of_devices_eq (Table.insertOrIgnore_of_present db.devices _ found)
  | none =>
    have fresh : deviceId ∉ db.deviceIds := (Table.find?_eq_none_iff db.devices deviceId).mp found
    have written : (db.ensureDevice deviceId now).deviceIds = db.deviceIds ++ [deviceId] := by
      rw [deviceIds, ensureDevice,
        Table.rows_insertOrIgnore_of_fresh db.devices _ found, List.map_append]
      rfl
    rw [EnrollsDevices, written]
    exact Enrolls.single fresh rfl

theorem deviceIds_touchDevice (db : Db) (deviceId : DeviceId) (now : Timestamp) :
    (db.touchDevice deviceId now).deviceIds = db.deviceIds := by
  simp only [deviceIds, touchDevice, Table.modify, Table.update,
    List.map_map, Function.comp_def]

namespace Moves

theorem step (within : Within written db db') (ledger : LedgerAppends db db')
    (same : (db'.accountLedger, db'.devices, db'.mintPool) =
      (db.accountLedger, db.devices, db.mintPool))
    (directory : KeepsDirectory db db') : Moves written spends db db' := by
  simp only [Prod.mk.injEq] at same
  obtain ⟨accountLedger, devices, mintPool⟩ := same
  refine ⟨⟨within, ledger, fun _ => .of_accountLedger_eq accountLedger, directory⟩, ?_, ?_⟩
  · rw [deviceIds, deviceIds, devices]
    exact List.Subset.refl _
  · rw [PoolNonneg, PoolNonneg, mintPool]
    exact id

theorem quiet (within : Within written db db')
    (same : (db'.ledger, db'.accountWallets, db'.accountLedger, db'.devices, db'.mintPool) =
      (db.ledger, db.accountWallets, db.accountLedger, db.devices, db.mintPool)) :
    Moves written spends db db' :=
  .step within (.none (congrArg (·.1) same)) (congrArg (·.2.2) same)
    (.of_accountWallets_eq (congrArg (·.2.1) same))

theorem wallet (within : Within written db (base.updateWallet account change))
    (ledger : LedgerAppends db base)
    (same : (base.accountWallets, base.accountLedger, base.devices, base.mintPool) =
      (db.accountWallets, db.accountLedger, db.devices, db.mintPool))
    (sameEmail : ∀ row, (change row).email = row.email) :
    Moves written spends db (base.updateWallet account change) := by
  refine .step within ledger (congrArg (·.2) same) ?_
  unfold KeepsDirectory Db.directory Db.updateWallet
  rw [← show base.accountWallets = db.accountWallets from congrArg (·.1) same]
  refine Table.map_modify_of_invisible base.accountWallets account ?_
  intro row
  rw [AccountWalletRow.address, sameEmail, AccountWalletRow.address]

theorem of_within (within : Within written db db')
    (others : ∀ table ∈ [.ledger, .accountWallets, .accountLedger, .devices, .mintPool],
      table ∉ written) : Moves written spends db db' := by
  simp only [List.mem_cons, List.not_mem_nil, or_false, forall_eq_or_imp, forall_eq] at others
  refine .quiet within ?_
  rw [within.read (·.ledger) fun _ => if_neg others.1, within.read (·.accountWallets) fun _ => if_neg others.2.1,
    within.read (·.accountLedger) fun _ => if_neg others.2.2.1, within.read (·.devices) fun _ => if_neg others.2.2.2.1,
    within.read (·.mintPool) fun _ => if_neg others.2.2.2.2]

theorem refl (written : List TableName) (db : Db) : Moves written spends db db := .quiet rfl rfl

theorem trans (first : Moves written spends db middle)
    (second : Moves written spends middle db') : Moves written spends db db' where
  within := first.within.trans second.within
  ledger := by
    obtain ⟨rows, appended⟩ := first.ledger
    obtain ⟨rows', appended'⟩ := second.ledger
    exact ⟨rows ++ rows', by rw [appended', appended, Log.appendAll_append]⟩
  usage saves := (second.usage saves).trans (first.usage saves)
  directory := second.directory.trans first.directory
  devices := List.Subset.trans first.devices second.devices
  pool := second.pool ∘ first.pool

theorem mono {large : List TableName}
    (moves : Moves written spends db db') (contained : written ⊆ large) :
    Moves large spends db db' :=
  { moves with within := moves.within.mono contained }

theorem counted (moves : Moves written false db db') : Moves written spends db db' :=
  { moves with usage := fun _ => moves.usage rfl }

theorem appendAccountLedger (counted : row.type = .spent → spends = true)
    (ran : db.appendAccountLedger row = .ok db') (listed : .accountLedger ∈ written) :
    Moves written spends db db' := by
  obtain ⟨-, rfl⟩ := appendAccountLedger_ok ran
  refine ⟨⟨?_, .none rfl, ?_, rfl⟩, List.Subset.refl _, id⟩
  · simp [Within, without, listed]
  · intro saves
    funext account
    have notSpent : row.type ≠ .spent := by
      intro isSpent
      rw [counted isSpent] at saves
      cases saves
    rw [usageOf, Log.sum_append, AccountLedgerRow.usage,
      if_neg fun counted => notSpent counted.2.1, add_zero, usageOf]

theorem ensureDevice (db : Db) (deviceId : DeviceId) (now : Timestamp)
    (listed : .devices ∈ written) : Moves written spends db (db.ensureDevice deviceId now) := by
  refine ⟨⟨?_, .none rfl, fun _ => rfl, rfl⟩, (ensureDevice_enrolls db deviceId now).subset, id⟩
  simp [Within, without, listed, Db.ensureDevice]

theorem touchDevice (db : Db) (deviceId : DeviceId) (now : Timestamp)
    (listed : .devices ∈ written) : Moves written spends db (db.touchDevice deviceId now) := by
  refine ⟨⟨?_, .none rfl, fun _ => rfl, rfl⟩, ?_, id⟩
  · simp [Within, without, listed, Db.touchDevice]
  · rw [deviceIds_touchDevice]
    exact List.Subset.refl _

theorem drawMintPool (db : Db) (amount : ℤ) (listed : .mintPool ∈ written) :
    Moves written spends db (db.drawMintPool amount) := by
  refine ⟨⟨?_, .none rfl, fun _ => rfl, rfl⟩, List.Subset.refl _, fun _ => le_max_left 0 _⟩
  simp [Within, without, listed, Db.drawMintPool]

end Moves

end Relations

section Walk

variable {db db' : Db}
  {deviceId : DeviceId} {account : AccountUserId} {requestId : String}
  {amount cost : ℤ} {now : Timestamp}

/-! ## Rewards -/

section Rewards

variable {code : Option String} {note claimId : String}
  {joined : Db × JoinRewards}

theorem creditAccountWalletTx_alters {type : LedgerType} (notSpent : type ≠ .spent)
    (ran : creditAccountWalletTx db account amount type actor note now = .ok db') :
    Moves rewardTables false db db' := by
  refine Moves.trans ?_ (.appendAccountLedger (fun isSpent => ?_) ran (by decide))
  · refine (Moves.drawMintPool db amount (by decide)).trans ?_
    exact .wallet rfl (.none rfl) rfl fun _ => rfl
  · exact absurd isSpent notSpent

theorem creditBalance_alters {type : LedgerType} {note : Option String} (db : Db) :
    Moves rewardTables false db
      ((db.drawMintPool amount).creditBalance deviceId type amount note now) :=
  (Moves.drawMintPool db amount (by decide)).trans (.step rfl (.one rfl) rfl rfl)

theorem ensureBalance_alters (db : Db) (deviceId : DeviceId) (now : Timestamp) :
    Moves rewardTables false db ((db.ensureDevice deviceId now).ensureBalance deviceId) :=
  (Moves.ensureDevice db deviceId now (by decide)).trans (.quiet rfl rfl)

theorem rewardReferrerTx_alters (ran : rewardReferrerTx db owner actor note now = .ok db') :
    Moves rewardTables false db db' := by
  cases owner with
  | device deviceId =>
    cases ran
    exact (ensureBalance_alters db _ _).trans (creditBalance_alters _)
  | account accountUserId => exact creditAccountWalletTx_alters (by decide) ran

theorem insertReferralClaim_alters (ran : db.insertReferralClaim claimId row = .ok db') :
    Moves rewardTables false db db' := by
  simp only [insertReferralClaim, ok_iff] at ran
  obtain ⟨_, -, _, -, _, -, _, -, rfl⟩ := ran
  exact .quiet rfl rfl

theorem applyDeviceJoinRewards_alters
    (ran : applyDeviceJoinRewards db deviceId code claimId now = .ok joined) :
    Moves rewardTables false db joined.1 := by
  have welcomed : Moves rewardTables false db (welcomeDevice
      ((db.ensureDevice deviceId now).ensureBalance deviceId) deviceId now).1 := by
    refine (ensureBalance_alters db deviceId now).trans ?_
    unfold welcomeDevice
    split
    · exact .refl _ _
    · exact creditBalance_alters _
  simp only [applyDeviceJoinRewards] at ran
  split at ran
  · cases ran
    exact welcomed
  · simp only [applyReferralForDeviceTx, bind_eq_ok, pure_eq_ok] at ran
    obtain ⟨_, ⟨_, -, _, -, _, -, _, -, rewarded, referrer, claimed, inserted,
      rfl⟩, rfl⟩ := ran
    refine (welcomed.trans (rewardReferrerTx_alters referrer)).trans
      (Moves.trans ?_ (insertReferralClaim_alters inserted))
    exact (ensureBalance_alters ..).trans (creditBalance_alters _)

theorem applyAccountJoinRewards_alters
    (ran : applyAccountJoinRewards db deviceId account code claimId now = .ok joined) :
    Moves rewardTables false db joined.1 := by
  simp only [applyAccountJoinRewards, bind_eq_ok] at ran
  obtain ⟨welcomed, welcome, ran⟩ := ran
  have welcomes : Moves rewardTables false db welcomed.1 := by
    unfold welcomeAccount at welcome
    split at welcome
    · cases welcome
      exact .refl _ db
    · simp only [bind_eq_ok, pure_eq_ok] at welcome
      obtain ⟨_, credited, rfl⟩ := welcome
      exact creditAccountWalletTx_alters (by decide) credited
  split at ran
  · cases ran
    exact welcomes
  · simp only [applyReferralForAccountTx, bind_eq_ok, pure_eq_ok] at ran
    obtain ⟨_, ⟨_, -, _, -, _, -, rewarded, referrer, credited, referred,
      claimed, inserted, rfl⟩, rfl⟩ := ran
    exact ((welcomes.trans (rewardReferrerTx_alters referrer)).trans
      (creditAccountWalletTx_alters (by decide) referred)).trans
        (insertReferralClaim_alters inserted)

theorem referralCodeForDevice_alters {code : String} {result : Db × ReferralCodeSnapshot}
    (ran : referralCodeForDevice db deviceId code now = .ok result) :
    Moves [.devices, .balances, .referralCodes] false db result.1 := by
  rw [referralCodeForDevice, ensureReferralCodeTx] at ran
  refine (Moves.ensureDevice db deviceId now (by decide)).trans ?_
  split at ran
  · cases ran
    exact .quiet rfl rfl
  · simp only [ok_iff] at ran
    obtain ⟨_, -, _, -, rfl⟩ := ran
    exact .quiet rfl rfl

end Rewards

/-! ## Transfers -/

section Transfers

variable {recipient : String} {memo actor : Option String}
  {receipt : Db × TransferReceipt}

theorem creditRecipient_alters {recipient : ResolvedTransferTarget}
    (ran : creditRecipient db recipient amount actor note now = .ok db') :
    Moves transferTables false db db' := by
  cases recipient with
  | device deviceId =>
    cases ran
    exact .step rfl (.one rfl) rfl rfl
  | account accountUserId =>
    refine Moves.trans ?_ (.appendAccountLedger (by simp) ran (by decide))
    exact .wallet rfl (.none rfl) rfl fun _ => rfl

theorem transferFromDeviceWallet_alters
    (ran : transferFromDeviceWallet db deviceId recipient amount memo now = .ok receipt) :
    Moves transferTables false db receipt.1 := by
  simp only [transferFromDeviceWallet, bind_eq_ok, pure_eq_ok] at ran
  obtain ⟨_, -, _, -, _, -, _, -, _, credited, rfl⟩ := ran
  refine Moves.trans ?_ (creditRecipient_alters credited)
  exact .step rfl (.one rfl) rfl rfl

theorem transferFromAccountWalletForAccount_alters
    (ran : transferFromAccountWalletForAccount db account recipient
      amount memo actor now = .ok receipt) : Moves transferTables false db receipt.1 := by
  simp only [transferFromAccountWalletForAccount, bind_eq_ok, pure_eq_ok] at ran
  obtain ⟨_, -, _, -, _, -, _, -, _, -, _, debited, _, credited, rfl⟩ := ran
  refine Moves.trans ?_ (creditRecipient_alters credited)
  refine Moves.trans ?_ (.appendAccountLedger (by simp) debited (by decide))
  exact .wallet rfl (.none rfl) rfl fun _ => rfl

theorem sweepDeviceToAccount_alters {requester target : DeviceId} {result : Db × AccountSweepResult}
    (ran : sweepDeviceToAccount db requester target now = .ok result) :
    Moves transferTables false db result.1 := by
  simp only [sweepDeviceToAccount, bind_eq_ok] at ran
  obtain ⟨account, -, ran⟩ := ran
  split at ran
  · simp only [ok_iff] at ran
    obtain ⟨swept, moved, _, -, rfl⟩ := ran
    refine Moves.trans ?_ (.appendAccountLedger (by simp) moved (by decide))
    refine .wallet ?_ (.one rfl) rfl fun _ => rfl
    unfold updateWallet appendLedger updateBalance
    rfl
  · simp only [ok_iff] at ran
    obtain ⟨_, rfl, _, -, rfl⟩ := ran
    exact .quiet rfl rfl

end Transfers

/-! ## Deposits and withdrawals -/

section Onchain

variable {txSignature : String} {snapshot : Db × AccountOnchainSnapshot}
  {record : Db × AccountWithdrawalRecord}

theorem recordDeposit_alters {deposit : Deposit} {compareSource : Bool}
    (ran : recordDeposit db deposit compareSource depositId usdcNote creditsNote now = .ok db') :
    Moves [.deposits, .accountWallets, .accountLedger] false db db' := by
  unfold recordDeposit at ran
  split at ran
  · simp only [ok_iff] at ran
    obtain ⟨_, -, rfl⟩ := ran
    exact .refl _ db
  · simp only [creditDeposit, bind_eq_ok, insertDeposit] at ran
    obtain ⟨inserted, ⟨_, -, _, -, _, -, insert⟩, noted, writeUsdc, writeCredits⟩ := ran
    refine Moves.trans ?_ (.appendAccountLedger (by simp) writeCredits (by decide))
    refine Moves.trans ?_ (.appendAccountLedger (by simp) writeUsdc (by decide))
    split at insert
    · cases insert
      exact .wallet rfl (.none rfl) rfl fun _ => rfl
    · simp at insert

theorem recordAccountOnchainDeposit_alters {req : AccountOnchainDepositIntent}
    (ran : recordAccountOnchainDeposit db deviceId req depositId now = .ok snapshot) :
    Moves [.deposits, .accountWallets, .accountLedger] false db snapshot.1 := by
  obtain ⟨_, _, _, -, -, -, ⟨-, enabled⟩ | ⟨_, _, _, _, -, -, -, recorded⟩⟩ :=
    recordAccountOnchainDeposit_cases ran
  · rw [enabled]
    exact .wallet rfl (.none rfl) rfl fun _ => rfl
  · refine Moves.trans ?_ (recordDeposit_alters recorded)
    exact .wallet rfl (.none rfl) rfl fun _ => rfl

theorem finishWithdrawal_alters {cents credits : ℤ} {actor : String}
    (ran : finishWithdrawal db requestId account cents credits
      txSignature actor creditsNote usdcNote now = .ok db') :
    Moves [.withdrawals, .accountWallets, .accountLedger] false db db' := by
  simp only [finishWithdrawal, ok_iff, submitWithdrawal] at ran
  obtain ⟨burned, writeBurn, noted, writeOut, _, -, rfl⟩ := ran
  refine Moves.trans ?_ (Moves.trans (.appendAccountLedger (by simp) writeOut (by decide)) ?_)
  · exact .appendAccountLedger (by simp) writeBurn (by decide)
  · exact .quiet rfl rfl

theorem burnWithdrawal_alters
    (ran : burnWithdrawal db intent wallet wasReserved txSignature now = .ok record) :
    Moves [.withdrawals, .accountWallets, .accountLedger] false db record.1 := by
  simp only [burnWithdrawal, bind_eq_ok, pure_eq_ok] at ran
  obtain ⟨_, -, _, -, _, finished, _, -, rfl⟩ := ran
  refine Moves.trans ?_ (finishWithdrawal_alters finished)
  refine .wallet rfl (.none rfl) rfl fun row => ?_
  split <;> rfl

theorem submitAccountWithdrawal_alters {req : AccountWithdrawalRequest}
    (ran : submitAccountWithdrawal db deviceId req fresh now = .ok record) :
    Moves [.withdrawals, .accountWallets, .accountLedger] false db record.1 := by
  simp only [submitAccountWithdrawal, bind_eq_ok] at ran
  obtain ⟨_, -, _, -, _, -, _, -, _, -, _, -, _, -, submitted⟩ := ran
  unfold submitIntent at submitted
  split at submitted
  · simp only [bind_eq_ok] at submitted
    obtain ⟨_, -, submitted⟩ := submitted
    split at submitted
    · simp only [bind_eq_ok, pure_eq_ok] at submitted
      obtain ⟨_, -, rfl⟩ := submitted
      exact .refl _ db
    · split at submitted
      · cases submitted
        exact .refl _ db
      · exact burnWithdrawal_alters submitted
  · simp only [bind_eq_ok] at submitted
    obtain ⟨inserted, insert, submitted⟩ := submitted
    obtain ⟨-, _, rfl⟩ := insertWithdrawal_ok insert
    split at submitted
    · simp only [reserveWithdrawal, bind_eq_ok, pure_eq_ok] at submitted
      obtain ⟨_, -, _, noted, _, -, rfl⟩ := submitted
      refine Moves.trans ?_ (.appendAccountLedger (by simp) noted (by decide))
      exact .wallet rfl (.none rfl) rfl fun _ => rfl
    · refine Moves.trans ?_ (burnWithdrawal_alters submitted)
      exact .quiet rfl rfl

theorem completeAccountWithdrawalFromTreasury_alters
    (ran : completeAccountWithdrawalFromTreasury db requestId txSignature now = .ok record) :
    Moves [.withdrawals, .accountWallets, .accountLedger] false db record.1 := by
  simp only [completeAccountWithdrawalFromTreasury, bind_eq_ok] at ran
  obtain ⟨row, -, ran⟩ := ran
  split at ran
  · simp only [bind_eq_ok, pure_eq_ok] at ran
    obtain ⟨_, -, rfl⟩ := ran
    exact .refl _ db
  · simp only [bind_eq_ok, pure_eq_ok] at ran
    obtain ⟨_, -, _, finished, _, -, rfl⟩ := ran
    refine Moves.trans ?_ (finishWithdrawal_alters finished)
    exact .wallet rfl (.none rfl) rfl fun _ => rfl

theorem rejectAccountWithdrawal_alters {reason : Option String}
    (ran : rejectAccountWithdrawal db requestId reason now = .ok record) :
    Moves [.withdrawals, .accountWallets, .accountLedger] false db record.1 := by
  simp only [rejectAccountWithdrawal, bind_eq_ok, pure_eq_ok] at ran
  obtain ⟨row, -, _, -, _, refunded, _, -, rfl⟩ := ran
  refine Moves.trans (Moves.trans ?_ (.appendAccountLedger (by simp) refunded
    (by decide))) (.quiet rfl rfl)
  exact .wallet rfl (.none rfl) rfl fun _ => rfl

end Onchain

/-! ## Share keys -/

section ShareKeys

variable {keyId : KeyId} {ids : MigrationIds}

theorem insertShareKeyContributionTx_alters {funded remaining : ℤ} {createdAt : Timestamp}
    {refundedAt : Option Timestamp} {reason : Option RefundReason}
    (ran : insertShareKeyContributionTx db contributionId keyId deviceId
      funded remaining createdAt refundedAt reason = .ok db') :
    Moves contributionTables false db db' := by
  simp only [insertShareKeyContributionTx, bind_eq_ok] at ran
  obtain ⟨_, -, _, -, _, -, ran⟩ := ran
  split at ran
  · cases ran
    exact .quiet rfl rfl
  · simp at ran

theorem mintShareKey_alters
    {label : Option String} {expiresInSeconds budget : ℤ} {ids : ShareKeyIds}
    {result : Db × ShareKeyMinted}
    (ran : mintShareKey db deviceId label expiresInSeconds budget ids now = .ok result) :
    Moves contributionTables false db result.1 := by
  simp only [mintShareKey, insertShareKey, bind_eq_ok, pure_eq_ok] at ran
  obtain ⟨_, -, _, -, _, -, _, -, _, -, _, ⟨_, -, _, -, _, -, _, -, _, -, rfl⟩,
    _, inserted, rfl⟩ := ran
  refine Moves.trans ?_ (insertShareKeyContributionTx_alters inserted)
  exact .step rfl (.one rfl) rfl rfl

theorem transferToShareKey_alters {fundingId : String} {result : Db × ShareKeyFundingReceipt}
    (ran : transferToShareKey db deviceId fundingId amount contributionId now = .ok result) :
    Moves shareKeyTables false db result.1 := by
  simp only [transferToShareKey, bind_eq_ok, mapError_eq_ok, pure_eq_ok] at ran
  obtain ⟨_, -, target, -, _, -, _, -, _, -, _, -, funded, inserted, rfl⟩ := ran
  have contributed : Moves shareKeyTables false _ _ :=
    (insertShareKeyContributionTx_alters inserted).mono (by decide)
  refine Moves.trans ?_ (contributed.trans (.step rfl (.one rfl) rfl rfl))
  exact (Moves.ensureDevice db deviceId now (by decide)).trans (.quiet rfl rfl)

theorem refundShareKeyContributionsTx_alters
    (db : Db) (keyId : KeyId) (settledAt : Timestamp) (reason : RefundReason) :
    Moves contributionTables false db
      (refundShareKeyContributionsTx db keyId settledAt reason).1 := by
  refine foldl_preserves (fun state : Db × ℕ × ℤ =>
    Moves contributionTables false db state.1) ?_ (.refl _ db)
  intro state row _ kept
  refine kept.trans ?_
  unfold refundContribution closeContribution
  dsimp only
  split
  · unfold appendLedger updateBalance
    exact .step rfl (.one rfl) rfl rfl
  · exact .quiet rfl rfl

theorem refundExpiredShareKeys_alters (db : Db) (now : Timestamp) :
    Moves contributionTables false db (refundExpiredShareKeys db now).1 := by
  refine foldl_preserves (fun state : Db × ExpiredShareKeyRefundReport =>
    Moves contributionTables false db state.1) ?_ (.refl _ db)
  intro state keyId _ kept
  refine (kept.trans (refundShareKeyContributionsTx_alters state.1 keyId now .expired)).trans ?_
  exact .quiet rfl rfl

theorem revokeShareKey_alters (db : Db) (issuer : DeviceId) (keyId : KeyId) (now : Timestamp) :
    Moves contributionTables false db (revokeShareKey db issuer keyId now).1 := by
  unfold revokeShareKey
  split
  · exact .refl _ db
  · split
    · have marked : Moves contributionTables false db (db.updateShareKey keyId fun row =>
            { row with revokedAt := some now }) :=
        .quiet rfl rfl
      refine (marked.trans (refundShareKeyContributionsTx_alters _ keyId now .revoked)).trans ?_
      exact .quiet rfl rfl
    · exact .quiet rfl rfl

theorem ensureShareKeyFundingIdTx_alters
    (ran : ensureShareKeyFundingIdTx db keyId existing fresh = .ok db') :
    Moves contributionTables false db db' := by
  cases existing with
  | some fundingId =>
    cases ran
    exact .refl _ db
  | none =>
    simp only [ensureShareKeyFundingIdTx, ok_iff] at ran
    obtain ⟨_, -, rfl⟩ := ran
    exact .quiet rfl rfl

theorem backfillFundedShareKeyContributions_alters
    {result : Db × ShareKeyContributionBackfillReport}
    (ran : backfillFundedShareKeyContributions db ids now = .ok result) :
    Moves contributionTables false db result.1 := by
  refine foldlM_preserves (fun state : Db × ShareKeyContributionBackfillReport =>
    Moves contributionTables false db state.1) ?_ (.refl _ db) ran
  intro state entry state' _ kept round
  refine kept.trans ?_
  simp only [backfillKey, bind_eq_ok] at round
  obtain ⟨named, ensured, round⟩ := round
  refine (ensureShareKeyFundingIdTx_alters ensured).trans ?_
  split at round
  · cases round
    exact .refl _ named
  · simp only [ok_iff] at round
    obtain ⟨_, inserted, rfl⟩ := round
    unfold backfillContribution at inserted
    split at inserted
    · exact insertShareKeyContributionTx_alters inserted
    · split at inserted <;> exact insertShareKeyContributionTx_alters inserted

theorem migrateLiveKey_alters (ran : migrateLiveKey db ids now report keyId row = .ok result) :
    Moves contributionTables false db result.1 := by
  have debited : ∀ debit, Moves contributionTables false db
      (debitIssuer (db.ensureBalance row.issuerDeviceId) now keyId row.issuerDeviceId debit) := by
    intro debit
    unfold debitIssuer
    split
    · exact .step rfl (.one rfl) rfl rfl
    · exact .quiet rfl rfl
  simp only [migrateLiveKey] at ran
  split at ran <;> simp only [ok_iff, shrinkShareKey] at ran
  · obtain ⟨_, ⟨_, -, rfl⟩, _, inserted, rfl⟩ := ran
    refine Moves.trans ?_ (insertShareKeyContributionTx_alters inserted)
    exact (debited _).trans (.quiet rfl rfl)
  · obtain ⟨_, rfl, _, inserted, rfl⟩ := ran
    refine Moves.trans ?_ (insertShareKeyContributionTx_alters inserted)
    exact (debited _).trans (.quiet rfl rfl)

theorem migrateUnfundedShareKeys_alters (ran : migrateUnfundedShareKeys db ids now = .ok result) :
    Moves contributionTables false db result.1 := by
  refine foldlM_preserves (fun state : Db × ShareKeyMigrationReport =>
    Moves contributionTables false db state.1) ?_ (.refl _ db) ran
  intro state entry state' _ kept round
  refine kept.trans ?_
  simp only [migrateKey, bind_eq_ok] at round
  obtain ⟨named, ensured, round⟩ := round
  refine (ensureShareKeyFundingIdTx_alters ensured).trans ?_
  split at round
  · simp only [migrateDeadKey, ok_iff] at round
    obtain ⟨_, inserted, rfl⟩ := round
    refine Moves.trans ?_ (insertShareKeyContributionTx_alters inserted)
    exact .quiet rfl rfl
  · split at round
    · simp only [ok_iff] at round
      obtain ⟨_, inserted, rfl⟩ := round
      refine Moves.trans ?_ (insertShareKeyContributionTx_alters inserted)
      exact .quiet rfl rfl
    · exact migrateLiveKey_alters round

end ShareKeys

/-! ## Settlements -/

section Settlements

variable {consumer : ConsumerPrincipal} {model : String}

theorem creditEarning_alters (db : Db) (receipt : Receipt) (deviceId : DeviceId) (type : LedgerType)
    (amount : ℤ) : Moves [.balances, .ledger] false db
      (creditEarning db receipt deviceId type amount) := by
  unfold creditEarning
  split
  · exact .step rfl (.one rfl) rfl rfl
  · exact .refl _ db

theorem distributeEarnings_alters (db : Db) (receipt : Receipt) (provider : Option DeviceId)
    (recipients : List DeviceId) (cost : ℤ) : Moves [.balances, .ledger] false db
      (distributeEarnings db receipt provider recipients cost) := by
  refine Moves.trans ?_ (creditEarning_alters ..)
  refine foldl_preserves (Moves _ _ db) (fun state peer _ kept =>
    kept.trans (creditEarning_alters ..)) ?_
  cases provider with
  | none => exact .refl _ db
  | some device => exact creditEarning_alters _ _ _ _ _

theorem chargeDevice_alters (db : Db) (receipt : Receipt) (payer : DeviceId) (amount : ℤ) :
    Moves [.balances, .ledger] false db (if 0 < amount then
        ((db.ensureBalance payer).appendSpent receipt payer amount).debitDevice payer amount
      else (db.ensureBalance payer).appendSpent receipt payer amount) := by
  split <;> exact .step rfl (.one rfl) rfl rfl

theorem applyProRataShareKeySpendTx_alters (db : Db) (keyId : KeyId) (spend : ℤ) :
    Moves contributionTables false db (applyProRataShareKeySpendTx db keyId spend) := by
  unfold applyProRataShareKeySpendTx
  split
  · exact .refl _ db
  · dsimp only
    split
    · exact .refl _ db
    · refine foldl_preserves (Moves _ _ db) ?_ (.refl _ db)
      exact fun state entry _ kept => kept.trans (.quiet rfl rfl)

theorem chargeShareKey_alters (db : Db) (receipt : Receipt) (issuer : DeviceId) (keyId : KeyId)
    (amount : ℤ) : Moves contributionTables false db (if 0 < amount then
        debitShareKey ((db.ensureBalance issuer).appendSpent receipt issuer
          amount) issuer keyId amount
      else (db.ensureBalance issuer).appendSpent receipt issuer amount) := by
  have noted : Moves contributionTables false db
      ((db.ensureBalance issuer).appendSpent receipt issuer amount) :=
    .step rfl (.one rfl) rfl rfl
  split
  · refine noted.trans ?_
    unfold debitShareKey
    dsimp only
    split
    · refine Moves.trans ?_ ((applyProRataShareKeySpendTx_alters
        (updateShareKey _ keyId _) keyId amount).trans (.quiet rfl rfl))
      exact .quiet rfl rfl
    · exact .quiet rfl rfl
  · exact noted

theorem chargeAccount_alters (account : AccountUserId) (apiKeyId : Option KeyId) (amount : ℤ)
    (now : Timestamp) (counted : row.type = .spent → spends = true)
    (write : db.appendAccountLedger row = .ok noted) :
    Moves [.balances, .ledger, .accountWallets, .accountLedger, .apiKeys] spends db
      (if 0 < amount then
        debitAccount noted account apiKeyId amount now
      else noted) := by
  refine (Moves.appendAccountLedger counted write (by decide)).trans ?_
  have debited : Moves [.balances, .ledger, .accountWallets, .accountLedger, .apiKeys] spends noted
      (noted.updateCredits account (-amount) now) :=
    .wallet rfl (.none rfl) rfl fun _ => rfl
  split
  · unfold debitAccount
    cases apiKeyId with
    | none => exact debited
    | some keyId => exact debited.trans (.quiet rfl rfl)
  · exact .refl _ noted

theorem settleRequest_alters
    (ran : settleRequest db consumer provider online cost requestId model now = .ok db') :
    Moves consumer.tables true db db' := by
  unfold settleRequest at ran
  split at ran
  · cases ran
    exact .refl _ db
  · cases consumer with
    | device payer =>
      cases ran
      exact ((chargeDevice_alters ..).trans (distributeEarnings_alters ..)).counted
    | share issuer keyId =>
      cases ran
      exact ((chargeShareKey_alters ..).trans
        ((distributeEarnings_alters ..).mono (by decide))).counted
    | account accountUserId apiKeyId =>
      simp only [settleRequestAccount, ok_iff] at ran
      obtain ⟨noted, write, rfl⟩ := ran
      exact (chargeAccount_alters _ _ _ _ (fun _ => rfl) write).trans
        ((distributeEarnings_alters ..).mono (by decide)).counted

theorem chargeProviderRequest_alters {result : Db × ℤ × Receipt}
    (ran : chargeProviderRequest db consumer providerId cost requestId
      model now = .ok result) : Moves consumer.tables false db result.1 := by
  cases consumer with
  | device payer =>
    cases ran
    exact chargeDevice_alters _ _ _ _
  | share issuer keyId =>
    cases ran
    exact chargeShareKey_alters _ _ _ _ _
  | account accountUserId apiKeyId =>
    simp only [chargeProviderRequest, ok_iff] at ran
    obtain ⟨noted, write, rfl⟩ := ran
    exact chargeAccount_alters _ _ _ _ (by simp) write

theorem creditProvider_alters (ran : creditProvider db receipt providerId amount model = .ok db') :
    Moves [.providerWallets, .providerLedger] false db db' := by
  unfold creditProvider at ran
  split at ran
  · simp only [ok_iff] at ran
    obtain ⟨_, -, rfl⟩ := ran
    exact .quiet rfl rfl
  · cases ran
    exact .refl _ db

theorem settleProviderRequest_alters
    (ran : settleProviderRequest db consumer providerId cost requestId model now = .ok db') :
    Moves (.providerWallets :: .providerLedger :: consumer.tables) false db db' := by
  unfold settleProviderRequest at ran
  split at ran
  · cases ran
    exact .refl _ db
  · simp only [ok_iff] at ran
    obtain ⟨charged, charge, credited, credit, rfl⟩ := ran
    refine ((chargeProviderRequest_alters charge).mono (by simp)).trans
      (((creditProvider_alters credit).mono (by simp)).trans ?_)
    refine (creditEarning_alters ..).mono ?_
    cases consumer <;> simp [ConsumerPrincipal.tables]

/-- An account is charged: a row is written and the amount is taken. What else
changes are the earnings. -/
def ChargesAccount (accountUserId : AccountUserId) (apiKeyId : Option KeyId)
    (type : LedgerType) (amount : ℤ) (now : Timestamp) (db db' : Db) : Prop :=
  ∃ noted row, db.appendAccountLedger row = .ok noted ∧
    row.accountUserId = accountUserId ∧ row.type = type ∧
    row.asset = .credits ∧ row.amount = -amount ∧
    Within [.balances, .ledger, .providerWallets, .providerLedger]
      (if 0 < amount then debitAccount noted accountUserId apiKeyId amount now
        else noted) db'

theorem settleRequest_account (ran : settleRequest db (.account account apiKeyId) provider
      online cost requestId model now = .ok db') :
    db' = db ∨ 0 < cost ∧ ChargesAccount account apiKeyId .spent
      (clampToCreditLimit db apiKeyId (payableByAccount db account cost)) now db db' := by
  unfold settleRequest at ran
  split at ran
  case isTrue => exact Or.inl (pure_eq_ok.mp ran).symm
  case isFalse positive =>
    simp only [settleRequestAccount, ok_iff] at ran
    obtain ⟨noted, write, rfl⟩ := ran
    refine Or.inr ⟨not_le.mp positive, noted, _, write, rfl, rfl, rfl, rfl, ?_⟩
    exact (distributeEarnings_alters ..).within.mono (by decide)

theorem settleProviderRequest_account (ran : settleProviderRequest db (.account account apiKeyId)
      providerId cost requestId model now = .ok db') :
    db' = db ∨ 0 < cost ∧ ChargesAccount account apiKeyId .inferenceSpent
      (payableByAccount db account cost) now db db' := by
  unfold settleProviderRequest at ran
  split at ran
  case isTrue => exact Or.inl (pure_eq_ok.mp ran).symm
  case isFalse positive =>
    simp only [chargeProviderRequest, ok_iff] at ran
    obtain ⟨_, ⟨noted, write, rfl⟩, credited, credit, rfl⟩ := ran
    refine Or.inr ⟨not_le.mp positive, noted, _, write, rfl, rfl, rfl, rfl, ?_⟩
    exact ((creditProvider_alters credit).within.mono (by decide)).trans
      ((creditEarning_alters ..).within.mono (by decide))

theorem reconcileAvailabilitySessions_alters
    (db : Db) (recipients : List DripRecipient) (now : Timestamp) :
    Moves [.mintPool, .devices, .balances, .ledger, .availabilitySessions]
      false db (reconcileAvailabilitySessions db recipients now).1 := by
  have ended : Moves [.mintPool, .devices, .balances, .ledger, .availabilitySessions] false db
      (finalizeEndedSessions db recipients now).1 := by
    refine foldl_preserves (Moves _ _ db) ?_ (.refl _ db)
    intro state entry _ kept
    refine kept.trans ?_
    unfold finalizeAvailabilitySession
    split
    · exact .step rfl (.one rfl) rfl rfl
    · exact .quiet rfl rfl
  unfold reconcileAvailabilitySessions
  dsimp only
  split
  · exact ended
  · next payable =>
      refine foldl_preserves (Moves _ _ db) ?_ (ended.trans
        ⟨⟨rfl, .none rfl, fun _ => rfl, rfl⟩, List.Subset.refl _, fun (before : 0 ≤ _) => ?_⟩)
      · intro state recipient _ kept
        refine kept.trans (((Moves.ensureDevice _ recipient.deviceId now (by decide)).trans
          (.touchDevice _ recipient.deviceId now (by decide))).trans ?_)
        unfold creditRecipientDrip accrueSession
        dsimp only
        split <;> exact .quiet rfl rfl
      · rw [PoolNonneg]
        dsimp only
        omega

end Settlements

/-! ## Calls -/

section Calls

variable {sha256 : String → String} {call : Call}

theorem upsertDevice_alters (db : Db) (deviceId : DeviceId) (now : Timestamp) :
    Moves [.devices, .balances] false db (upsertDevice db deviceId now).1 := by
  unfold upsertDevice
  split
  · exact (Moves.ensureDevice db deviceId now (by decide)).trans (.quiet rfl rfl)
  · exact .touchDevice db deviceId now (by decide)

theorem resolveAccountSession_cases (sha256 : String → String) (db : Db) (token : String)
    (now : Timestamp) : resolveAccountSession sha256 db token now = (db, none) ∨
      ∃ row expiresAt, ¬ (RustText.stripPrefix "tsess_" token).isNone ∧
        (db.accountSessions.rows.find? fun row =>
          row.2.tokenHash = hashAccountSessionToken sha256 token && row.2.revokedAt.isNone) =
            some row ∧
        now ≤ expiresAt ∧ resolveAccountSession sha256 db token now =
          ({ db with
              accountSessions := db.accountSessions.modify row.1 fun current =>
                { current with expiresAt, lastSeenAt := now } },
            some ⟨row.1, row.2.accountUserId, expiresAt⟩) := by
  unfold resolveAccountSession
  split
  · exact .inl rfl
  · split
    · exact .inl rfl
    · rename_i isSession _ row found
      split
      · exact .inl rfl
      · rename_i unexpired
        refine .inr ⟨row, _, isSession, found, ?_, rfl⟩
        split
        · simp [accountSessionTtlSeconds]
        · exact not_lt.mp unexpired

theorem resolveAccountSession_within
    (sha256 : String → String) (db : Db) (token : String) (now : Timestamp) :
    Within [.accountSessions] db (resolveAccountSession sha256 db token now).1 := by
  rcases resolveAccountSession_cases sha256 db token now with same | ⟨_, _, -, -, -, same⟩ <;>
    rw [same] <;> rfl

theorem verifyAccountEmailCode_within {email code : String} {result : Db × EmailCheck}
    (ran : verifyAccountEmailCode sha256 db email code now = .ok result) :
    Within [.emailCodes] db result.1 := by
  simp only [verifyAccountEmailCode, bind_eq_ok] at ran
  obtain ⟨_, -, _, -, _, -, _, -, _, -, ran⟩ := ran
  split at ran <;> cases ran <;> rfl

def Call.changesUsage : Call → Bool
  | .settleRequest .. | .resetGenesis => true
  | _ => false

def Call.changesDirectory : Call → Bool
  | .linkDeviceToAccount .. | .accountUserIdForLogin .. | .resetGenesis => true
  | _ => false

theorem execute_alters (other : call.changesDirectory = false)
    (ran : execute sha256 db call = .ok db') :
    Moves (writes call) call.changesUsage db db' := by
  cases call with
  | linkDeviceToAccount | accountUserIdForLogin | resetGenesis =>
    exact absurd other (by simp [Call.changesDirectory])
  | settleRequest => exact settleRequest_alters ran
  | settleProviderRequest => exact settleProviderRequest_alters ran
  | upsertDevice =>
    cases ran
    exact upsertDevice_alters _ _ _
  | consumeChallenge =>
    cases ran
    unfold consumeChallenge
    split <;> exact .quiet rfl rfl
  | resolveAccountSession =>
    cases ran
    exact .of_within (resolveAccountSession_within ..) (by simp [writes])
  | revokeShareKey =>
    cases ran
    exact (revokeShareKey_alters ..).mono (by decide : contributionTables ⊆ shareKeyTables)
  | refundExpiredShareKeys =>
    cases ran
    exact (refundExpiredShareKeys_alters _ _).mono (by decide : contributionTables ⊆ shareKeyTables)
  | reconcileAvailabilitySessions =>
    cases ran
    exact reconcileAvailabilitySessions_alters _ _ _
  | createChallenge | touchLastUsed | revokeAccountSession =>
    cases ran
    exact .quiet rfl rfl
  | deleteApiKey | upsertProvider =>
    simp only [execute, deleteApiKey, upsertProvider, ok_iff] at ran
    obtain ⟨_, -, rfl⟩ := ran
    exact .quiet rfl rfl
  | recordProviderPayout | updateApiKey | createPin =>
    simp only [execute, recordProviderPayout, updateApiKey, createPin, ok_iff] at ran
    obtain ⟨_, -, _, -, _, -, rfl⟩ := ran
    exact .quiet rfl rfl
  | issueToken | verifyAccountEmailLinkToken | createAccountSession =>
    obtain ⟨_, called, rfl⟩ := map_eq_ok.mp ran
    simp only [issueToken, verifyAccountEmailLinkToken, createAccountSession, ok_iff] at called
    obtain ⟨_, -, _, -, rfl⟩ := called
    exact .quiet rfl rfl
  | createAccountEmailCode | removeDeviceFromAccount =>
    obtain ⟨_, called, rfl⟩ := map_eq_ok.mp ran
    simp only [createAccountEmailCode, removeDeviceFromAccount, ok_iff] at called
    obtain ⟨_, -, _, -, _, -, rfl⟩ := called
    exact .quiet rfl rfl
  | recordBonus =>
    obtain ⟨_, called, rfl⟩ := map_eq_ok.mp ran
    simp only [recordBonus, ok_iff] at called
    obtain ⟨_, -, rfl⟩ := called
    exact creditBalance_alters db
  | adminMint =>
    obtain ⟨_, called, rfl⟩ := map_eq_ok.mp ran
    simp only [adminMint, ok_iff] at called
    obtain ⟨_, -, _, -, rfl⟩ := called
    exact (ensureBalance_alters db _ _).trans (creditBalance_alters _)
  | recordAccountBonus =>
    obtain ⟨_, called, rfl⟩ := map_eq_ok.mp ran
    simp only [recordAccountBonus, ok_iff] at called
    obtain ⟨_, credited, _, -, rfl⟩ := called
    exact creditAccountWalletTx_alters (by decide) credited
  | createApiKey =>
    obtain ⟨_, called, rfl⟩ := map_eq_ok.mp ran
    simp only [createApiKey, ok_iff] at called
    obtain ⟨_, -, _, -, _, -, _, -, _, -, rfl⟩ := called
    exact .quiet rfl rfl
  | transferFromAccountWallet =>
    obtain ⟨_, called, rfl⟩ := map_eq_ok.mp ran
    simp only [transferFromAccountWallet, bind_eq_ok] at called
    obtain ⟨_, -, transferred⟩ := called
    exact transferFromAccountWalletForAccount_alters transferred
  | recordAccountTreasuryDeposit =>
    obtain ⟨_, called, rfl⟩ := map_eq_ok.mp ran
    obtain ⟨_, _, _, _, -, -, -, recorded⟩ := recordAccountTreasuryDeposit_cases called
    exact recordDeposit_alters recorded
  | rejectAccountWithdrawal => exact of_map_eq_ok ran rejectAccountWithdrawal_alters
  | referralCodeForDevice => exact of_map_eq_ok ran referralCodeForDevice_alters
  | verifyAccountEmailCode =>
    obtain ⟨_, called, rfl⟩ := map_eq_ok.mp ran
    exact .of_within (verifyAccountEmailCode_within called) (by simp [writes])
  | applyDeviceJoinRewards => exact of_map_eq_ok ran applyDeviceJoinRewards_alters
  | applyAccountJoinRewards => exact of_map_eq_ok ran applyAccountJoinRewards_alters
  | transferFromDeviceWallet => exact of_map_eq_ok ran transferFromDeviceWallet_alters
  | transferFromAccountWalletForAccount => exact of_map_eq_ok ran transferFromAccountWalletForAccount_alters
  | sweepDeviceToAccount => exact of_map_eq_ok ran sweepDeviceToAccount_alters
  | recordAccountOnchainDeposit => exact of_map_eq_ok ran recordAccountOnchainDeposit_alters
  | submitAccountWithdrawal => exact of_map_eq_ok ran submitAccountWithdrawal_alters
  | completeAccountWithdrawalFromTreasury => exact of_map_eq_ok ran completeAccountWithdrawalFromTreasury_alters
  | mintShareKey =>
    exact of_map_eq_ok ran fun called => (mintShareKey_alters called).mono (by decide : contributionTables ⊆ shareKeyTables)
  | transferToShareKey => exact of_map_eq_ok ran transferToShareKey_alters
  | backfillFundedShareKeyContributions =>
    exact of_map_eq_ok ran fun called => (backfillFundedShareKeyContributions_alters called).mono
      (by decide : contributionTables ⊆ shareKeyTables)
  | migrateUnfundedShareKeys =>
    exact of_map_eq_ok ran fun called => (migrateUnfundedShareKeys_alters called).mono
      (by decide : contributionTables ⊆ shareKeyTables)

/-- The frame lemma: a successful call changes no table it does not list. -/
theorem execute_within (ran : execute sha256 db call = .ok db') : Within (writes call) db db' := by
  by_cases other : call.changesDirectory = false
  · exact (execute_alters other ran).within
  · cases call with
    | linkDeviceToAccount =>
      simp only [execute, linkDeviceToAccount, ok_iff] at ran
      obtain ⟨normalized, -, rfl⟩ := ran
      unfold upsertAccountDevice upsertWallet
      split <;> split <;> rfl
    | accountUserIdForLogin =>
      obtain ⟨_, called, rfl⟩ := map_eq_ok.mp ran
      simp only [accountUserIdForLogin, bind_eq_ok] at called
      obtain ⟨_, -, called⟩ := called
      split at called <;> cases called <;> rfl
    | resetGenesis =>
      cases execute_resetGenesis ran
      rfl
    | _ => exact absurd rfl other

end Calls

end Walk

end Teale.Gateway
