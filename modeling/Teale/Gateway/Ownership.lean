import Teale.Gateway.AccountUsage
import Teale.Gateway.ApiKeys
import Teale.Gateway.TreasuryBinding

/-!
# Who can act for an account

A party that holds no device, API key or session of an account gets none by its own requests, with
one exception: `link-account` attaches the device of the caller to whatever account the body
names.
-/

namespace Teale.Gateway

open Relational Transactional Bookkeeping List

variable {now : Timestamp} {sha256 : String → String} {token : String} {account : AccountUserId}

/-! ## Entries that leave an account's credits alone -/

def Entry.Spares (accountUserId : AccountUserId) : Entry → Prop
  | .move payer _ _ | .charge payer _ _ => payer ≠ .account accountUserId
  | .hold payer _ _ | .burn payer _ _ => payer ≠ accountUserId
  | .grant _ amount => 0 ≤ amount
  | .drip _ _ | .endSession _ _ | .dropSession _ _ | .fund _ _ _ | .endow _ _
  | .refund _ _ _ | .spendPool _ _ _ _ | .deposit _ _ _ | .finalize _ _ _
  | .release _ _ _ | .payout _ _ => True

def accountWeight (accountUserId : AccountUserId) (book : Book) : ℤ :=
  if book = .wallet (.account accountUserId) then 1 else 0

theorem accountWeight_nonneg (account : AccountUserId) (book : Book) :
    0 ≤ accountWeight account book := by
  unfold accountWeight
  split
  · exact zero_le_one
  · exact le_refl 0

theorem accountWeight_of_ne (different : book ≠ .wallet (.account account)) :
    accountWeight account book = 0 :=
  if_neg different

theorem total_credit_accountWeight (account : AccountUserId) (owner : Wallet) (amount : ℤ) :
    (owner.credit amount).total (accountWeight account) =
      amount * accountWeight account (.wallet owner) := by
  have rows : accountWeight account (.rows owner) = 0 := accountWeight_of_ne nofun
  rw [Wallet.total_credit, rows, add_zero]

theorem Entry.Spares.total_nonneg {entry : Entry} {current : Books Book}
    (spares : entry.Spares account) (allowed : entry.Allowed current) :
    0 ≤ entry.journal.total (accountWeight account) := by
  have earnings := total_creditAll (accountWeight account) 0 (fun _ => rfl) (fun _ => rfl)
  have credited : ∀ (owner : Wallet) {amount : ℤ}, 0 ≤ amount →
      0 ≤ (owner.credit amount).total (accountWeight account) := by
    intro owner amount nonneg
    rw [total_credit_accountWeight]
    exact mul_nonneg nonneg (accountWeight_nonneg account _)
  have debited : ∀ {owner : Wallet} (amount : ℤ), owner ≠ .account account →
        (owner.credit amount).total (accountWeight account) = 0 := by
    intro owner amount different
    have weight : accountWeight account (.wallet owner) = 0 :=
      accountWeight_of_ne fun same => different (Book.wallet.inj same)
    rw [total_credit_accountWeight, weight, mul_zero]
  cases entry with
  | grant owner amount => exact credited owner spares
  | move payer payee amount =>
    have positive : 0 < amount := allowed.1
    rw [Entry.journal, Journal.total_append, debited _ spares, zero_add]
    exact credited payee (le_of_lt positive)
  | charge payer amount shares =>
    rw [Entry.journal, Journal.total_append, debited _ spares, earnings]
    simp
  | hold payer credits cents | burn payer credits cents =>
    have other : Wallet.account payer ≠ .account account :=
      fun same => spares (Wallet.account.inj same)
    rw [Entry.journal, Journal.total_append, debited _ other]
    simp [accountWeight]
  | deposit payee credits cents | release payee credits cents =>
    have nonneg : 0 ≤ credits := by
      first | exact allowed.1.le | exact le_of_lt allowed
    rw [Entry.journal, Journal.total_append]
    have first := credited (.account payee) nonneg
    simpa [accountWeight] using first
  | _ => simp [Entry.journal, accountWeight, earnings]

theorem creditsOf_le_of_posts {entries : List Entry}
    (posted : Posts db entries db') (spares : ∀ entry ∈ entries, entry.Spares account) :
    db.creditsOf account ≤ db'.creditsOf account := by
  have reading : ∀ db : Db, weigh (accountWeight account) (books db) = db.creditsOf account := by
    intro db
    rw [← books_account]
    exact weigh_book _ _
  rw [← reading db, ← reading db']
  exact posted.weigh_mono _ fun entry member _ allowed => (spares entry member).total_nonneg allowed

theorem Entry.Arises.spares {entry : Entry} (arises : entry.Arises db call)
    (promised : call.Promised) (apart : call.actsFor db ≠ some account) : entry.Spares account := by
  cases entry with
  | grant => exact promised.grants_nonneg arises
  | move => exact fun same => apart (arises account same)
  | charge => exact fun same => apart (arises.2 account same)
  | hold | burn =>
    rintro rfl
    exact apart arises.2
  | _ => trivial

theorem execute_creditsOf_le (ran : execute sha256 db call = .ok db')
    (keeps : call ≠ .resetGenesis) (promised : call.Promised)
    (apart : call.actsFor db ≠ some account) :
    db.creditsOf account ≤ db'.creditsOf account := by
  obtain ⟨entries, -, posted, arises⟩ := execute_accounted ran keeps
  exact creditsOf_le_of_posts posted fun entry member =>
    (arises entry member).spares promised apart

/-! ## Credentials that stay with the account -/

def ApiKeyRow.holder (row : ApiKeyRow) : AccountUserId × String := (row.accountUserId, row.keyHash)

def AccountSessionRow.holder (row : AccountSessionRow) : AccountUserId × String :=
  (row.accountUserId, row.tokenHash)

/-- The account has lost no credits, and its keys, sessions, devices and the
tokens of its devices are some of those it had. -/
structure Sealed (accountUserId : AccountUserId) (origin db : Db) : Prop where
  credits : origin.creditsOf accountUserId ≤ db.creditsOf accountUserId
  keys : Table.Inherits (fun holder => holder.1 = accountUserId)
    ApiKeyRow.holder origin.apiKeys db.apiKeys
  sessions : Table.Inherits (fun holder => holder.1 = accountUserId)
    AccountSessionRow.holder origin.accountSessions db.accountSessions
  devices : Table.Inherits (fun holder => holder = accountUserId)
    AccountDeviceRow.accountUserId origin.accountDevices db.accountDevices
  tokens : Table.Inherits
    (fun deviceId => origin.accountUserIdForDevice deviceId = some accountUserId)
    TokenRow.deviceId origin.tokens db.tokens

theorem Sealed.refl (account : AccountUserId) (db : Db) : Sealed account db db :=
  ⟨le_refl _, .refl _ _ _, .refl _ _ _, .refl _ _ _, .refl _ _ _⟩

section Sealed

variable {accountUserId : AccountUserId} {origin db db' : Db}

theorem Sealed.linked (isSealed : Sealed accountUserId origin db)
    (linked : db.accountUserIdForDevice deviceId = some accountUserId) :
    origin.accountUserIdForDevice deviceId = some accountUserId := by
  rcases Option.map_eq_some_iff.mp linked with ⟨row, found, isAccount⟩
  rcases isSealed.devices deviceId row found isAccount with ⟨old, foundOld, same⟩
  rw [Db.accountUserIdForDevice, foundOld, Option.map_some, same, isAccount]

theorem Sealed.credential (isSealed : Sealed accountUserId origin db)
    (credential : Credential sha256 db token accountUserId) :
    Credential sha256 origin token accountUserId := by
  cases credential with
  | @device row _ issued linked =>
    have linkedBefore := isSealed.linked linked
    rcases isSealed.tokens token row issued linkedBefore with
      ⟨old, issuedBefore, same⟩
    rw [← same] at linkedBefore
    exact .device issuedBefore linkedBefore
  | @apiKey keyId row stored hashed =>
    rcases isSealed.keys keyId row stored rfl with ⟨old, storedBefore, same⟩
    have sameAccount : old.accountUserId = row.accountUserId := congrArg Prod.fst same
    have sameHash : old.keyHash = row.keyHash := congrArg Prod.snd same
    rw [← sameAccount]
    exact .apiKey storedBefore (sameHash.trans hashed)
  | @session sessionId row stored hashed =>
    rcases isSealed.sessions sessionId row stored rfl with
      ⟨old, storedBefore, same⟩
    have sameAccount : old.accountUserId = row.accountUserId := congrArg Prod.fst same
    have sameHash : old.tokenHash = row.tokenHash := congrArg Prod.snd same
    rw [← sameAccount]
    exact .session storedBefore (sameHash.trans hashed)

end Sealed

/-! ## Strangers -/

/-- Whoever sends the arrival holds nothing of the account: no token that was a
credential of it, no key of a device that was linked to it, and no code or link
sent to its address. A reset needs a token of the operator. -/
structure Stranger (config : Config) (accountUserId : AccountUserId)
    (origin db : Db) (arrival : Arrival) : Prop where
  token : ¬ Credential config.sha256 origin arrival.token accountUserId
  device : ∀ req, arrival.request = .exchange req →
    config.verifySignature req.deviceId req.nonce req.signature = .ok ⟨⟩ →
      origin.accountUserIdForDevice req.deviceId ≠ some accountUserId
  email : ∀ email, VerifiesEmail config arrival db email → ¬ HasEmail db accountUserId email
  operator : arrival.request = .resetGenesis → config.lookupStatic arrival.token = none

/-- The account a link request ends at; the handler and the ledger both normalize
its name. -/
def LinkAccountReq.target (req : LinkAccountReq) : Tx AccountUserId := do
  normalizeAccountUserId (← normalizeAccountUserId req.accountUserId)

def LinksElsewhere (accountUserId : AccountUserId) (arrival : Arrival) : Prop :=
  ∀ req, arrival.request = .linkAccount req → req.target ≠ .ok accountUserId

/-! ## Steps -/

section Steps

variable {config : Config} {arrival : Arrival} {accountUserId : AccountUserId}
  {origin before db db' : Db} {call : Call}

theorem Stranger.apart (stranger : Stranger config accountUserId origin before arrival)
    (isSealed : Sealed accountUserId origin db)
    (entitled : Entitled config arrival before db call) : call.actsFor db ≠ some accountUserId := by
  intro acts
  have credential := entitled.credential accountUserId acts
  exact stranger.token (isSealed.credential credential)

theorem Stranger.keeps (stranger : Stranger config accountUserId origin before arrival)
    (entitled : Entitled config arrival before db call) : call ≠ .resetGenesis := by
  intro resets
  have grounds := entitled.grounds
  rw [resets] at grounds
  have isOperator := grounds.2
  rw [stranger.operator grounds.1] at isOperator
  exact nomatch isOperator

theorem Sealed.keys_execute (isSealed : Sealed accountUserId origin db)
    (keeps : call ≠ .resetGenesis) (apart : call.actsFor db ≠ some accountUserId)
    (ran : execute config.sha256 db call = .ok db') :
    Table.Inherits (fun holder => holder.1 = accountUserId) ApiKeyRow.holder
      origin.apiKeys db'.apiKeys := by
  by_cases manages : call.managesKeys = true
  · cases call with
    | resetGenesis => exact absurd rfl keeps
    | createApiKey owner params keyId token now =>
      rcases map_eq_ok.mp ran with ⟨_, called, rfl⟩
      simp only [createApiKey, ok_iff] at called
      rcases called with ⟨-, -, -, -, -, rfl⟩
      apply isSealed.keys.insertOrIgnore
      intro owned
      exact apart (congrArg some owned)
    | updateApiKey owner keyId params =>
      simp only [execute, updateApiKey, ok_iff] at ran
      rcases ran with ⟨-, -, -, rfl⟩
      exact isSealed.keys.modify fun _ => .inl rfl
    | deleteApiKey owner keyId =>
      simp only [execute, deleteApiKey, ok_iff] at ran
      rcases ran with ⟨-, rfl⟩
      exact isSealed.keys.modify fun _ => .inl rfl
    | _ => cases manages
  · have sameTerms := execute_keyTerms (Bool.eq_false_of_not_eq_true manages) ran
    apply isSealed.keys.of_map_eq _ sameTerms
    intro row old same
    have sameHolder : row.terms.holder = old.terms.holder := congrArg ApiKeyRow.holder same
    exact sameHolder

theorem resolveAccountSession_holders {marked : AccountUserId × String → Prop}
    (inherits : Table.Inherits marked AccountSessionRow.holder sessions db.accountSessions) :
    Table.Inherits marked AccountSessionRow.holder sessions
      (resolveAccountSession sha256 db token now).1.accountSessions := by
  rcases resolveAccountSession_cases sha256 db token now with same | ⟨_, _, -, -, -, same⟩
  · rwa [same]
  · rw [same]
    exact inherits.modify fun _ => .inl rfl

theorem Sealed.sessions_execute (isSealed : Sealed accountUserId origin db)
    (stranger : Stranger config accountUserId origin before arrival)
    (entitled : Entitled config arrival before db call)
    (ran : execute config.sha256 db call = .ok db') :
    Table.Inherits (fun holder => holder.1 = accountUserId)
      AccountSessionRow.holder origin.accountSessions db'.accountSessions := by
  have grounds := entitled.grounds
  cases call with
  | createAccountSession owner deviceId deviceName sessionId token now =>
    rcases map_eq_ok.mp ran with ⟨_, called, rfl⟩
    simp only [createAccountSession, ok_iff] at called
    rcases called with ⟨-, -, rfl⟩
    rcases grounds with ⟨email, verified, belongs⟩
    apply isSealed.sessions.insertOrIgnore
    intro owned
    have isOwner : owner = accountUserId := owned
    rw [isOwner] at belongs
    exact stranger.email email verified belongs
  | resolveAccountSession token now =>
    have same : (resolveAccountSession config.sha256 db token now).1 = db' := Except.ok.inj ran
    rw [← same]
    exact resolveAccountSession_holders isSealed.sessions
  | revokeAccountSession token now =>
    have same : revokeAccountSession config.sha256 db token now = db' := Except.ok.inj ran
    rw [← same]
    apply isSealed.sessions.update
    intro sessionId row
    split <;> exact .inl rfl
  | _ =>
    rw [(execute_within ran).read (·.accountSessions) fun _ => by
      first | rfl | simp [Db.without, writes]]
    exact isSealed.sessions

theorem upsertAccountDevice_holders {marked : AccountUserId → Prop}
    (inherits : Table.Inherits marked AccountDeviceRow.accountUserId devices db.accountDevices)
    (unmarked : ¬ marked owner) : Table.Inherits marked AccountDeviceRow.accountUserId devices
      (db.upsertAccountDevice deviceId owner deviceName platform now).accountDevices := by
  unfold Db.upsertAccountDevice
  split
  · exact inherits.modify fun _ => .inr unmarked
  · exact inherits.insertOrIgnore unmarked

section

variable (isSealed : Sealed accountUserId origin db)

include isSealed

theorem Sealed.devices_execute
    (keeps : call ≠ .resetGenesis) (elsewhere : LinksElsewhere accountUserId arrival)
    (entitled : Entitled config arrival before db call)
    (ran : execute config.sha256 db call = .ok db') :
    Table.Inherits (fun holder => holder = accountUserId)
      AccountDeviceRow.accountUserId origin.accountDevices db'.accountDevices := by
  have grounds := entitled.grounds
  cases call with
  | resetGenesis => exact absurd rfl keeps
  | linkDeviceToAccount deviceId named metadata now =>
    simp only [execute, linkDeviceToAccount, ok_iff] at ran
    rcases ran with ⟨owner, normalized, rfl⟩
    rcases grounds with ⟨req, isRequest, isNamed⟩
    apply upsertAccountDevice_holders
    · unfold Db.upsertWallet
      split <;> exact isSealed.devices
    · intro owned
      rw [owned] at normalized
      exact elsewhere req isRequest (bind_eq_ok.mpr ⟨named, isNamed, normalized⟩)
  | removeDeviceFromAccount requester target =>
    rcases map_eq_ok.mp ran with ⟨_, called, rfl⟩
    simp only [removeDeviceFromAccount, ok_iff] at called
    rcases called with ⟨-, _, -, _, -, rfl⟩
    exact isSealed.devices.deleteWhere _
  | _ =>
    rw [(execute_within ran).read (·.accountDevices) fun _ => by
      first | rfl | simp [Db.without, writes]]
    exact isSealed.devices

theorem Sealed.tokens_execute
    (keeps : call ≠ .resetGenesis) (stranger : Stranger config accountUserId origin before arrival)
    (entitled : Entitled config arrival before db call)
    (ran : execute config.sha256 db call = .ok db') : Table.Inherits (fun deviceId =>
        origin.accountUserIdForDevice deviceId = some accountUserId)
      TokenRow.deviceId origin.tokens db'.tokens := by
  have grounds := entitled.grounds
  cases call with
  | resetGenesis => exact absurd rfl keeps
  | issueToken deviceId token now =>
    rcases map_eq_ok.mp ran with ⟨_, called, rfl⟩
    simp only [issueToken, ok_iff] at called
    rcases called with ⟨-, -, rfl⟩
    rcases grounds with ⟨req, isRequest, isDevice, signed⟩
    apply isSealed.tokens.insertOrIgnore
    rw [isDevice]
    exact stranger.device req isRequest signed
  | _ =>
    rw [(execute_within ran).read (·.tokens) fun _ => by
      first | rfl | simp [Db.without, writes]]
    exact isSealed.tokens

theorem Sealed.execute (stranger : Stranger config accountUserId origin before arrival)
    (elsewhere : LinksElsewhere accountUserId arrival)
    (entitled : Entitled config arrival before db call)
    (ran : execute config.sha256 db call = .ok db') : Sealed accountUserId origin db' := by
  have keeps := stranger.keeps entitled
  have apart := stranger.apart isSealed entitled
  have credits := execute_creditsOf_le ran keeps entitled.promised apart
  exact ⟨le_trans isSealed.credits credits, isSealed.keys_execute keeps apart ran,
    isSealed.sessions_execute stranger entitled ran,
    isSealed.devices_execute keeps elsewhere entitled ran,
    isSealed.tokens_execute keeps stranger entitled ran⟩

end

theorem respond_sealed (stranger : Stranger config accountUserId origin db arrival)
    (elsewhere : LinksElsewhere accountUserId arrival) (isSealed : Sealed accountUserId origin db) :
    Sealed accountUserId origin (respond config db arrival) := by
  apply respond_invariant (Sealed accountUserId origin)
  · intro state call state' entitled before executed
    exact before.execute stranger elsewhere entitled executed
  · exact isSealed

end Steps

/-! ## Runs -/

/-- The account has lost no credits, and it has got neither a key nor a
device. -/
structure Untouched (accountUserId : AccountUserId) (start finish : Db) :
    Prop where
  credits : start.creditsOf accountUserId ≤ finish.creditsOf accountUserId
  keys : ∀ keyId row, finish.apiKeys.find? keyId = some row → row.accountUserId = accountUserId →
      ∃ old, start.apiKeys.find? keyId = some old ∧ old.accountUserId = accountUserId
  devices : ∀ deviceId, finish.accountUserIdForDevice deviceId = some accountUserId →
      start.accountUserIdForDevice deviceId = some accountUserId

theorem Sealed.untouched (isSealed : Sealed account origin db) : Untouched account origin db where
  credits := isSealed.credits
  keys := by
    intro keyId row found owned
    rcases isSealed.keys keyId row found owned with ⟨old, foundOld, same⟩
    have sameAccount : old.accountUserId = row.accountUserId := congrArg Prod.fst same
    exact ⟨old, foundOld, sameAccount.trans owned⟩
  devices := fun _ linked => isSealed.linked linked

/-- In every run of arrivals of strangers none of which links a device to the
account, the account is left untouched. -/
theorem untouched_runArrivals {config : Config} {accountUserId : AccountUserId} {start : Db}
    {arrivals : List Arrival}
    (admissible : Admissible (fun db arrival => Stranger config accountUserId start db arrival ∧
        LinksElsewhere accountUserId arrival) (respond config) start arrivals) :
    Untouched accountUserId start (runArrivals config start arrivals) := by
  have run : Sealed accountUserId start (runArrivals config start arrivals) := by
    refine run_invariant (Sealed accountUserId start) ?_ (.refl _ _) admissible
    intro db arrival ⟨stranger, elsewhere⟩ isSealed
    exact respond_sealed stranger elsewhere isSealed
  exact run.untouched

/-! ## A device that links itself -/

/-- `alice` has credits; the device of `mallory` has nothing of the account. -/
def aliceSaves : Db := runCalls id twoAccounts [.recordAccountBonus "alice" 500 none "gift" 0]

/-- A request of the device of `mallory`. -/
def byMallory (request : Request) : Arrival :=
  ⟨⟨some "Bearer token-m", none⟩, request, dollarMoment⟩

def linksTo (accountUserId : String) : Arrival := byMallory (.linkAccount { accountUserId })

def sendsAway : Arrival := byMallory (.sendFromAccount ⟨"credits", "account:mallory", 500, none⟩)

def createsKey : Arrival := byMallory (.createKey {})

theorem not_credential (noDevice : ((db.tokens.find? token).bind fun row =>
      db.accountUserIdForDevice row.deviceId) ≠ some account)
    (noKey : ∀ row ∈ db.apiKeys.rows, row.2.accountUserId ≠ account)
    (noSession : ∀ row ∈ db.accountSessions.rows, row.2.accountUserId ≠ account) :
    ¬ Credential sha256 db token account := by
  intro credential
  cases credential with
  | device issued linked =>
    rw [issued] at noDevice
    exact noDevice linked
  | @apiKey keyId row stored _ =>
    have member := Table.mem_rows_iff_find?.mpr stored
    exact noKey _ member rfl
  | @session sessionId row stored _ =>
    have member := Table.mem_rows_iff_find?.mpr stored
    exact noSession _ member rfl

theorem mallory_stranger
    (isProtected : ∀ email, ¬ VerifiesEmail plainConfig (byMallory request) db email)
    (noExchange : ∀ req, request ≠ .exchange req) :
    Stranger plainConfig "alice" aliceSaves db (byMallory request) where
  token := by
    have isToken : (byMallory request).token = "token-m" := by
      have value : tokenFromHeaders ⟨some "Bearer token-m", none⟩ = "token-m" := by decide +kernel
      exact value
    rw [isToken]
    apply not_credential
    · decide +kernel
    · decide +kernel
    · decide +kernel
  device := fun req isRequest => absurd isRequest (noExchange req)
  email := fun email verified => absurd verified (isProtected email)
  operator := by
    intro _
    have value : plainConfig.lookupStatic
        (tokenFromHeaders ⟨some "Bearer token-m", none⟩) = none := by
      decide +kernel
    exact value

theorem mallory_linksElsewhere (noLink : ∀ req, request ≠ .linkAccount req) :
    LinksElsewhere "alice" (byMallory request) :=
  fun req isRequest => absurd isRequest (noLink req)

theorem untouched_after_own_link : aliceSaves.creditsOf "alice" = 500 ∧
      Untouched "alice" aliceSaves (runArrivals plainConfig aliceSaves
        [linksTo "mallory-two", sendsAway, createsKey]) := by
  have elsewhere : LinksElsewhere "alice" (linksTo "mallory-two") := by
    intro req isRequest
    rw [← Request.linkAccount.inj isRequest]
    decide +kernel
  have links : Stranger plainConfig "alice" aliceSaves aliceSaves
      (linksTo "mallory-two") := mallory_stranger (fun _ => id) nofun
  refine ⟨by decide +kernel, untouched_runArrivals ?_⟩
  refine ⟨⟨links, elsewhere⟩, ⟨?_, ?_⟩, ⟨?_, ?_⟩, trivial⟩
  · exact mallory_stranger (fun _ => id) nofun
  · exact mallory_linksElsewhere nofun
  · exact mallory_stranger (fun _ => id) nofun
  · exact mallory_linksElsewhere nofun

/-- The device of `mallory` links itself to the account of `alice`, sends its
credits away and creates a key of it. -/
theorem stranger_takes_account :
    Admissible (Stranger plainConfig "alice" aliceSaves) (respond plainConfig)
        aliceSaves [linksTo "alice", sendsAway, createsKey] ∧ aliceSaves.creditsOf "alice" = 500 ∧
      (runArrivals plainConfig aliceSaves
        [linksTo "alice", sendsAway, createsKey]).creditsOf "alice" = 0 ∧
      aliceSaves.apiKeys.rows = [] ∧
      ((runArrivals plainConfig aliceSaves
        [linksTo "alice", sendsAway, createsKey]).apiKeys.rows.map
          fun row => row.2.accountUserId) = ["alice"] ∧
      aliceSaves.accountUserIdForDevice "m" = some "mallory" ∧
      (runArrivals plainConfig aliceSaves
        [linksTo "alice", sendsAway, createsKey]).accountUserIdForDevice "m" = some "alice" := by
  refine ⟨⟨?_, ?_, ?_, trivial⟩, ?_⟩
  · exact mallory_stranger (fun _ => id) nofun
  · exact mallory_stranger (fun _ => id) nofun
  · exact mallory_stranger (fun _ => id) nofun
  · decide +kernel

end Teale.Gateway
