import Teale.Gateway.Frame

/-!
# Rows of devices

A row of `devices` is written the first time a device id is met and deleted only by
`reset_genesis`.
-/

namespace Teale.Gateway

open Relational Transactional Enrollment Option Relational.Table Db

variable {deviceId : DeviceId} {account : AccountUserId} {now : Timestamp}
  {claimId code : String}

def Db.OwnsReferralCode (db : Db) (deviceId : DeviceId) : Prop :=
  ∃ code row, db.referralCodes.find? code = some row ∧ row.owner = .device deviceId

def CodesOwned (db : Db) : Prop :=
  ∀ deviceId, db.OwnsReferralCode deviceId → deviceId ∈ db.deviceIds

/-! ## Single statements -/

theorem mem_deviceIds_iff {db : Db} :
    deviceId ∈ db.deviceIds ↔ db.devices.find? deviceId ≠ none := by
  rw [Ne, find?_eq_none_iff, not_not, deviceIds]

namespace EnrollsDevices

variable {allowed wider : DeviceId → Prop} {db middle db' : Db}

theorem trans (first : EnrollsDevices allowed db middle)
    (second : EnrollsDevices allowed middle db') : EnrollsDevices allowed db db' :=
  Enrolls.trans first second

theorem mono (implied : ∀ deviceId, allowed deviceId → wider deviceId)
    (enrolls : EnrollsDevices allowed db db') : EnrollsDevices wider db db' :=
  Enrolls.mono implied enrolls

end EnrollsDevices

theorem upsertDevice_enrolls (db : Db) (deviceId : DeviceId) (now : Timestamp) :
    EnrollsDevices (· = deviceId) db (upsertDevice db deviceId now).1 := by
  unfold upsertDevice
  split
  · exact ensureDevice_enrolls db deviceId now
  · exact .of_deviceIds_eq (deviceIds_touchDevice db deviceId now)

/-! ## Rewards -/

theorem rewardReferrerTx_enrolls (ran : rewardReferrerTx db owner actor note now = .ok db') :
    EnrollsDevices (fun deviceId => owner = .device deviceId) db db' := by
  cases owner with
  | device deviceId =>
    cases ran
    refine (ensureDevice_enrolls db deviceId now).mono ?_
    rintro _ rfl
    rfl
  | account accountUserId =>
    obtain ⟨-, rfl⟩ := appendAccountLedger_ok ran
    exact .of_devices_eq rfl

theorem applyReferralForDeviceTx_enrolls
    (ran : applyReferralForDeviceTx db deviceId code claimId now = .ok result) :
    EnrollsDevices (fun joined => joined = deviceId ∨ db.OwnsReferralCode joined) db result.1 := by
  simp only [applyReferralForDeviceTx, bind_eq_ok, getOr_eq_ok, pure_eq_ok] at ran
  obtain ⟨_, -, row, found, _, -, _, -, rewarded, referrer, claimed, inserted, rfl⟩ := ran
  have first : EnrollsDevices _ db rewarded :=
    (rewardReferrerTx_enrolls referrer).mono fun joined isOwner =>
      (.inr ⟨code, row, found, isOwner⟩ : joined = deviceId ∨ db.OwnsReferralCode joined)
  have second := (ensureDevice_enrolls rewarded deviceId now).mono
    fun joined same => (.inl same : joined = deviceId ∨ db.OwnsReferralCode joined)
  have unchanged : claimed.devices = (rewarded.ensureDevice deviceId now).devices := by
    simp only [insertReferralClaim, ok_iff] at inserted
    obtain ⟨_, -, _, -, _, -, _, -, rfl⟩ := inserted
    rfl
  exact (first.trans second).trans (.of_devices_eq unchanged)

/-- Joining writes the row of the device and, as the owner of a code has one,
no other. -/
theorem applyDeviceJoinRewards_enrolls {db : Db} {code : Option String} {result : Db × JoinRewards}
    (ran : applyDeviceJoinRewards db deviceId code claimId now = .ok result) :
    EnrollsDevices (fun joined => joined = deviceId ∨ db.OwnsReferralCode joined) db result.1 := by
  have joined : EnrollsDevices (· = deviceId) db (welcomeDevice
      ((db.ensureDevice deviceId now).ensureBalance deviceId) deviceId now).1 := by
    unfold welcomeDevice
    split <;> exact ensureDevice_enrolls db deviceId now
  have sameCodes : (welcomeDevice ((db.ensureDevice deviceId now).ensureBalance
      deviceId) deviceId now).1.referralCodes = db.referralCodes := by
    unfold welcomeDevice
    split <;> rfl
  have joined := joined.mono fun other same =>
    (.inl same : other = deviceId ∨ db.OwnsReferralCode other)
  simp only [applyDeviceJoinRewards] at ran
  split at ran
  · cases ran
    exact joined
  · simp only [ok_iff] at ran
    obtain ⟨_, claimed, rfl⟩ := ran
    have claims := applyReferralForDeviceTx_enrolls claimed
    simp only [Db.OwnsReferralCode, sameCodes] at claims
    exact joined.trans claims

variable {result : Db × ReferralCodeSnapshot} {sha256 : String → String}

/-! ## Every call -/

theorem linkDeviceToAccount_devices
    (ran : linkDeviceToAccount db deviceId account metadata now = .ok db') :
    db.deviceIds ⊆ db'.deviceIds := by
  simp only [linkDeviceToAccount, ok_iff] at ran
  obtain ⟨normalized, -, linked⟩ := ran
  have written : db'.devices =
      ((db.ensureDevice deviceId now).touchDevice deviceId now).devices := by
    rw [← linked]
    unfold upsertAccountDevice upsertWallet
    split <;> split <;> rfl
  have ids : db'.deviceIds = (db.ensureDevice deviceId now).deviceIds := by
    rw [deviceIds, written]
    exact deviceIds_touchDevice _ deviceId now
  rw [ids]
  exact (ensureDevice_enrolls db deviceId now).subset

theorem execute_devices (kept : call ≠ .resetGenesis) (ran : execute sha256 db call = .ok db') :
    db.deviceIds ⊆ db'.deviceIds := by
  by_cases other : call.changesDirectory = false
  · exact (execute_alters other ran).devices
  · cases call with
    | linkDeviceToAccount => exact linkDeviceToAccount_devices ran
    | accountUserIdForLogin =>
      rw [deviceIds, deviceIds, (execute_within ran).read (·.devices) fun _ => rfl]
      exact List.Subset.refl _
    | resetGenesis => exact absurd rfl kept
    | _ => exact absurd rfl other

theorem referralCodeForDevice_codesOwned {db : Db} (owned : CodesOwned db)
    (ran : referralCodeForDevice db deviceId code now = .ok result) : CodesOwned result.1 := by
  have kept := (referralCodeForDevice_alters ran).devices
  rw [referralCodeForDevice, ensureReferralCodeTx] at ran
  split at ran
  · cases ran
    exact fun owner owns => kept (owned owner owns)
  · simp only [bind_eq_ok, failIf_eq_ok, pure_eq_ok] at ran
    obtain ⟨_, unused, _, present, rfl⟩ := ran
    rintro owner ⟨other, row, found, isOwner⟩
    rw [find?_insertOrIgnore] at found
    split_ifs at found with same
    · -- the new code, whose owner has just been looked up
      rw [not_isSome_iff_eq_none.mp unused, getD_none, some.injEq] at found
      rw [← found] at isOwner
      dsimp only at isOwner
      rw [isOwner, ReferralOwner.present, Bool.not_eq_false] at present
      exact mem_deviceIds_iff.mpr (isSome_iff_ne_none.mp present)
    · exact kept (owned owner ⟨other, row, found, isOwner⟩)

/-- The foreign key of the owner column holds after every call. -/
theorem execute_codesOwned (owned : CodesOwned db) (ran : execute sha256 db call = .ok db') :
    CodesOwned db' := by
  by_cases reset : call = .resetGenesis
  · cases execute_resetGenesis (reset ▸ ran)
    rintro deviceId ⟨code, row, found, -⟩
    simp [Db.empty] at found
  have keeps (sameCodes : db'.referralCodes = db.referralCodes) : CodesOwned db' := by
    intro deviceId owns
    rw [Db.OwnsReferralCode, sameCodes] at owns
    exact execute_devices reset ran (owned deviceId owns)
  cases call with
  | referralCodeForDevice =>
    exact of_map_eq_ok ran (referralCodeForDevice_codesOwned owned)
  | resetGenesis => exact absurd rfl reset
  | settleRequest consumer | settleProviderRequest consumer =>
    exact keeps ((execute_within ran).read (·.referralCodes) fun _ => by cases consumer <;> rfl)
  | _ => exact keeps ((execute_within ran).read (·.referralCodes) fun _ => rfl)

theorem codesOwned_runCalls (sha256 : String → String) (calls : List Call) :
    CodesOwned (runCalls sha256 Db.empty calls) := by
  have initially : CodesOwned Db.empty := by
    rintro deviceId ⟨code, row, found, -⟩
    simp [Db.empty] at found
  refine run_commit_invariant CodesOwned ?_ initially (admissible_of_forall fun _ _ _ => trivial)
  exact fun _ _ _ _ owned ran => execute_codesOwned owned ran

end Teale.Gateway
