import Teale.Lib.Enrollment
import Teale.Gateway.Auth

/-!
# The challenge limiter

`ChallengeLimiter` of `state.rs` bounds how many devices of one network may ask for a challenge
within an hour.
-/

namespace Teale.Gateway

open Relational Transactional Option Relational.Table Enrollment

/-! ## Networks -/

structure ForwardingHeaders where
  flyClientIp : Option String
  xForwardedFor : Option String
  deriving DecidableEq, Repr

def clientIpKey (headers : ForwardingHeaders) : String :=
  let direct := RustText.trim (headers.flyClientIp.getD "")
  let firstHop := RustText.trim
    (RustText.firstPiece (headers.xForwardedFor.getD "") ',')
  if direct ≠ "" then direct
  else if firstHop ≠ "" then firstHop
  else "unknown"

/-! ## The limiter -/

inductive ChallengeLimitDecision
  | newDevice
  | retry
  | denied
  deriving DecidableEq, Repr

def ChallengeLimitDecision.ofVerdict : Enrollment.Verdict → ChallengeLimitDecision
  | .fresh => .newDevice
  | .repeated => .retry
  | .full => .denied

/-- `ChallengeLimiter`: for every network the devices that asked for a
challenge, with the time each was first seen. -/
abbrev ChallengeLimiter := Table String (Table DeviceId Timestamp)

namespace ChallengeLimiter

def maxUniquePerWindow : ℕ := 10

def windowSeconds : ℤ := 3600

def devices (limiter : ChallengeLimiter) (key : String) : Table DeviceId Timestamp :=
  (limiter.find? key).getD ∅

structure Ask where
  key : String
  deviceId : DeviceId
  now : Timestamp
  deriving DecidableEq, Repr

def allow (limiter : ChallengeLimiter) (ask : Ask) : ChallengeLimitDecision × ChallengeLimiter :=
  let limiter := limiter.insertOrIgnore ask.key ∅
  let visited := visit maxUniquePerWindow windowSeconds
    (devices limiter ask.key) ask.deviceId ask.now
  (.ofVerdict visited.1, limiter.modify ask.key fun _ => visited.2)

def slotsUsed : ChallengeLimiter → List Ask → List Ask
  | _, [] => []
  | limiter, ask :: asks =>
    let allowed := limiter.allow ask
    let later := slotsUsed allowed.2 asks
    if allowed.1 = .newDevice then ask :: later else later

variable (limiter : ChallengeLimiter)

theorem devices_insertOrIgnore (key other : String) :
    devices (limiter.insertOrIgnore key ∅) other = limiter.devices other := by
  rw [devices, find?_insertOrIgnore]
  split_ifs with same
  · rw [same, getD_some, devices]
  · rfl

theorem allow_newDevice_iff (ask : Ask) : (limiter.allow ask).1 = .newDevice ↔
      (visit maxUniquePerWindow windowSeconds
        (limiter.devices ask.key) ask.deviceId ask.now).1 = .fresh := by
  simp only [allow, devices_insertOrIgnore]
  cases (visit maxUniquePerWindow windowSeconds
    (limiter.devices ask.key) ask.deviceId ask.now).1 <;> simp [ChallengeLimitDecision.ofVerdict]

theorem devices_allow (ask : Ask) (key : String) : (limiter.allow ask).2.devices key =
      if key = ask.key then
        (visit maxUniquePerWindow windowSeconds
          (limiter.devices ask.key) ask.deviceId ask.now).2
      else limiter.devices key := by
  simp only [allow, devices_insertOrIgnore]
  rw [devices, find?_modify]
  split_ifs with same
  · rw [same, find?_insertOrIgnore_self, map_some, getD_some]
  · exact devices_insertOrIgnore limiter ask.key key

theorem slotsUsed_filter (asks : List Ask) (key : String) :
    ((limiter.slotsUsed asks).filter fun ask => ask.key = key).map
        (fun ask => (ask.deviceId, ask.now)) =
      places maxUniquePerWindow windowSeconds (limiter.devices key)
        ((asks.filter fun ask => ask.key = key).map fun ask => (ask.deviceId, ask.now)) := by
  induction asks generalizing limiter with
  | nil => rfl
  | cons ask asks ih =>
    have later := ih (limiter.allow ask).2
    rw [devices_allow] at later
    by_cases here : ask.key = key
    · simp only [slotsUsed, allow_newDevice_iff, here]
      split_ifs with isFresh
      · simp [places, here, isFresh, later]
      · simp [places, here, isFresh, later]
    · rw [if_neg (Ne.symm here)] at later
      simp only [slotsUsed]
      split_ifs
      · simpa [here] using later
      · simpa [here] using later

theorem slotsUsed_sublist (asks : List Ask) : (limiter.slotsUsed asks).Sublist asks := by
  induction asks generalizing limiter with
  | nil => exact List.Sublist.slnil
  | cons ask asks ih =>
    have later := ih (limiter.allow ask).2
    simp only [slotsUsed]
    split_ifs
    · exact later.cons_cons ask
    · exact later.cons ask

theorem slotsUsed_apart (ordered : asks.Pairwise fun first second => first.now ≤ second.now)
    (key : String) : ((limiter.slotsUsed asks).filter fun ask => ask.key = key).Pairwise
      fun first second => first.deviceId = second.deviceId →
        first.now + windowSeconds ≤ second.now := by
  have visits : ((asks.filter fun ask => ask.key = key).map
      fun ask => (ask.deviceId, ask.now)).Pairwise fun first second => first.2 ≤ second.2 :=
    List.pairwise_map.mpr (ordered.filter _)
  have apart := @places_apart _ _ maxUniquePerWindow windowSeconds
    (limiter.devices key) _ visits
  rw [← slotsUsed_filter] at apart
  exact List.pairwise_map.mp apart

end ChallengeLimiter

end Teale.Gateway
