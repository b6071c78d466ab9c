import Teale.Gateway.Registry

/-!
# Choosing a device

`gateway/src/scheduler.rs`. A search is diagnosed as saturated just if no device is picked now and
one would be picked if nothing were running.
-/

namespace Teale.Gateway

open List Option

variable {R : Type} [LinearOrder R] [Zero R]

/-- A device with what else the scheduler reads of it. The queue does not change the sign of
`score_with_queue`. -/
structure Device (R : Type) [LinearOrder R] [Zero R] extends DeviceState where
  nodeId : String
  effectiveContext : Option ℕ
  onAcPower : Option Bool
  scoreWithQueue : Bool → ℕ → R
  sameSign : ∀ loaded queue, 0 < scoreWithQueue loaded queue ↔ 0 < scoreWithQueue loaded 0
  depthFits : live.queueDepth < 2 ^ 32 - 1

/-- The part of a scheduler's configuration that is read; `fastLane` takes a score times
`FAST_LANE_SCORE_RATIO`. -/
structure Scheduler (R : Type) [LinearOrder R] [Zero R] where
  maxQueueDepth : ℕ
  fastLane : R → R
  positive : 0 < maxQueueDepth
  fastLane_le : ∀ best, 0 < best → fastLane best ≤ best

structure Search where
  modelId : String
  exclude : List String
  minContext : Option ℕ
  now : ℕ

namespace Device

variable (candidate : Device R) (search : Search)

/-- Whether the model is loaded, if the device is eligible. -/
def loaded? (maxQueue : ℕ) : Option Bool :=
  match candidate.isEligibleFor search.modelId maxQueue search.now with
  | .loaded => some true
  | .swappable => some false
  | _ => none

/-- The device is not excluded, and neither its context nor its battery is in the way. -/
def passes : Bool :=
  !search.exclude.contains candidate.nodeId &&
    !(search.minContext.any fun need => candidate.effectiveContext.any (· < need)) &&
    candidate.onAcPower ≠ some false

/-- The device with an empty queue. -/
def idle : Device R :=
  { candidate with
    live := { candidate.live with queueDepth := 0 }
    depthFits := Nat.lt_sub_of_add_lt (by decide : 0 + 1 < 2 ^ 32) }

end Device

structure Viable (R : Type) [LinearOrder R] [Zero R] where
  inFlight : ℕ
  loaded : Bool
  score : R
  device : Device R

namespace Scheduler

variable (scheduler : Scheduler R) (search : Search) (inFlight : String → ℕ)

def viable (candidate : Device R) : Option (Viable R) :=
  (candidate.loaded? search scheduler.maxQueueDepth).bind fun loaded =>
    let running := inFlight candidate.nodeId
    let score := candidate.scoreWithQueue loaded (max candidate.live.queueDepth running)
    if candidate.passes search ∧ running < scheduler.maxQueueDepth ∧ 0 < score then
      some ⟨running, loaded, score, candidate⟩
    else none

def tied (viable : List (Viable R)) (minInFlight : ℕ) : List (Viable R) :=
  let anyLoaded := viable.any fun entry => entry.inFlight = minInFlight && entry.loaded
  viable.filter fun entry => entry.inFlight = minInFlight && (!anyLoaded || entry.loaded)

/-- `pick`, with the random number that is drawn. -/
def pick (draw : ℕ) (candidates : List (Device R)) : Option (Device R) :=
  let viable := candidates.filterMap (scheduler.viable search inFlight)
  (viable.map Viable.inFlight).min?.bind fun minInFlight =>
    let tied := tied viable minInFlight
    if tied.length = 1 then
      tied.head?.map Viable.device
    else
      let bestScore := (tied.map Viable.score).foldl max 0
      let fastLane := tied.filter fun entry => scheduler.fastLane bestScore ≤ entry.score
      fastLane[draw % fastLane.length]?.map Viable.device

/-- What a round of `saturated` finds at a device it does not pass over: whether it is at its
cap. -/
def atCap (candidate : Device R) : Option Bool :=
  (candidate.loaded? search (2 ^ 32 - 1)).bind fun loaded =>
    if candidate.passes search ∧ 0 < candidate.scoreWithQueue loaded 0 then
      some (scheduler.maxQueueDepth ≤ candidate.live.queueDepth ||
        scheduler.maxQueueDepth ≤ inFlight candidate.nodeId)
    else none

def saturatedFrom (blockedByDepth : ℕ) : List (Device R) → Bool
  | [] => 0 < blockedByDepth
  | candidate :: rest =>
    match scheduler.atCap search inFlight candidate with
    | none => saturatedFrom blockedByDepth rest
    | some true => saturatedFrom (blockedByDepth + 1) rest
    | some false => false

def saturated (candidates : List (Device R)) : Bool :=
  scheduler.saturatedFrom search inFlight 0 candidates

variable {scheduler search inFlight} {candidate : Device R} {candidates : List (Device R)}

/-! ## What is viable -/

theorem loaded?_of_lt (short : candidate.live.queueDepth < maxQueue) (positive : 0 < other) :
    candidate.loaded? search maxQueue = candidate.idle.loaded? search other := by
  have waits : ¬ other ≤ candidate.idle.live.queueDepth := not_le.mpr positive
  rw [Device.loaded?, Device.loaded?, DeviceState.isEligibleFor, DeviceState.isEligibleFor,
    if_neg (not_le.mpr short), if_neg waits]
  rfl

theorem loaded?_of_le (full : maxQueue ≤ candidate.live.queueDepth) :
    candidate.loaded? search maxQueue = none := by
  rw [Device.loaded?, DeviceState.isEligibleFor, if_pos full]
  by_cases quarantined : candidate.isQuarantined search.now = true
  · rw [if_pos quarantined]
  · rw [if_neg quarantined]
    split_ifs <;> rfl

theorem viable_isSome_iff :
    (scheduler.viable search inFlight candidate).isSome ↔
      scheduler.atCap search inFlight candidate = some false := by
  by_cases short : candidate.live.queueDepth < scheduler.maxQueueDepth
  · rw [viable, atCap, loaded?_of_lt short one_pos, loaded?_of_lt candidate.depthFits one_pos]
    cases candidate.idle.loaded? search 1 with
    | none => simp
    | some loaded =>
      simp [candidate.sameSign loaded (max _ _), short]
      tauto
  · rw [viable, loaded?_of_le (not_lt.mp short), atCap]
    cases candidate.loaded? search (2 ^ 32 - 1) <;> simp [not_lt.mp short]

theorem viable_idle_isSome_iff (inFlight : String → ℕ) :
    (scheduler.viable search (fun _ => 0) candidate.idle).isSome ↔
      (scheduler.atCap search inFlight candidate).isSome := by
  rw [viable, atCap, ← loaded?_of_lt candidate.depthFits scheduler.positive]
  cases candidate.loaded? search (2 ^ 32 - 1) with
  | none => rfl
  | some loaded =>
    have same : candidate.idle.passes search = candidate.passes search := rfl
    have score : candidate.idle.scoreWithQueue = candidate.scoreWithQueue := rfl
    simp [same, score, candidate.sameSign loaded, scheduler.positive]

theorem saturatedFrom_iff (blocked : ℕ) :
    scheduler.saturatedFrom search inFlight blocked candidates ↔
      (∀ candidate ∈ candidates, scheduler.atCap search inFlight candidate ≠ some false) ∧
        (0 < blocked ∨
          ∃ candidate ∈ candidates, scheduler.atCap search inFlight candidate = some true) := by
  induction candidates generalizing blocked with
  | nil => simp [saturatedFrom]
  | cons candidate rest ih =>
    rw [saturatedFrom]
    split <;> simp_all

/-! ## What is picked -/

theorem pick_isSome_iff (draw : ℕ) :
    (scheduler.pick search inFlight draw candidates).isSome ↔
      ∃ candidate ∈ candidates, (scheduler.viable search inFlight candidate).isSome := by
  have scored : ∀ entry ∈ candidates.filterMap (scheduler.viable search inFlight),
      0 < entry.score := by
    intro entry member
    obtain ⟨candidate, -, isViable⟩ := mem_filterMap.mp member
    obtain ⟨loaded, -, isEntry⟩ := bind_eq_some_iff.mp isViable
    obtain ⟨⟨-, -, positive⟩, rfl⟩ := ite_some_none_eq_some.mp isEntry
    exact positive
  have nonempty : (∃ candidate ∈ candidates, (scheduler.viable search inFlight candidate).isSome) ↔
      candidates.filterMap (scheduler.viable search inFlight) ≠ [] := by
    simp [ne_none_iff_isSome]
  rw [nonempty, pick]
  generalize candidates.filterMap (scheduler.viable search inFlight) = viable at scored ⊢
  cases least : (viable.map Viable.inFlight).min? with
  | none => simp_all [min?_eq_none_iff]
  | some minInFlight =>
    obtain ⟨first, member, isLeast⟩ := List.mem_map.mp (min?_mem least)
    refine iff_of_true ?_ (ne_nil_of_mem member)
    have someTied : tied viable minInFlight ≠ [] := by
      by_cases loaded : (viable.any fun entry => entry.inFlight = minInFlight && entry.loaded) = true
      · obtain ⟨entry, listed, ready⟩ := any_eq_true.mp loaded
        exact ne_nil_of_mem (mem_filter.mpr ⟨listed, by simp_all⟩)
      · exact ne_nil_of_mem (mem_filter.mpr ⟨member, by simp_all⟩)
    obtain ⟨head, rest, isTied⟩ := exists_cons_of_ne_nil someTied
    have tiedScored : ∀ entry ∈ head :: rest, 0 < entry.score :=
      fun entry inTied => scored entry (mem_of_mem_filter (isTied ▸ inTied))
    simp only [bind_some, isTied]
    split
    · rfl
    · -- the best score is one of the tied, so that one is in the fast lane
      have best : ((head :: rest).map Viable.score).foldl max 0 ∈
          (head :: rest).map Viable.score := by
        rw [List.map_cons, foldl_cons, max_eq_right (tiedScored head mem_cons_self).le]
        exact max?_mem max?_cons'
      obtain ⟨fastest, listed, isBest⟩ := List.mem_map.mp best
      rw [← isBest]
      have inLane : fastest ∈ (head :: rest).filter fun entry =>
          scheduler.fastLane fastest.score ≤ entry.score :=
        mem_filter.mpr ⟨listed, by simpa using scheduler.fastLane_le _ (tiedScored _ listed)⟩
      simp [getElem?_eq_getElem (Nat.mod_lt draw (length_pos_of_mem inLane))]

end Scheduler

end Teale.Gateway
