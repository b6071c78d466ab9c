import Teale.Lib.Table
import Teale.Lib.Transaction

/-!
# Waiting for a slot

A request that finds no slot free joins a bounded queue: a counter that the task of the request
adds itself to and subtracts itself from. An abort stops the task where it awaits.
-/

namespace Teale.Node

open Relational Transactional Relational.Table

/-- A task that is `refused` or `leaving` is still to subtract itself from the counter. -/
inductive Phase
  | waiting
  | refused
  | leaving (granted : Bool)
  | running
  | ended
  deriving DecidableEq, Repr

structure NodeRuntimeState where
  dinQueueDepth : ℤ
  dinWaiters : ℤ := 0
  tasks : Table ℕ Phase := ∅

inductive TaskEvent
  | backOut
  | wake (granted : Bool)
  | leave
  | finish
  | abort
  deriving DecidableEq, Repr

def Phase.after : Phase → TaskEvent → Option Phase
  | refused, .backOut => some ended
  | waiting, .wake granted => some (leaving granted)
  | leaving granted, .leave => some (if granted then running else ended)
  | running, .finish => some ended
  | waiting, .abort | running, .abort => some ended
  | _, _ => none

/-- `leave_din_queue`, and the second half of `try_join_din_queue`. -/
def TaskEvent.subtracts : TaskEvent → ℤ
  | backOut | leave => 1
  | _ => 0

/-- `arrive` is `try_acquire_din`, and `try_join_din_queue` up to its comparison where no slot is
free. -/
inductive QueueStep
  | arrive (task : ℕ) (permit : Bool)
  | moves (task : ℕ) (event : TaskEvent)

namespace NodeRuntimeState

def tryJoinDinQueue (state : NodeRuntimeState) : Phase :=
  if state.dinQueueDepth < state.dinWaiters + 1 then .refused else .waiting

def arrive (state : NodeRuntimeState) (task : ℕ) (permit : Bool) : NodeRuntimeState :=
  if permit then
    { state with tasks := state.tasks.insertOrIgnore task .running }
  else
    { state with
      dinWaiters := state.dinWaiters + 1
      tasks := state.tasks.insertOrIgnore task state.tryJoinDinQueue }

def advance (state : NodeRuntimeState) (task : ℕ) (later : Phase) (event : TaskEvent) :
    NodeRuntimeState :=
  { state with
    dinWaiters := state.dinWaiters - event.subtracts
    tasks := state.tasks.modify task fun _ => later }

def step (state : NodeRuntimeState) : QueueStep → NodeRuntimeState
  | .arrive task permit =>
    if (state.tasks.find? task).isSome then state else state.arrive task permit
  | .moves task event =>
    match (state.tasks.find? task).bind (·.after event) with
    | some later => state.advance task later event
    | none => state

def count (state : NodeRuntimeState) (here : Phase → Bool) : ℤ :=
  state.tasks.sum fun _ phase => if here phase then 1 else 0

end NodeRuntimeState

def Phase.isWaiting (phase : Phase) : Bool := phase = .waiting

/-- On the way out of the counter. -/
def Phase.inTransit : Phase → Bool
  | refused | leaving _ => true
  | _ => false

/-- The abort of a task while it waits. -/
def QueueStep.strands (state : NodeRuntimeState) : QueueStep → Bool
  | .moves task .abort => state.tasks.find? task = some .waiting
  | _ => false

namespace NodeRuntimeState

/-- The counter is the number of the tasks that wait, and who is refused finds that many. -/
def Accurate (state : NodeRuntimeState) : Prop :=
  state.dinWaiters = state.count Phase.isWaiting ∧
    (state.tryJoinDinQueue = .refused → state.dinQueueDepth ≤ state.count Phase.isWaiting)

/-- What the counter has over the tasks that are counted. -/
def excess (state : NodeRuntimeState) : ℤ :=
  state.dinWaiters - state.count Phase.isWaiting - state.count Phase.inTransit

variable {state : NodeRuntimeState} {task : ℕ} {phase : Phase}

open Phase

theorem count_advance (found : state.tasks.find? task = some phase) (later : Phase)
    (event : TaskEvent) (here : Phase → Bool) :
    (state.advance task later event).count here =
      state.count here + ((if here later then 1 else 0) - if here phase then 1 else 0) :=
  sum_modify state.tasks (fun _ => later) _ found

theorem excess_step (state : NodeRuntimeState) (call : QueueStep) :
    (state.step call).excess = state.excess + if call.strands state then 1 else 0 := by
  cases call with
  | arrive task permit =>
    simp only [step, QueueStep.strands, Bool.false_eq_true, if_false, add_zero]
    split
    · rfl
    case isFalse fresh =>
      rw [Option.not_isSome_iff_eq_none] at fresh
      have counts (phase : Phase) (weight : ℕ → Phase → ℤ) :=
        sum_insertOrIgnore_of_fresh state.tasks phase weight fresh
      cases permit with
      | true => simp [arrive, excess, count, counts, isWaiting, inTransit]
      | false =>
        simp only [arrive, tryJoinDinQueue, excess, count, counts, Bool.false_eq_true, if_false]
        split
        all_goals simp [isWaiting, inTransit]
        omega
  | moves task event =>
    simp only [step]
    cases found : state.tasks.find? task with
    | none => cases event <;> simp [QueueStep.strands, found]
    | some phase =>
      -- a move changes the phase of one task, and the counter by what it subtracts
      have counts := count_advance found
      cases phase <;> cases event <;>
        simp [QueueStep.strands, found, after, excess, counts]
      case leaving.leave granted =>
        cases granted
        all_goals simp [advance, TaskEvent.subtracts, isWaiting, inTransit]; omega
      all_goals simp [advance, TaskEvent.subtracts, isWaiting, inTransit]
      all_goals omega

theorem excess_run (state : NodeRuntimeState) (calls : List QueueStep) :
    state.excess ≤ (run step state calls).excess ∧
      ((run step state calls).excess = state.excess ↔
        Admissible (fun state call => ¬call.strands state) step state calls) := by
  induction calls generalizing state with
  | nil => simp [Admissible]
  | cons call calls ih =>
    obtain ⟨grows, kept⟩ := ih (state.step call)
    rw [run_cons, Admissible, ← kept]
    rw [excess_step] at grows ⊢
    split at grows <;> grind

/-- The counter is right unless a task is on its way out of it, or an abort has struck one that
waited: what that one has added is never subtracted. -/
theorem accurate_run_iff (depth : ℤ) (calls : List QueueStep) :
    (run step { dinQueueDepth := depth } calls).Accurate ↔
      (run step { dinQueueDepth := depth } calls).count inTransit = 0 ∧
        Admissible (fun state call => ¬call.strands state) step { dinQueueDepth := depth }
          calls := by
  obtain ⟨grows, kept⟩ := excess_run { dinQueueDepth := depth } calls
  have fresh : excess { dinQueueDepth := depth } = 0 := by simp [excess, count]
  rw [← kept, fresh]
  generalize run step { dinQueueDepth := depth } calls = state at grows ⊢
  have nonneg : 0 ≤ state.count inTransit :=
    sum_nonneg fun _ _ _ => by split <;> simp
  have refusal : state.tryJoinDinQueue = .refused → state.dinQueueDepth ≤ state.dinWaiters := by
    rw [tryJoinDinQueue]
    split <;> grind
  simp only [Accurate, excess] at *
  grind

/-- The task in a queue of one place is aborted. -/
def abortedWaiting : List QueueStep := [.arrive 0 false, .moves 0 .abort]

/-- The next request is refused though nobody waits. -/
theorem abortedWaiting_not_accurate :
    (run step { dinQueueDepth := 1 } abortedWaiting).tryJoinDinQueue = .refused ∧
      (run step { dinQueueDepth := 1 } abortedWaiting).count isWaiting = 0 ∧
      ¬(run step { dinQueueDepth := 1 } abortedWaiting).Accurate := by
  refine ⟨by decide, by decide, ?_⟩
  simp only [Accurate]
  decide

end NodeRuntimeState

end Teale.Node
