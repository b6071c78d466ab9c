import Teale.Lib.Transaction

/-!
# Outcomes of requests

A request runs in a task of its own. Who spawns the task stores its handle under the session of the
request, the task removes it at its end, and closing the session takes it to abort the task.
-/

namespace Teale.Node

open Transactional

/-- A task that is `counted` is still to remove its handle. An aborted one is `dropped` where it
awaits. -/
inductive Stage
  | running
  | counted
  | ended
  | dropped
  deriving DecidableEq, Repr

structure InferenceTask where
  session : String
  stage : Stage := .running
  stored : Bool := false
  aborted : Bool := false
  deriving DecidableEq, Repr

/-- `outcomes` are the additions to `completed_requests`, of `true`, and to `failed_requests`, each
with its request. -/
structure InferenceTasks where
  handles : String → Option ℕ := fun _ => none
  tasks : ℕ → Option InferenceTask := fun _ => none
  outcomes : List (ℕ × Bool) := []

/-- `close` is `abort_session`. The loss of a peer or of the connection closes one session after the
other. -/
inductive TaskStep
  | spawn (id : ℕ) (session : String)
  | store (id : ℕ)
  | finish (id : ℕ) (completed : Bool)
  | remove (id : ℕ)
  | drop (id : ℕ)
  | close (session : String)

namespace InferenceTasks

def on (state : InferenceTasks) (id : ℕ) (may : InferenceTask → Bool)
    (act : InferenceTask → InferenceTasks) : InferenceTasks :=
  match state.tasks id with
  | some task => if may task then act task else state
  | none => state

def set (state : InferenceTasks) (id : ℕ) (task : InferenceTask) (other : ℕ) :
    Option InferenceTask :=
  if other = id then some task else state.tasks other

def setHandle (state : InferenceTasks) (session : String) (handle : Option ℕ) (other : String) :
    Option ℕ :=
  if other = session then handle else state.handles other

def abortOneLocked (state : InferenceTasks) (session : String) : InferenceTasks :=
  match state.handles session with
  | some id => state.on id (fun _ => true) fun task =>
    { handles := state.setHandle session none
      tasks := state.set id { task with aborted := true }
      outcomes := (id, false) :: state.outcomes }
  | none => state

def step (state : InferenceTasks) : TaskStep → InferenceTasks
  | .spawn id session =>
    if state.tasks id = none then { state with tasks := state.set id { session } } else state
  | .store id => state.on id (!·.stored) fun task =>
    { state with
      handles := state.setHandle task.session (some id)
      tasks := state.set id { task with stored := true } }
  -- an abort does not stop a task before its next `await`
  | .finish id completed => state.on id (·.stage = .running) fun task =>
    { state with
      tasks := state.set id { task with stage := .counted }
      outcomes := (id, completed) :: state.outcomes }
  | .remove id => state.on id (·.stage = .counted) fun task =>
    { state with
      handles := state.setHandle task.session none
      tasks := state.set id { task with stage := .ended } }
  | .drop id => state.on id (fun task => task.stage = .running && task.aborted) fun task =>
    { state with tasks := state.set id { task with stage := .dropped } }
  | .close session => state.abortOneLocked session

/-- What a request contributes to `completed_requests + failed_requests`. -/
def contributed (state : InferenceTasks) (id : ℕ) : ℕ := (state.outcomes.map (·.1)).count id

def Runs (state : InferenceTasks) (session : String) (id : ℕ) : Prop :=
  ∃ task, state.tasks id = some task ∧ task.session = session ∧ task.stage = .running ∧
    ¬task.aborted

def Aborted (state : InferenceTasks) (id : ℕ) : Prop :=
  ∃ task, state.tasks id = some task ∧ task.aborted

def Settled (state : InferenceTasks) : Prop :=
  ∀ id task, state.tasks id = some task → task.stage ≠ .running → state.contributed id = 1

/-- A close aborts the requests that run for the session, and no other. -/
def Closes (state : InferenceTasks) : TaskStep → Prop
  | .close session => ∀ id,
    (state.step (.close session)).Aborted id ↔ state.Aborted id ∨ state.Runs session id
  | _ => True

/-- A session is closed while its handle is that of the one task that runs for it, if any runs, and
no task finishes that was aborted. -/
def Orderly (state : InferenceTasks) : TaskStep → Prop
  | .close session => ∀ id, state.handles session = some id ↔ state.Runs session id
  | .finish id _ => ∀ task, state.tasks id = some task → task.stage = .running → ¬task.aborted
  | _ => True

/-- The outcomes of a task: its own and that of its abort. -/
def due : Option InferenceTask → ℕ
  | some task =>
    (if task.stage = .counted ∨ task.stage = .ended then 1 else 0) + if task.aborted then 1 else 0
  | none => 0

structure Sound (state : InferenceTasks) : Prop where
  counts : ∀ id, state.contributed id = due (state.tasks id)
  aborted : ∀ id task, state.tasks id = some task →
    (task.aborted → task.stored) ∧ (task.stage = .dropped → task.aborted)
  handles : ∀ session id, state.handles session = some id →
    ∃ task, state.tasks id = some task ∧ task.session = session ∧ task.stored ∧ ¬task.aborted

def Once (state : InferenceTasks) : Prop := ∀ id, due (state.tasks id) ≤ 1

variable {state : InferenceTasks}

@[elab_as_elim]
theorem on_cases {motive : InferenceTasks → Prop} {id : ℕ} {may : InferenceTask → Bool}
    {act : InferenceTask → InferenceTasks} (unchanged : motive state)
    (acts : ∀ task, state.tasks id = some task → may task → motive (act task)) :
    motive (state.on id may act) := by
  unfold on
  split
  · split
    · exact acts _ ‹_› ‹_›
    · exact unchanged
  · exact unchanged

theorem sound_step (sound : state.Sound) (call : TaskStep) : (state.step call).Sound := by
  have ⟨counts, aborted, handles⟩ := sound
  cases call with
  | spawn id session =>
    rw [step]
    split
    · constructor <;> grind [contributed, set, due]
    · exact sound
  | close session =>
    rw [step, abortOneLocked]
    split
    · refine on_cases sound fun task found _ => ?_
      constructor <;> grind [contributed, set, setHandle, due]
    · exact sound
  | _ =>
    rw [step]
    refine on_cases sound fun task found may => ?_
    constructor <;> grind [contributed, set, setHandle, due]

theorem once_iff (id : ℕ) : state.Once ↔
    due (state.tasks id) ≤ 1 ∧ ∀ other, other ≠ id → due (state.tasks other) ≤ 1 := by
  grind [Once]

theorem once_set {id : ℕ} {task : InferenceTask} {handles : String → Option ℕ}
    {outcomes : List (ℕ × Bool)} : Once ⟨handles, state.set id task, outcomes⟩ ↔
      due (some task) ≤ 1 ∧ ∀ other, other ≠ id → due (state.tasks other) ≤ 1 := by
  rw [once_iff id]
  simp +contextual [set]

section

variable (sound : state.Sound)

include sound

theorem closes_iff (session : String) : state.Closes (.close session) ↔
    ∀ id, state.handles session = some id ↔ state.Runs session id := by
  simp only [Closes, step, abortOneLocked]
  split
  case h_1 id isHandle =>
    obtain ⟨task, found, isSession, -, live⟩ := sound.handles session id isHandle
    simp only [on, found, if_true, Aborted, Runs, isHandle]
    refine forall_congr' fun other => ?_
    grind [set]
  case h_2 noHandle =>
    refine forall_congr' fun id => ?_
    grind [Aborted, Runs]

theorem closes_step (call : TaskStep) :
    state.Closes call ∧ (state.step call).Once ↔ state.Once ∧ state.Orderly call := by
  cases call with
  | spawn id session =>
    simp only [Closes, Orderly, true_and, and_true, step]
    split
    · rw [once_set, once_iff id]
      grind [due]
    · rfl
  | close session =>
    rw [closes_iff sound, and_comm]
    refine and_congr_left fun orderly => ?_
    rw [step, abortOneLocked]
    split
    case h_1 id isHandle =>
      obtain ⟨task, found, -, running, live⟩ := (orderly id).mp isHandle
      simp only [on, found, if_true, once_set]
      rw [once_iff id]
      grind [due]
    case h_2 => rfl
  | finish id completed =>
    simp only [Closes, Orderly, true_and, step, on]
    split
    · split
      · rw [once_set, once_iff id]
        grind [due]
      · grind
    · grind
  | store id | remove id | drop id =>
    simp only [Closes, Orderly, true_and, and_true, step]
    refine on_cases Iff.rfl fun task found may => ?_
    rw [once_set, once_iff id]
    grind [due]

theorem settled_iff : state.Settled ↔ state.Once := by
  simp only [Settled, Once, sound.counts]
  refine forall_congr' fun id => ?_
  cases found : state.tasks id with
  | none => simp [due]
  | some task =>
    have dropped := (sound.aborted id task found).2
    cases isStage : task.stage <;> grind [due]

theorem settled_run (calls : List TaskStep) :
    (run step state calls).Settled ∧ Admissible Closes step state calls ↔
      state.Once ∧ Admissible Orderly step state calls := by
  induction calls generalizing state with
  | nil => simp only [run_nil, Admissible, and_true, settled_iff sound]
  | cons call calls ih =>
    rw [run_cons, Admissible, Admissible, and_left_comm, ih (sound_step sound call), ← and_assoc,
      closes_step sound call, and_assoc]

end

/-- Requests that run no more have one outcome each, and sessions were closed as they should, if
the steps were orderly, and only then. -/
theorem settled_and_closes_iff (calls : List TaskStep) :
    (run step {} calls).Settled ∧ Admissible Closes step {} calls ↔
      Admissible Orderly step {} calls := by
  have initially : Sound {} := ⟨by simp [contributed, due], nofun, nofun⟩
  rw [settled_run initially, and_iff_right (by simp [Once, due])]

/-- The handle of the first request is replaced by that of the second. -/
def twoOfOneSession : List TaskStep := [.spawn 0 "a", .store 0, .spawn 1 "a", .store 1]

theorem twoOfOneSession_not_closed :
    (run step {} twoOfOneSession).Runs "a" 0 ∧
      ¬((run step {} twoOfOneSession).step (.close "a")).Aborted 0 := by
  refine ⟨⟨_, rfl, rfl, rfl, by decide⟩, ?_⟩
  rintro ⟨task, found, aborted⟩
  cases found
  exact absurd aborted (by decide)

end InferenceTasks

end Teale.Node
