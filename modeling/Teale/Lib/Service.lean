import Teale.Lib.Transaction

/-!
# Services

A service answers a request with several transactions; what it has committed stays when a later
step fails. `Performs` says that the state it leaves is that of a run of permitted calls, with one
rule for every way of building a service.
-/

namespace Transactional

universe u v w

abbrev Service (σ ε α : Type u) := ExceptT ε (StateM σ) α

namespace Service

variable {σ ε α β : Type u} {δ : Type w} {service : Service σ ε α} {next : α → Service σ ε β}
  {failure : ε}

def serve (service : Service σ ε α) (start : σ) : Except ε α × σ := (ExceptT.run service).run start

def finish (service : Service σ ε α) (start : σ) : σ := (service.serve start).2

def query (question : σ → Except ε α) : Service σ ε α :=
  ExceptT.mk fun state => (question state, state)

/-- Run one transaction; its failure is translated into the service's. -/
def transact (operation : σ → Except δ (σ × α)) (translate : δ → ε) : Service σ ε α :=
  ExceptT.mk fun state =>
    match operation state with
    | .ok (state', value) => (.ok value, state')
    | .error failure => (.error (translate failure), state)

def perform (operation : σ → Except δ σ) (translate : δ → ε) : Service σ ε PUnit :=
  transact (fun state => (operation state).map fun state' => (state', ⟨⟩)) translate

def attempt (operation : σ → Except δ σ) : Service σ ε PUnit := ExceptT.mk fun state =>
    match operation state with
    | .ok state' => (.ok ⟨⟩, state')
    | .error _ => (.ok ⟨⟩, state)

/-- Continue with the outcome of a computation that does not look at the
state. -/
def outcome (result : Except ε α) : Service σ ε α := query fun _ => result

def refuseIf (condition : Prop) [Decidable condition] (failure : ε) : Service σ ε PUnit :=
  outcome (failIf condition failure)

def require (option : Option α) (failure : ε) : Service σ ε α := outcome (getOr option failure)

theorem serve_bind (service : Service σ ε α) (next : α → Service σ ε β) (start : σ) :
    serve (service >>= next) start =
      match service.serve start with
      | (.ok value, middle) => (next value).serve middle
      | (.error failure, middle) => (.error failure, middle) := by
  change (ExceptT.bindCont next ((ExceptT.run service).run start).1).run
    ((ExceptT.run service).run start).2 = _
  unfold serve
  rcases (ExceptT.run service).run start with ⟨_ | _, _⟩ <;> rfl

theorem serve_bind_of_ok (first : service.serve start = (.ok value, middle)) :
    serve (service >>= next) start = (next value).serve middle := by
  rw [serve_bind, first]

theorem serve_query (question : σ → Except ε α) (start : σ) :
    (query question).serve start = (question start, start) := rfl

theorem serve_transact (operation : σ → Except δ (σ × α)) (translate : δ → ε) (start : σ) :
    (transact operation translate).serve start =
      match operation start with
      | .ok (state', value) => (.ok value, state')
      | .error failure => (.error (translate failure), start) := rfl

theorem serve_perform (operation : σ → Except δ σ) (translate : δ → ε) (start : σ) :
    (perform operation translate).serve start =
      match operation start with
      | .ok state => (.ok ⟨⟩, state)
      | .error failure => (.error (translate failure), start) := by
  rw [perform, serve_transact]
  cases operation start <;> rfl

/-! ## The calls of a service -/

section Performs

variable {ι : Type v} {execute : σ → ι → Except δ σ} {permitted : σ → ι → Prop} {start : σ}
  {post : α → σ → Prop} {operation : σ → Except δ σ}

/-- From the given state, the service makes permitted calls only, and what it
returns satisfies the postcondition in the state it leaves. -/
structure Performs
    (execute : σ → ι → Except δ σ) (permitted : σ → ι → Prop)
    (service : Service σ ε α) (start : σ) (post : α → σ → Prop) : Prop where
  calls : ∃ calls, service.finish start = run (commit execute) start calls ∧
    Admissible permitted (commit execute) start calls
  returned : ∀ value, (service.serve start).1 = .ok value → post value (service.finish start)

theorem Performs.of_unchanged (unchanged : service.finish start = start)
    (ran : ∀ value, (service.serve start).1 = .ok value → post value start) :
    Performs execute permitted service start post :=
  ⟨⟨[], unchanged, trivial⟩, fun value isOk => by
    rw [unchanged]
    exact ran value isOk⟩

theorem Performs.pure {value : α} (holds : post value start) :
    Performs execute permitted (Pure.pure value : Service σ ε α) start post :=
  .of_unchanged rfl fun _ isOk => Except.ok.inj isOk ▸ holds

theorem Performs.throw :
    Performs execute permitted (MonadExcept.throw failure : Service σ ε α) start post :=
  .of_unchanged rfl fun _ isOk => nomatch isOk

theorem Performs.query : Performs execute permitted (query question) start
      fun value state => question start = .ok value ∧ state = start :=
  .of_unchanged rfl fun _ isOk => ⟨isOk, rfl⟩

theorem Performs.outcome {result : Except ε α} : Performs execute permitted (outcome result) start
      fun value state => result = .ok value ∧ state = start :=
  .query

theorem Performs.refuseIf {condition : Prop} [Decidable condition] :
    Performs execute permitted (refuseIf condition failure) start
      fun _ state => ¬ condition ∧ state = start :=
  .of_unchanged rfl fun _ isOk => ⟨failIf_eq_ok.mp isOk, rfl⟩

theorem Performs.require : Performs execute permitted (require option failure) start
      fun value state => option = some value ∧ state = start :=
  .of_unchanged rfl fun _ isOk => ⟨getOr_eq_ok.mp isOk, rfl⟩

theorem Performs.transact {operation : σ → Except δ (σ × α)} {translate : δ → ε} (call : ι)
    (executes : execute start call = Prod.fst <$> operation start)
    (isPermitted : permitted start call) :
    Performs execute permitted (transact operation translate) start
      fun value state => operation start = .ok (state, value) := by
  cases outcome : operation start with
  | error failure =>
    have unchanged : serve (Service.transact operation translate) start =
        (.error (translate failure), start) := by
      rw [serve_transact, outcome]
    refine .of_unchanged (by rw [finish, unchanged]) fun value isOk => ?_
    rw [unchanged] at isOk
    exact nomatch isOk
  | ok result =>
    obtain ⟨state, value⟩ := result
    have moves : serve (Service.transact operation translate) start = (.ok value, state) := by
      rw [serve_transact, outcome]
    have committed : commit execute start call = state :=
      commit_of_ok (by rw [executes, outcome]; rfl)
    refine ⟨⟨[call], ?_, isPermitted, trivial⟩, ?_⟩
    · rw [finish, moves, run_cons, run_nil, committed]
    · intro value' isOk
      rw [moves] at isOk
      rw [finish, moves, Except.ok.inj isOk]

theorem Performs.mono {weaker : α → σ → Prop}
    (performs : Performs execute permitted service start post)
    (implied : ∀ value state, post value state → weaker value state) :
    Performs execute permitted service start weaker :=
  ⟨performs.calls, fun value isOk => implied value _ (performs.returned value isOk)⟩

theorem Performs.drop (performs : Performs execute permitted service start post) :
    Performs execute permitted service start fun _ _ => True :=
  performs.mono fun _ _ _ => trivial

theorem Performs.perform {translate : δ → ε} (call : ι)
    (executes : execute start call = operation start) (isPermitted : permitted start call) :
    Performs execute permitted (perform operation translate) start
      fun _ state => operation start = .ok state := by
  refine (Performs.transact call ?_ isPermitted).mono ?_
  · rw [executes]
    cases operation start <;> rfl
  · intro value state ran
    cases outcome : operation start with
    | error failure => simp [outcome, Except.map] at ran
    | ok state' =>
      rw [outcome] at ran
      exact congrArg Except.ok (congrArg Prod.fst (Except.ok.inj ran))

theorem Performs.attempt (call : ι)
    (executes : execute start call = operation start) (isPermitted : permitted start call) :
    Performs execute permitted (attempt operation : Service σ ε PUnit) start fun _ _ => True := by
  refine ⟨⟨[call], ?_, isPermitted, trivial⟩, fun _ _ => trivial⟩
  change (match operation start with
    | .ok state' => ((Except.ok ⟨⟩ : Except ε PUnit), state')
    | .error _ => (.ok ⟨⟩, start)).2 = commit execute start call
  unfold commit
  rw [executes]
  cases operation start <;> rfl

theorem Performs.bind {middlePost : α → σ → Prop} {post : β → σ → Prop}
    (first : Performs execute permitted service start middlePost)
    (rest : ∀ value middle, middlePost value middle →
      Performs execute permitted (next value) middle post) :
    Performs execute permitted (service >>= next) start post := by
  obtain ⟨⟨calls, reaches, admissible⟩, ran⟩ := first
  have served := serve_bind service next start
  rw [finish] at reaches ran
  rcases outcome : service.serve start with ⟨_ | value, middle⟩ <;>
    rw [outcome] at served reaches ran
  · refine ⟨⟨calls, by rw [finish, served]; exact reaches, admissible⟩, ?_⟩
    intro _ isOk
    rw [served] at isOk
    exact nomatch isOk
  · obtain ⟨⟨later, laterReaches, laterAdmissible⟩, laterReturned⟩ :=
      rest value middle (ran value rfl)
    subst reaches
    refine ⟨⟨calls ++ later, ?_, admissible_append.mpr ⟨admissible, laterAdmissible⟩⟩, ?_⟩
    · rw [run_append, finish, served]
      exact laterReaches
    · rw [finish, served]
      exact laterReturned

theorem Performs.answer {middlePost : α → σ → Prop} {post : β → σ → Prop} {respond : α → β}
    (first : Performs execute permitted service start middlePost)
    (holds : ∀ value state, middlePost value state → post (respond value) state) :
    Performs execute permitted (service >>= fun value => Pure.pure (respond value)) start post :=
  first.bind fun value state found => .pure (holds value state found)

/-- What follows a check starts where the check did, and may use what it found. -/
theorem Performs.after {found : α → Prop} {post : β → σ → Prop}
    (check : Performs execute permitted service start fun value state =>
      found value ∧ state = start)
    (rest : ∀ value, found value → Performs execute permitted (next value) start post) :
    Performs execute permitted (service >>= next) start post :=
  check.bind fun value _ ⟨isFound, unchanged⟩ => unchanged ▸ rest value isFound

theorem Performs.invariant
    (performs : Performs execute permitted service start post) (invariant : σ → Prop)
    (preserved : ∀ state call state', permitted state call → invariant state →
      execute state call = .ok state' → invariant state')
    (initially : invariant start) : invariant (service.finish start) := by
  obtain ⟨calls, reaches, admissible⟩ := performs.calls
  rw [reaches]
  exact run_commit_invariant invariant preserved initially admissible

end Performs

end Service

end Transactional
