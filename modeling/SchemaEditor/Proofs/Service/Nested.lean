import SchemaEditor.Proofs.Service.Move

/-!
# Nested steps

A step is a request together with what comes back should a validator be called for it, and with
the steps that are made while that validator runs.  So a run of a service is a forest: the steps
made during a step stand below it.  `Service.performAll` makes the steps with `Service.handle`,
as a call of the service makes them, and notes what can be seen: the processes that are called
and the answers, each at its time.

`perform_of_launch` and `perform_of_not_launch` say what one step comes to in terms of its parts;
whatever is said about runs follows from them by induction on the forest.
-/

namespace SchemaEditor

/-- A step: a request, the report of the validator from outside or the outcome of the process,
whichever is called for it, and the steps that are made until it comes back. -/
inductive Step where
  | mk (request : Request) (report : Report) (outcome : Outcome) (during : List Step)

/-- What can be seen of a run. -/
inductive Note where
  /-- A process is called. -/
  | called (call : ProcessCall)
  /-- A request is answered, and these are the documents that are open then. -/
  | answered (request : Request) (answer : Result Answer) (listed : List Summary)
  deriving DecidableEq

namespace Service

/-- A host whose validators come back when the service has been through something. -/
def meanwhileHost (report : Report) (outcome : Outcome)
    (meanwhile : Service → List Note × Service) : Host (List Note) where
  validate _ world := (report, world.1 ++ (meanwhile world.2).1, (meanwhile world.2).2)
  spawn call world :=
    (outcome, world.1 ++ .called call :: (meanwhile world.2).1, (meanwhile world.2).2)

mutual
/-- Makes a step. -/
def perform : Step → Service → List Note × Service
  | .mk request report outcome during, s =>
      let ((notes, s), answer) :=
        s.handle (meanwhileHost report outcome (performAll during)) [] request
      (notes ++ [.answered request answer s.list], s)

/-- Makes steps, one after the other. -/
def performAll : List Step → Service → List Note × Service
  | [], s => ([], s)
  | step :: steps, s =>
      let (notes, s) := perform step s
      let (later, s) := performAll steps s
      (notes ++ later, s)
end

/-! ## One step -/

section Step
variable {s started : Service} {request : Request} {pass : Pass} {path : Text}
variable (report : Report) (outcome : Outcome) (during : List Step)

/-- The report that a service goes by. -/
def reported (s : Service) (report : Report) (outcome : Outcome) : Report :=
  match s.runner with
  | .process validator => validator.report outcome
  | .outside => report

/-- The process that a service calls for a file, if it has a process called. -/
def spawned (s : Service) (path : Text) : List Note :=
  match s.runner with
  | .process validator => [.called (validator.call path)]
  | .outside => []

theorem runValidator_meanwhileHost (meanwhile : Service → List Note × Service) :
    s.runValidator (meanwhileHost report outcome meanwhile) [] path =
      (s.reported report outcome, s.spawned path ++ (meanwhile s).1, (meanwhile s).2) := by
  unfold runValidator reported spawned
  cases s.runner <;> rfl

/-- A step that calls no validator is answered at once, and nothing happens during it. -/
theorem perform_of_not_launch (h : s.launch request = none) :
    perform (.mk request report outcome during) s =
      ([.answered request (machine.answer s request).2 (machine.answer s request).1.list],
        (machine.answer s request).1) := by
  rw [perform, handle_of_not_launch _ _ h]
  rfl

/-- A step that calls a validator: the validator is called, the steps during it are made, and
the report is taken. -/
theorem perform_of_launch (h : s.launch request = some (started, pass, path)) :
    let finished := (performAll during started).2.finishPass pass (started.reported report outcome)
    perform (.mk request report outcome during) s =
      (started.spawned path ++ (performAll during started).1 ++
        [.answered request (finished.2.map .diagnostics) finished.1.list], finished.1) := by
  intro finished
  rw [perform, handle_of_launch _ _ h, runValidator_meanwhileHost]

@[simp] theorem performAll_nil (s : Service) : performAll [] s = ([], s) := rfl

theorem performAll_cons (step : Step) (steps : List Step) (s : Service) :
    performAll (step :: steps) s =
      ((perform step s).1 ++ (performAll steps (perform step s).2).1,
        (performAll steps (perform step s).2).2) := rfl

theorem performAll_append (steps later : List Step) (s : Service) :
    performAll (steps ++ later) s =
      ((performAll steps s).1 ++ (performAll later (performAll steps s).2).1,
        (performAll later (performAll steps s).2).2) := by
  induction steps generalizing s with
  | nil => rfl
  | cons step steps ih =>
    rw [List.cons_append, performAll_cons, performAll_cons, ih]
    simp only [List.append_assoc]

@[simp] theorem performAll_singleton (step : Step) (s : Service) :
    performAll [step] s = perform step s := by
  rw [performAll_cons, performAll_nil, List.append_nil]

end Step

/-! ## What every move keeps -/

/-- A property of services that every move keeps. -/
structure Stable (P : Service → Prop) : Prop where
  move : ∀ {running s id s' b}, Move running s id s' b → P s → P s'

section Stable
variable {P : Service → Prop}

mutual
/-- **What every move keeps, every step keeps**, with all that happens during it. -/
theorem Stable.perform (hP : Stable P) (step : Step) {s : Service} (h : P s) :
    P (perform step s).2 := by
  obtain ⟨request, report, outcome, during⟩ := step
  cases hlaunch : s.launch request with
  | none =>
    obtain ⟨_, _, hmove⟩ := exists_move_of_not_launch hlaunch
    rw [perform_of_not_launch report outcome during hlaunch]
    exact hP.move hmove h
  | some launched =>
    obtain ⟨started, pass, path⟩ := launched
    obtain ⟨_, _, hmove⟩ := exists_move_of_launch hlaunch
    have hback := hP.performAll during (hP.move hmove h)
    obtain ⟨_, _, hfinish⟩ := exists_move_finishPass (Service.performAll during started).2 pass
      (started.reported report outcome)
    rw [perform_of_launch report outcome during hlaunch]
    exact hP.move hfinish hback
termination_by structural step

/-- What every move keeps, every run of steps keeps. -/
theorem Stable.performAll (hP : Stable P) (steps : List Step) {s : Service} (h : P s) :
    P (performAll steps s).2 := by
  cases steps with
  | nil => exact h
  | cons step steps =>
    rw [performAll_cons]
    exact hP.performAll steps (hP.perform step h)
termination_by structural steps
end

end Stable

theorem stable_sound : Stable Sound := ⟨fun hmove h => hmove.sound h⟩

end Service

end SchemaEditor
