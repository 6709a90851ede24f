import SchemaEditor.Proofs.Entries
import SchemaEditor.Service.Request

/-!
# Traffic

While a validator runs, a service answers other requests, and further validators may be
called before the first one reports.  Traffic is a service together with the passes
whose validators are running.  It moves by events: a request comes in (`Event.ask`), or
a validator that is running reports (`Event.report`), in any order.  A request that calls
a validator is not answered when it comes in but when the report does.

What a service does at an event is a `Machine`, so that one notion of a run serves every
service.  The machine of the service itself (`Service.machine`) is made of the parts of
`Service.handle`: a validation whose host does nothing but answer requests in the
meantime is the run that starts with the request, goes on with these events, and ends
with the report (`Service.handle_eq_run`).
-/

namespace SchemaEditor

/-- An event of the traffic of a service. -/
inductive Event where
  /-- A request comes in. -/
  | ask (request : Request)
  /-- The validator of a pass reports. -/
  | report (pass : Pass) (report : Report)
  deriving DecidableEq

/-- What a service says at an event. -/
inductive Reply where
  /-- A request is answered. -/
  | answered (answer : Result Answer)
  /-- A validator is called on the file at a path; its pass is answered later. -/
  | calls (pass : Pass) (path : Text)
  /-- A report came from a validator that was not running. -/
  | ignored
  deriving DecidableEq

/-- The diagnostics that a report stands for. -/
def Report.diagnostics (report : Report) (lines : List Text) : List Diagnostic :=
  match report with
  | .error _ => []
  | .ok output => diagnose output lines

/-- A service and the passes whose validators are running. -/
structure Traffic (S : Type) where
  service : S
  running : List Pass
  deriving DecidableEq

/-- The traffic with its service in another form. -/
def Traffic.map {S S' : Type} (f : S → S') (t : Traffic S) : Traffic S' := ⟨f t.service, t.running⟩

/-- What a service does at an event. -/
structure Machine (S : Type) where
  /-- The start of a pass that calls a validator on a path, if the request asks for one. -/
  launch : S → Request → Option (S × Pass × Text)
  /-- The answer to a request that calls no validator. -/
  answer : S → Request → S × Result Answer
  /-- The end of a pass. -/
  finish : S → Pass → Report → S × Result (List Diagnostic)

namespace Machine
variable {S : Type} (m : Machine S) (t : Traffic S)

/-- One event. -/
def step : Event → Traffic S × Reply
  | .ask request =>
      match m.launch t.service request with
      | some (s, pass, path) => (⟨s, t.running ++ [pass]⟩, .calls pass path)
      | none =>
          let (s, answer) := m.answer t.service request
          (⟨s, t.running⟩, .answered answer)
  | .report pass report =>
      if pass ∈ t.running then
        let (s, answer) := m.finish t.service pass report
        (⟨s, t.running.erase pass⟩, .answered (answer.map .diagnostics))
      else (t, .ignored)

/-- The traffic after events. -/
def run (events : List Event) : Traffic S := events.foldl (fun t e => (m.step t e).1) t

/-- What the service says at each event. -/
def replies : Traffic S → List Event → List Reply
  | _, [] => []
  | t, e :: events => (m.step t e).2 :: replies (m.step t e).1 events

@[simp] theorem run_nil : m.run t [] = t := rfl

@[simp] theorem run_cons (e : Event) (events : List Event) :
    m.run t (e :: events) = m.run (m.step t e).1 events := rfl

@[simp] theorem run_append (events events' : List Event) :
    m.run t (events ++ events') = m.run (m.run t events) events' := by
  simp [run]

variable {m t}

theorem step_ask_of_launch {request : Request} {s : S} {pass : Pass} {path : Text}
    (h : m.launch t.service request = some (s, pass, path)) :
    m.step t (.ask request) = (⟨s, t.running ++ [pass]⟩, .calls pass path) := by
  simp only [step, h]

theorem step_ask_of_not_launch {request : Request} (h : m.launch t.service request = none) :
    m.step t (.ask request) = (⟨(m.answer t.service request).1, t.running⟩,
      .answered (m.answer t.service request).2) := by
  simp only [step, h]

theorem step_report_of_mem {pass : Pass} {report : Report} (h : pass ∈ t.running) :
    m.step t (.report pass report) = (⟨(m.finish t.service pass report).1, t.running.erase pass⟩,
      .answered ((m.finish t.service pass report).2.map .diagnostics)) := by
  simp only [step, if_pos h]

theorem step_report_of_not_mem {pass : Pass} {report : Report} (h : pass ∉ t.running) :
    m.step t (.report pass report) = (t, .ignored) := by
  simp only [step, if_neg h]

/-- What every event keeps, every run keeps. -/
theorem run_induction {P : Traffic S → Prop} (hstep : ∀ t e, P t → P (m.step t e).1)
    (events : List Event) (h : P t) : P (m.run t events) := by
  induction events generalizing t with
  | nil => exact h
  | cons e events ih => exact ih (hstep t e h)

/-- **A service in another form** that does the same part by part does the same at every
event. -/
theorem step_map {S' : Type} {m' : Machine S'} {f : S → S'}
    (hlaunch : ∀ request, m'.launch (f t.service) request =
      (m.launch t.service request).map fun (s, pass, path) => (f s, pass, path))
    (hanswer : ∀ request, m.launch t.service request = none →
      m'.answer (f t.service) request =
        (f (m.answer t.service request).1, (m.answer t.service request).2))
    (hfinish : ∀ pass report, m'.finish (f t.service) pass report =
      (f (m.finish t.service pass report).1, (m.finish t.service pass report).2))
    (e : Event) : m'.step (t.map f) e = ((m.step t e).1.map f, (m.step t e).2) := by
  cases e with
  | ask request =>
    have hask := hlaunch request
    cases hl : m.launch t.service request with
    | some started =>
      obtain ⟨s, pass, path⟩ := started
      rw [hl] at hask
      rw [step_ask_of_launch hl, step_ask_of_launch (t := t.map f) hask]
      rfl
    | none =>
      rw [hl] at hask
      rw [step_ask_of_not_launch hl, step_ask_of_not_launch (t := t.map f) hask, Traffic.map,
        hanswer request hl]
      rfl
  | report pass report =>
    by_cases hrun : pass ∈ t.running
    · rw [step_report_of_mem hrun, step_report_of_mem (t := t.map f) hrun, Traffic.map,
        hfinish pass report]
      rfl
    · rw [step_report_of_not_mem hrun, step_report_of_not_mem (t := t.map f) hrun]

end Machine

/-! ## The service -/

/-- A host that nothing is expected of. -/
def Host.idle : Host Unit := ⟨fun _ world => (.ok none, world), fun _ world => (.notFound, world)⟩

namespace Service

/-- The start of the pass that a request asks for, if its validator is to be called. -/
def launch (s : Service) : Request → Option (Service × Pass × Text)
  | .validate id none =>
      match s.startPass id none with
      | (started, .ok (.running pass path)) => some (started, pass, path)
      | _ => none
  | _ => none

/-- The service as a machine. -/
def machine : Machine Service where
  launch := launch
  answer s request :=
    let ((_, s), answer) := s.handle Host.idle () request
    (s, answer)
  finish := finishPass

/-- The traffic of a service that has just been started. -/
def idleTraffic (settings : Settings) (ownsValidator : Bool) : Traffic Service :=
  ⟨initial settings ownsValidator, []⟩

/-- Traffic that a service comes to. -/
def Reachable (t : Traffic Service) : Prop :=
  ∃ settings ownsValidator events, t = machine.run (idleTraffic settings ownsValidator) events

theorem Reachable.run {t : Traffic Service} (h : Reachable t) (events : List Event) :
    Reachable (machine.run t events) := by
  obtain ⟨settings, owns, before, rfl⟩ := h
  exact ⟨settings, owns, before ++ events, by rw [Machine.run_append]⟩

variable {s started : Service} {pass : Pass} {path : Text} {request : Request}

theorem launch_eq_some_iff : s.launch request = some (started, pass, path) ↔
    ∃ id, request = .validate id none ∧
      s.startPass id none = (started, .ok (.running pass path)) := by
  constructor
  · intro h
    unfold launch at h
    split at h
    · rename_i id
      split at h
      · rename_i hstart
        obtain ⟨rfl, rfl, rfl⟩ := by simpa using h
        exact ⟨id, rfl, hstart⟩
      · cases h
    · cases h
  · rintro ⟨id, rfl, hstart⟩
    simp only [launch, hstart]

/-- Only a pass without an output at hand has a validator called. -/
theorem launch_validate {id : Text} {output : Option Text}
    (h : s.startPass id output = (started, .ok (.running pass path))) :
    s.launch (.validate id output) = some (started, pass, path) := by
  cases output with
  | none => exact launch_eq_some_iff.mpr ⟨id, rfl, h⟩
  | some output =>
    unfold startPass at h
    split at h <;> cases h

/-! ## Single requests -/

section Requests
variable (t : Traffic Service) (id : Text) (i j : Int)

theorem step_fixes : machine.step t (.ask (.fixes id i)) =
    (⟨(t.service.fixesFor id i).1, t.running⟩,
      .answered ((t.service.fixesFor id i).2.map .fixes)) := rfl

theorem step_applyFix : machine.step t (.ask (.applyFix id i j)) =
    (⟨(t.service.applyFix id i j).1, t.running⟩,
      .answered ((t.service.applyFix id i j).2.map .applied)) := rfl

end Requests

/-- A request that succeeds has an answer. -/
theorem exists_of_isOk {α : Type} {r : Result α} (h : r.isOk = true) : ∃ a, r = .ok a := by
  cases r with
  | ok a => exact ⟨a, rfl⟩
  | error e => cases h

/-! ## The host -/

section Host
variable {σ : Type} (host : Host σ) (env : σ)

/-- A validation that calls a validator is answered by its report. -/
theorem validate_of_running {id : Text}
    (h : s.startPass id none = (started, .ok (.running pass path))) :
    s.validate host env id none =
      (((started.runValidator host env path).2.1,
          ((started.runValidator host env path).2.2.finishPass pass
            (started.runValidator host env path).1).1),
        ((started.runValidator host env path).2.2.finishPass pass
            (started.runValidator host env path).1).2) := by
  simp only [validate, h]

/-- A request that calls a validator is answered by its report. -/
theorem handle_of_launch (h : s.launch request = some (started, pass, path)) :
    handle host env s request =
      (((started.runValidator host env path).2.1,
          ((started.runValidator host env path).2.2.finishPass pass
            (started.runValidator host env path).1).1),
        (((started.runValidator host env path).2.2.finishPass pass
            (started.runValidator host env path).1).2.map .diagnostics)) := by
  obtain ⟨id, rfl, hstart⟩ := launch_eq_some_iff.mp h
  simp only [handle, validate_of_running host env hstart]

/-- A request that calls no validator is answered without the host. -/
theorem handle_of_not_launch (h : s.launch request = none) :
    handle host env s request =
      ((env, (machine.answer s request).1), (machine.answer s request).2) := by
  cases request with
  | validate id output =>
    simp only [machine, handle, validate]
    rcases hstart : s.startPass id output with ⟨started, result⟩
    cases result with
    | error e => rfl
    | ok start =>
      cases start with
      | answered ds => rfl
      | reported pass output => rfl
      | running pass path => cases (launch_validate hstart).symm.trans h
  | _ => rfl

/-- **A call of the service is a run.**  While the validator is running the host may have
the service answer anything; if that is the run of some events, in which the pass
itself does not report, then the call is the run of the request, these events and the
report. -/
theorem handle_eq_run {running : List Pass} {meanwhile : List Event}
    (h : s.launch request = some (started, pass, path))
    (hmeanwhile : (started.runValidator host env path).2.2 =
      (machine.run ⟨started, running ++ [pass]⟩ meanwhile).service)
    (hpass : pass ∈ (machine.run ⟨started, running ++ [pass]⟩ meanwhile).running) :
    (handle host env s request).1.2 =
        (machine.run ⟨s, running⟩ (.ask request :: meanwhile ++
          [.report pass (started.runValidator host env path).1])).service ∧
      machine.step (machine.run ⟨s, running⟩ (.ask request :: meanwhile))
          (.report pass (started.runValidator host env path).1) =
        (machine.run ⟨s, running⟩ (.ask request :: meanwhile ++
            [.report pass (started.runValidator host env path).1]),
          .answered (handle host env s request).2) := by
  have hask : (machine.step ⟨s, running⟩ (.ask request)).1 = ⟨started, running ++ [pass]⟩ := by
    rw [Machine.step_ask_of_launch (m := machine) (t := ⟨s, running⟩) h]
  have hrun : machine.run ⟨s, running⟩ (.ask request :: meanwhile) =
      machine.run ⟨started, running ++ [pass]⟩ meanwhile := by
    rw [Machine.run_cons, hask]
  rw [Machine.run_append, hrun, Machine.run_cons, Machine.run_nil,
    Machine.step_report_of_mem hpass, handle_of_launch host env h, hmeanwhile]
  exact ⟨rfl, rfl⟩

end Host

/-- A host whose validators report when the service has been through some events. -/
def busyHost (running : List Pass) (meanwhile : List Event) (report : Report)
    (outcome : Outcome) : Host Unit where
  validate _ world := (report, (), (machine.run ⟨world.2, running⟩ meanwhile).service)
  spawn _ world := (outcome, (), (machine.run ⟨world.2, running⟩ meanwhile).service)

/-- Any events whatever can happen while a validator runs. -/
theorem runValidator_busyHost (s : Service) (running : List Pass) (meanwhile : List Event)
    (report : Report) (outcome : Outcome) (path : Text) :
    (s.runValidator (busyHost running meanwhile report outcome) () path).2.2 =
      (machine.run ⟨s, running⟩ meanwhile).service := by
  unfold runValidator
  cases s.runner <;> rfl

end Service

end SchemaEditor
