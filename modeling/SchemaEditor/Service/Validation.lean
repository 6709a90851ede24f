import SchemaEditor.Service.Basic

/-!
# Validation

A validation pass starts (`startPass`), has the validator check the file, and
finishes with its report (`finishPass`).  While the validator runs, the service
goes on answering requests, further passes included.  So a pass is a number of
its document's session, and what it reports is taken only if that session has
given out no later number.

The world outside the service is a `Host`: it runs validators and processes, and
whatever happens to the service in the meantime is part of what it gives back.
-/

namespace SchemaEditor

/-- A pass that is under way. -/
structure Pass where
  id : Text
  /-- The opening of its document. -/
  opening : Nat
  /-- Its number in the session of the document. -/
  generation : Nat
  deriving DecidableEq, Repr

/-- How a pass starts. -/
inductive PassStart where
  /-- There is nothing to do, and this is the answer. -/
  | answered (diagnostics : List Diagnostic)
  /-- The output of a validator is there already. -/
  | reported (pass : Pass) (output : Text)
  /-- The file at a path is to be validated. -/
  | running (pass : Pass) (path : Text)
  deriving DecidableEq, Repr

/-- The world outside a service, with a state of its own.  Both functions give
back what became of that state and of the service while they ran. -/
structure Host (σ : Type) where
  /-- Has a validator from outside check the file at a path. -/
  validate : Text → σ × Service → Report × (σ × Service)
  /-- Runs a process. -/
  spawn : ProcessCall → σ × Service → Outcome × (σ × Service)

/-- The document after a report.  The report of a stale pass changes no
diagnostics. -/
def OpenDocument.conclude (d : OpenDocument) (generation : Nat) (report : Report) : OpenDocument :=
  match report with
  | .error _ => { d with session := d.session.publish generation [], fixes := [] }
  | .ok output =>
      if d.session.accepts generation then
        { d with
          session := d.session.publish generation (diagnose output d.document.lines)
          fixes := [] }
      else d

namespace Service
variable (s : Service)

/-- Starts a pass.  With an output at hand no validator is needed.  Without one,
nothing happens if validation is off, and a document without a file loses its
diagnostics. -/
def startPass (id : Text) (output : Option Text) : Service × Result PassStart :=
  match s.find id with
  | .error e => (s, .error e)
  | .ok d =>
      let started := s.put id { d with session := d.session.start }
      let pass : Pass := ⟨id, d.opening, d.session.generation + 1⟩
      match output with
      | some output => (started, .ok (.reported pass output))
      | none =>
          if s.settings.enabled then
            match d.document.path with
            | some (c :: path) => (started, .ok (.running pass (c :: path)))
            | _ => (s.put id d.clear, .ok (.answered []))
          else (s, .ok (.answered d.session.diagnostics))

/-- Finishes a pass with a report, if its document is still open as it was, and
answers with the diagnostics of the document that is open then. -/
def finishPass (pass : Pass) (report : Report) : Service × Result (List Diagnostic) :=
  let finished :=
    match s.find pass.id with
    | .ok d =>
        if d.opening = pass.opening then s.put pass.id (d.conclude pass.generation report) else s
    | .error _ => s
  (finished, finished.diagnosticsOf pass.id)

/-- The report on a file by the runner of the service, and what became of the world
meanwhile. -/
def runValidator {σ : Type} (host : Host σ) (env : σ) (path : Text) : Report × (σ × Service) :=
  match s.runner with
  | .process validator =>
      let (outcome, world) := host.spawn (validator.call path) (env, s)
      (validator.report outcome, world)
  | .outside => host.validate path (env, s)

/-- Validates a document and answers with its diagnostics. -/
def validate {σ : Type} (host : Host σ) (env : σ) (id : Text) (output : Option Text) :
    (σ × Service) × Result (List Diagnostic) :=
  match s.startPass id output with
  | (s, .error e) => ((env, s), .error e)
  | (s, .ok (.answered diagnostics)) => ((env, s), .ok diagnostics)
  | (s, .ok (.reported pass output)) =>
      let (s, answer) := s.finishPass pass (.ok (some output))
      ((env, s), answer)
  | (s, .ok (.running pass path)) =>
      let (report, env, s) := s.runValidator host env path
      let (s, answer) := s.finishPass pass report
      ((env, s), answer)

end Service

end SchemaEditor
