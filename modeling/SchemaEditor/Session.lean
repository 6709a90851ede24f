import SchemaEditor.Diagnostic.Basic

/-!
# Diagnostic sessions

A session keeps the diagnostics of one document while validation passes may
overlap.  A pass takes a number from `start` and quotes it when it publishes;
`publish` takes the diagnostics only if no pass was started and nothing was
cleared since, and then they replace the earlier ones as a whole.
-/

namespace SchemaEditor

/-- The current diagnostics and the number given out last. -/
structure Session where
  generation : Nat := 0
  diagnostics : List Diagnostic := []
  deriving DecidableEq, Repr

namespace Session
variable (s : Session)

/-- A session without diagnostics. -/
def fresh : Session := {}

/-- Starts a pass: every earlier one becomes stale.  The new generation is the
number of the pass. -/
def start : Session := { s with generation := s.generation + 1 }

/-- A pass may still publish. -/
def accepts (generation : Int) : Bool := generation == (s.generation : Int)

/-- Replaces the diagnostics if the pass is not stale. -/
def publish (generation : Int) (ds : List Diagnostic) : Session :=
  if s.accepts generation then { s with diagnostics := ds } else s

/-- Forgets the diagnostics and makes every pass stale. -/
def clear : Session := { generation := s.generation + 1, diagnostics := [] }

variable {s} in
/-- A pass may publish if the session has given out no later number. -/
theorem accepts_iff {generation : Nat} :
    s.accepts generation = true ↔ s.generation = generation := by
  rw [accepts, beq_iff_eq]
  omega

@[simp] theorem start_generation : s.start.generation = s.generation + 1 := rfl

@[simp] theorem start_diagnostics : s.start.diagnostics = s.diagnostics := rfl

@[simp] theorem clear_generation : s.clear.generation = s.generation + 1 := rfl

@[simp] theorem clear_diagnostics : s.clear.diagnostics = [] := rfl

end Session

end SchemaEditor
