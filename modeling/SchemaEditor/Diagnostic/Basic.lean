import SchemaEditor.Position
import SchemaEditor.Text.Quoted

/-!
# Diagnostics

A diagnostic is a message with the range it is about, a severity, and the name
of its producer.  Everything this library reports carries `Diagnostic.ownSource`;
quick fixes act on no other diagnostics.
-/

namespace SchemaEditor

/-- How bad a reported problem is. -/
inductive Severity where
  | error
  | warning
  deriving DecidableEq, Repr

namespace Severity

/-- The word for a severity. -/
def name : Severity → Text
  | .error => Text.ofString "error"
  | .warning => Text.ofString "warning"

/-- A word that names no severity. -/
structure UnknownName where
  word : Text
  deriving DecidableEq, Repr

/-- The wording of a severity that is not known. -/
def UnknownName.message (e : UnknownName) : Text :=
  Text.Quoted.write e.word ++ Text.ofString " is not a valid Severity"

/-- The severity that a word names. -/
def ofName? (word : Text) : Except UnknownName Severity :=
  if word = name .error then .ok .error
  else if word = name .warning then .ok .warning
  else .error ⟨word⟩

end Severity

/-- One located problem. -/
structure Diagnostic where
  range : Range
  message : Text
  severity : Severity
  source : Text
  deriving DecidableEq, Repr

namespace Diagnostic

/-- The source of the diagnostics made here. -/
def ownSource : Text := Text.ofString "LUMOS"

/-- The line a diagnostic is anchored at. -/
def line (d : Diagnostic) : Nat := d.range.start.line

end Diagnostic

end SchemaEditor
