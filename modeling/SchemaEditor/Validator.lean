import SchemaEditor.FilePath
import SchemaEditor.Text.Utf8
import SchemaEditor.Decimal.Layout

/-!
# The external validator

A validator is a command with a time limit.  It is called on a file as
`command validate file` in the directory of the file (`Validator.call`), and what
the process did is read as a report (`Validator.report`): nothing if it ended
well and said nothing on its error stream, and otherwise its output as text.  A
process that could not be started is an error.
-/

namespace SchemaEditor
open Text

/-- A command that checks schema files, and how long it may take. -/
structure Validator where
  command : Text
  timeout : Binary64
  deriving DecidableEq, Repr

/-- The start of a process: its arguments, directory and time limit. -/
structure ProcessCall where
  args : List Text
  directory : Text
  timeout : Binary64
  deriving DecidableEq, Repr

/-- The output of a process on one stream, as far as it was captured. -/
inductive Captured where
  | nothing
  | text (t : Text)
  | octets (bytes : List UInt8)
  deriving DecidableEq, Repr

/-- What a process did. -/
inductive Outcome where
  /-- It ended with an exit code. -/
  | exit (code : Int) (stdout stderr : Captured)
  /-- It was stopped when its time was over. -/
  | timeout (stdout stderr : Captured)
  /-- There is no such command. -/
  | notFound
  /-- It could not be started for another reason. -/
  | failed (reason : Text)
  deriving DecidableEq, Repr

/-- Why there is no report. -/
inductive ValidatorError where
  /-- The command was not found. -/
  | unavailable (command : Text)
  /-- The command could not be run. -/
  | notRun (command reason : Text)
  deriving DecidableEq, Repr

/-- The wording of a validator that did not run. -/
def ValidatorError.message : ValidatorError → Text
  | .unavailable command =>
      ofString "Validator '" ++ command ++ ofString "' not found. Is it installed and on PATH?"
  | .notRun command reason =>
      ofString "Could not run validator '" ++ command ++ ofString "': " ++ reason

/-- Captured output as text; malformed octets are replaced. -/
def Captured.toText : Captured → Text
  | .nothing => []
  | .text t => t
  | .octets bytes => Utf8.decodeLossy bytes

/-- A report: nothing for a valid file, or the text that says what is wrong. -/
abbrev Report := Except ValidatorError (Option Text)

namespace Validator

/-- The command that is called when no other is configured. -/
def standardCommand : Text := ofString "lumos"

/-- The time limit in seconds when no other is configured. -/
def standardTimeout : Binary64 := Binary64.ofInt 5

variable (v : Validator)

/-- The process that checks the file at a path. -/
def call (path : Text) : ProcessCall :=
  ⟨[v.command, ofString "validate", (FilePath.ofText path).toText],
    (FilePath.ofText path).parent.toText, v.timeout⟩

/-- What is reported when the time was over and nothing was captured. -/
def timeoutText : Text :=
  ofString "Error: validation timed out after " ++ Layout.brief.write v.timeout ++
    ofString " seconds"

/-- The first of two texts that is not empty. -/
def firstNonEmpty (s t : Text) : Text := if s = [] then t else s

/-- The report of a process.  Of a process that ended, the error stream counts if
there is something visible on it; of one that was stopped, if there is anything
on it. -/
def report : Outcome → Report
  | .exit code stdout stderr =>
      if code = 0 ∧ isBlankText stderr.toText then .ok none
      else if isBlankText stderr.toText then .ok (some stdout.toText)
      else .ok (some stderr.toText)
  | .timeout stdout stderr =>
      .ok (some (firstNonEmpty (firstNonEmpty stderr.toText stdout.toText) v.timeoutText))
  | .notFound => .error (.unavailable v.command)
  | .failed reason => .error (.notRun v.command reason)

end Validator

end SchemaEditor
