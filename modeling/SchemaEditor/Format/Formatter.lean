import SchemaEditor.Format.Options
import SchemaEditor.Format.Batch

/-!
# The formatter

Formatting is one pass over the lines of a text with a small state: the nesting
level, whether the pass is in the body of a struct, the attributes of the run
that has not ended yet, the lines of the batch that has not ended yet, and the
lines written so far.  `feed` takes one line and `finish` writes what is still
waiting, so `format` never fails whatever the text is.

Per line: an attribute waits for the end of its run.  A closing line ends the
batch and goes back one level.  A declaration ends the batch and opens a level if
it ends with a brace.  A brace alone ends the batch, is written at the present
level and opens the next one.  Any other line in a struct body joins the batch.
A blank line elsewhere is written empty, and all else is written at the present
level.
-/

namespace SchemaEditor
namespace Format
open Text

/-- The state of a formatting pass. -/
structure State where
  /-- How many blocks are open. -/
  level : Nat := 0
  /-- The pass is in the body of a struct. -/
  inStruct : Bool := false
  /-- The attributes of the present run. -/
  attributes : List Text := []
  /-- The lines of the present batch. -/
  fields : List Text := []
  /-- The lines written so far. -/
  output : List Text := []
  deriving DecidableEq, Repr

namespace State
variable (o : FormatOptions) (s : State)

/-- The line written last. -/
def lastWritten : Option Text := s.output.getLast?

/-- Writes a trimmed line at the present level. -/
def write (trimmed : Text) : State := { s with output := s.output ++ [o.indent s.level ++ trimmed] }

/-- Ends the run of attributes: they join the batch in a struct body and are
written elsewhere. -/
def flushAttributes : State :=
  if s.inStruct then
    { s with
      attributes := []
      fields := s.fields ++ arrangeAttributes o.sortAttributes s.attributes }
  else
    { s with
      attributes := []
      output := s.output ++
        (arrangeAttributes o.sortAttributes s.attributes).map (o.indent s.level ++ ·) }

/-- Ends the batch and writes it at the present level. -/
def flushFields : State :=
  { s with
    fields := []
    output := s.output ++ alignBatch (s.level * o.indentSize) o.alignFields s.fields }

/-- Goes back one level, out of any struct body. -/
def leaveBlock : State := { s with level := s.level - 1, inStruct := false }

/-- Opens a level, in a struct body or not. -/
def enterBlock (inStruct : Bool) : State := { s with level := s.level + 1, inStruct := inStruct }

/-- Puts a trimmed line into the batch. -/
def hold (trimmed : Text) : State := { s with fields := s.fields ++ [trimmed] }

/-- Takes a closing line. -/
def feedClose (trimmed : Text) : State := ((s.flushFields o).leaveBlock).write o trimmed

/-- Takes a declaration. -/
def feedDeclaration (trimmed : Text) : State :=
  let written := (s.flushFields o).write o trimmed
  if Line.opensBlock trimmed then written.enterBlock (Line.mentionsStruct trimmed) else written

/-- Takes a brace alone; its block is a struct body if the line written before it
mentions one. -/
def feedOpen (trimmed : Text) : State :=
  let flushed := s.flushFields o
  (flushed.write o trimmed).enterBlock
    (flushed.inStruct || flushed.lastWritten.any Line.mentionsStruct)

/-- Takes a line that is no attribute, once the run of attributes has ended. -/
def place (kind : LineKind) (trimmed : Text) : State :=
  if kind = .close then s.feedClose o trimmed
  else if kind = .declaration then s.feedDeclaration o trimmed
  else if Line.isLoneOpen trimmed then s.feedOpen o trimmed
  else if s.inStruct then s.hold trimmed
  else if kind = .blank then { s with output := s.output ++ [[]] }
  else s.write o trimmed

/-- Takes one line. -/
def feed (line : Text) : State :=
  if Line.kind s.inStruct line = .attribute then
    { s with attributes := s.attributes ++ [trim line] }
  else (s.flushAttributes o).place o (Line.kind s.inStruct line) (trim line)

/-- Takes lines one after the other. -/
def feedAll (lines : List Text) : State := lines.foldl (feed o) s

/-- Writes all that is still waiting. -/
def finish : State := (s.flushAttributes o).flushFields o

end State

/-- The state of a pass that has read nothing. -/
def initial : State := {}

/-- The lines of a formatted list of lines. -/
def formatLines (o : FormatOptions) (lines : List Text) : List Text :=
  ((initial.feedAll o lines).finish o).output

end Format

/-- Formats a text. -/
def format (o : FormatOptions) (t : Text) : Text :=
  Text.unlines (Format.formatLines o (Text.lines t))

end SchemaEditor
