import SchemaEditor.Position

/-!
# Documents

A document is a list of lines with the line ending that joins them and the path
of its file, if it has one.  There is always a line: an empty text has one empty
line.  A document is a value; `apply` and `replaceAll` give a new one.

A text is read by `ofText`: if it contains a carriage return followed by a line
feed anywhere, that pair is the document's line ending and every line loses one
final carriage return; otherwise the line ending is the line feed.
-/

namespace SchemaEditor

/-- Lines, the line ending between them, and the file they belong to. -/
structure Document where
  lines : List Text
  eol : Text
  path : Option Text
  lines_ne : lines ≠ []
  deriving DecidableEq, Repr

/-- Replaces the text that a range covers; an empty range makes it an insertion. -/
structure Patch where
  range : Range
  newText : Text
  deriving DecidableEq, Repr

/-- The patch removes nothing. -/
def Patch.isInsert (p : Patch) : Bool := p.range.isEmpty

namespace Document

/-- The line feed, the line ending of a document without another one. -/
def lf : Text := ['\n']

/-- The line ending of a carriage return and a line feed. -/
def crlf : Text := ['\r', '\n']

/-- The document with the given lines, or with one empty line if there is none. -/
def ofLines (lines : List Text) (eol : Text) (path : Option Text) : Document :=
  match lines with
  | [] => ⟨[[]], eol, path, by simp⟩
  | line :: rest => ⟨line :: rest, eol, path, by simp⟩

/-- A line without its final carriage return. -/
def dropCr (line : Text) : Text := if line.getLast? = some '\r' then line.dropLast else line

/-- The line ending a text is read with. -/
def eolOf (t : Text) : Text := if Text.hasPart crlf t then crlf else lf

/-- The lines a text is read as. -/
def linesOf (t : Text) : List Text :=
  if Text.hasPart crlf t then (Text.lines t).map dropCr else Text.lines t

theorem linesOf_ne_nil (t : Text) : linesOf t ≠ [] := by
  unfold linesOf
  split
  · simpa using Text.lines_ne_nil t
  · exact Text.lines_ne_nil t

/-- Reads a text into a document. -/
def ofText (t : Text) (path : Option Text) : Document :=
  ⟨linesOf t, eolOf t, path, linesOf_ne_nil t⟩

variable (d : Document)

/-- The text of a document: its lines joined by its line ending. -/
def text : Text := List.intercalate d.eol d.lines

/-- How many lines there are. -/
def lineCount : Nat := d.lines.length

/-- The line with a number; empty if there is no such line. -/
def lineAt (n : Nat) : Text := d.lines.getD n []

/-- The range from the first character to the last. -/
def fullRange : Range :=
  ⟨⟨0, 0⟩, ⟨d.lineCount - 1, (d.lineAt (d.lineCount - 1)).length⟩, by
    rcases Nat.eq_zero_or_pos (d.lineCount - 1) with h | h
    · exact Or.inr ⟨h.symm, Nat.zero_le _⟩
    · exact Or.inl h⟩

/-- How many characters stand before line `n`, each line followed by a line
ending of the given length. -/
def startOf (eolLength : Nat) : List Text → Nat → Nat
  | _, 0 => 0
  | [], _ + 1 => 0
  | line :: rest, n + 1 => line.length + eolLength + startOf eolLength rest n

/-- The offset of a position in the text.  A line past the last one stands for the
last line, and a column past the end of its line for that end; so a position past
the last line keeps its own column in the last line. -/
def offsetAt (p : Position) : Nat :=
  let line := Nat.min p.line (d.lineCount - 1)
  startOf d.eol.length d.lines line + Nat.min p.column (d.lineAt line).length

/-- The document after a patch.  Line feeds of the new text are written in the
document's line ending, and the result is read anew. -/
def apply (p : Patch) : Document :=
  ofText
    (d.text.take (d.offsetAt p.range.start) ++ Text.withEol d.eol p.newText ++
      d.text.drop (d.offsetAt p.range.stop))
    d.path

/-- The document with another text and the same file. -/
def replaceAll (t : Text) : Document := ofText t d.path

/-- Two documents have the same content when their lines agree. -/
def sameLines (e : Document) : Bool := d.lines == e.lines

@[simp] theorem ofText_path (t : Text) (path : Option Text) : (ofText t path).path = path := rfl

@[simp] theorem apply_path (p : Patch) : (d.apply p).path = d.path := rfl

end Document

end SchemaEditor
