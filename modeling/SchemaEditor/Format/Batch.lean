import SchemaEditor.Line

/-!
# Fields and batches

A field line is a name and a rest, divided at its first colon (`splitField`).  A
batch is the list of lines collected in the body of one struct; `alignBatch`
writes it with all colons in one column, right after the longest name.  Lines of
the batch that are no fields keep their place and are only indented, and blank
lines become empty.
-/

namespace SchemaEditor.Format
open Text

/-! ## Fields -/

/-- The rest of a field without blanks and stray colons in front.  A colon is
stray when no second one follows it: a double colon starts a path and stays. -/
def dropStrayColons : Text → Text
  | [] => []
  | c :: rest =>
      if isBlank c then dropStrayColons rest
      else if c = ':' ∧ rest.head? ≠ some ':' then dropStrayColons rest
      else c :: rest

/-- The name and the rest of a field line.  An attribute is no field, nor is a
line without a colon or with nothing before its first colon. -/
def splitField (line : Text) : Option (Text × Text) :=
  if Line.attributeMarker.isPrefixOf (trim line) then none
  else
    match (trim line).takeWhile (· ≠ .char ':'), (trim line).dropWhile (· ≠ .char ':') with
    | name, _ :: rest => if name = [] then none else some (trimEnd name, dropStrayColons rest)
    | _, [] => none

/-! ## Batches -/

/-- The length of the longest field name among the lines. -/
def longestName : List Text → Nat
  | [] => 0
  | line :: rest =>
      match splitField line with
      | some (name, _) => Nat.max name.length (longestName rest)
      | none => longestName rest

/-- A line that is only indented; a blank line becomes empty. -/
def indentLine (width : Nat) (line : Text) : Text :=
  if trim line = [] then [] else spaces width ++ trim line

/-- A line of a batch whose colons stand `longest` characters after the
indentation. -/
def alignLine (width longest : Nat) (line : Text) : Text :=
  match splitField line with
  | some (name, rest) =>
      trimEnd (spaces width ++ name ++ spaces (longest - name.length) ++ ofString ": " ++ rest)
  | none => indentLine width line

/-- A batch at an indentation; without alignment its lines are only indented. -/
def alignBatch (width : Nat) (align : Bool) (lines : List Text) : List Text :=
  if align then lines.map (alignLine width (longestName lines)) else lines.map (indentLine width)

/-! ## Attributes -/

/-- The trimmed lines of a run of attributes, in the order of their code points if
they are to be sorted. -/
def arrangeAttributes (sort : Bool) (lines : List Text) : List Text :=
  if sort then (lines.map trim).mergeSort Text.le else lines.map trim

end SchemaEditor.Format
