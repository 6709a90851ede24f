import SchemaEditor.Text.Word

/-!
# Lines

What one line of schema text is, read off its own characters and one bit of
context: whether it stands in the body of a struct.  A line never looks at its
neighbours, so a comment with a colon in a struct body counts as a field.
-/

namespace SchemaEditor

/-- What a line is. -/
inductive LineKind where
  | blank
  | attribute
  | declaration
  | close
  | field
  | other
  deriving DecidableEq, Repr

namespace Line
open Text

/-- An attribute starts with this marker. -/
def attributeMarker : Text := ['#', '[']

/-- The keyword of a struct. -/
def structWord : Text := ['s', 't', 'r', 'u', 'c', 't']

/-- The keyword of an enumeration. -/
def enumWord : Text := ['e', 'n', 'u', 'm']

/-- The keyword of a public item. -/
def pubWord : Text := ['p', 'u', 'b']

/-- The text starts with `word`, and the word ends there. -/
def startsWithWord (word : Text) (t : Text) : Bool :=
  match after? word t with
  | some (c :: _) => !isWord c
  | some [] => true
  | none => false

/-- What follows a leading `pub` and at least one blank; the text itself if it
does not start so. -/
def afterPub (t : Text) : Text :=
  match after? pubWord t with
  | some (c :: rest) => if isBlank c then trimStart rest else t
  | _ => t

/-- The trimmed line declares a struct or an enumeration, public or not. -/
def declares (trimmed : Text) : Bool :=
  startsWithWord structWord (afterPub trimmed) || startsWithWord enumWord (afterPub trimmed)

/-- The line is an attribute. -/
def isAttribute (line : Text) : Bool := attributeMarker.isPrefixOf (trim line)

/-- The line declares a struct or an enumeration. -/
def isDeclaration (line : Text) : Bool := declares (trim line)

/-- The line has `struct` as a whole word somewhere. -/
def mentionsStruct (line : Text) : Bool := hasWord structWord line

/-- The line ends with an opening brace. -/
def opensBlock (line : Text) : Bool := (trim line).getLast? == some '{'

/-- The line is an opening brace and nothing else. -/
def isLoneOpen (line : Text) : Bool := trim line == [.char '{']

/-- The kind of a line; the first rule that applies decides. -/
def kind (inStruct : Bool) (line : Text) : LineKind :=
  if trim line = [] then .blank
  else if attributeMarker.isPrefixOf (trim line) then .attribute
  else if declares (trim line) then .declaration
  else if (trim line).head? = some '}' then .close
  else if inStruct ∧ .char ':' ∈ trim line then .field
  else .other

end Line

end SchemaEditor
