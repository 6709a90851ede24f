import SchemaEditor.Json.Basic
import SchemaEditor.Decimal.Layout
import SchemaEditor.Text.Utf8

/-!
# Writing JSON

A value in its shortest form, without blanks between the tokens.  In strings the
quote, the backslash, the controls and halves of surrogate pairs are escaped and
nothing else.  Infinity and "not a number" are written as words, which the
standard does not have.  `octets` writes for sending, and refuses what the standard
does not have and what a limit of the writer keeps it from writing.
-/

namespace SchemaEditor.Json

/-- One code point of a string. -/
def writePoint (c : CodePoint) : Text :=
  if c = '"' ∨ c = '\\' then ['\\', c]
  else if c.toNat < 0x20 ∨ c.toNat = 0x7F ∨ c.isChar = false then
    '\\' :: 'u' :: Text.ofHex 4 c.toNat
  else [c]

/-- A string with its quotes. -/
def writeString (t : Text) : Text :=
  Text.ofString "\"" ++ t.flatMap writePoint ++ Text.ofString "\""

mutual

/-- A value. -/
def write : Json → Text
  | .null => Text.ofString "null"
  | .bool true => Text.ofString "true"
  | .bool false => Text.ofString "false"
  | .int n => Text.ofInt n
  | .float x => Layout.exact.write x
  | .str t => writeString t
  | .arr items => Text.ofString "[" ++ writeItems items ++ Text.ofString "]"
  | .obj members => Text.ofString "\x7b" ++ writeMembers members ++ Text.ofString "\x7d"

/-- Values with commas between them. -/
def writeItems : List Json → Text
  | [] => []
  | [item] => write item
  | item :: rest => write item ++ Text.ofString "," ++ writeItems rest

/-- Members with commas between them. -/
def writeMembers : List (Text × Json) → Text
  | [] => []
  | [(name, value)] => writeString name ++ Text.ofString ":" ++ write value
  | (name, value) :: rest =>
      writeString name ++ Text.ofString ":" ++ write value ++ Text.ofString "," ++ writeMembers rest

end

/-! ## Sending -/

/-- Why a value is not sent. -/
inductive WriteError where
  /-- Lists and objects are nested too deep. -/
  | tooDeep
  /-- A number is not finite. -/
  | notFinite
  /-- A string has half of a surrogate pair in it, which UTF-8 cannot write. -/
  | notWhole
  deriving DecidableEq, Repr

/-- The wording of a value that is not sent. -/
def WriteError.message : WriteError → Text
  | .notFinite => Text.ofString "Out of range float values are not JSON compliant"
  | _ => []

/-- What keeps a value from being sent, if lists and objects may be nested as deep as
`depth` says. -/
def writeError? (depth : Nat) (value : Json) : Option WriteError :=
  if depth < value.depth then some .tooDeep
  else if !value.isFinite then some .notFinite
  else if !value.isWhole then some .notWhole
  else none

/-- The octets of a value. -/
def octets (depth : Nat) (value : Json) : Except WriteError (List UInt8) :=
  match writeError? depth value with
  | some why => .error why
  | none => .ok (Text.Utf8.encode value.write)

end SchemaEditor.Json
