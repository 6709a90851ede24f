import SchemaEditor.Text.Basic

/-!
# File paths

A path is a root and the names below it, divided by slashes.  Empty names and
names that are a single dot say nothing and are dropped; a name of two dots
stays.  Two slashes in front are a root of their own, and any other number of
them is the plain root.
-/

namespace SchemaEditor

/-- A path, in its shortest spelling. -/
structure FilePath where
  root : Text
  names : List Text
  deriving DecidableEq, Repr

namespace FilePath

/-- The root of a path as it is written. -/
def rootOf (t : Text) : Text :=
  match t with
  | .char '/' :: .char '/' :: .char '/' :: _ => ['/']
  | .char '/' :: .char '/' :: _ => ['/', '/']
  | .char '/' :: _ => ['/']
  | _ => []

/-- Reads a path. -/
def ofText (t : Text) : FilePath :=
  ⟨rootOf t, (Text.splitOn '/' t).filter fun name => name ≠ [] ∧ name ≠ [.char '.']⟩

variable (p : FilePath)

/-- Writes a path; the path of the present directory is a dot. -/
def toText : Text :=
  if p.root = [] ∧ p.names = [] then ['.']
  else p.root ++ List.intercalate (Text.ofString "/") p.names

/-- The directory of a path; a path without names is its own directory. -/
def parent : FilePath := { p with names := p.names.dropLast }

/-- The last name. -/
def name : Text := p.names.getLastD []

/-- The last name from its last dot on, unless that dot is its first or its last
character. -/
def suffix : Text :=
  let ending := (p.name.reverse.takeWhile (· ≠ .char '.')).reverse
  if ending = [] ∨ p.name.length ≤ ending.length + 1 then [] else '.' :: ending

/-- The ending of schema files. -/
def schemaSuffix : Text := Text.ofString ".lumos"

/-- The path has the ending of a schema file. -/
def isSchema : Bool := p.suffix == schemaSuffix

end FilePath

end SchemaEditor
