import SchemaEditor.Document
import SchemaEditor.FilePath
import SchemaEditor.Text.Utf8

/-!
# Documents and files

A file is read as UTF-8 and keeps its line endings; a document is written back to
the file it came from or to a named one.
-/

namespace SchemaEditor

/-- Why a document was not read or written. -/
inductive FileError where
  /-- There is no such file. -/
  | notFound
  /-- The file is not well-formed UTF-8. -/
  | notUtf8
  /-- No path is given and the document has none. -/
  | noPath
  deriving DecidableEq, Repr

/-- The wording of a failed write. -/
def FileError.message : FileError → Text
  | .notFound => Text.ofString "File not found."
  | .notUtf8 => Text.ofString "File is not UTF-8."
  | .noPath => Text.ofString "No file path specified and document has no path."

namespace Document

/-- Reads the document at a path from the octets of its file. -/
def read (path : Text) (content : Option (List UInt8)) : Except FileError Document :=
  match content with
  | none => .error .notFound
  | some octets =>
      match Text.Utf8.decode? octets with
      | none => .error .notUtf8
      | some t => .ok (ofText t (some (FilePath.ofText path).toText))

variable (d : Document)

/-- The path a document is written to: the given one, or its own if that is
missing or empty. -/
def target (given : Option Text) : Except FileError Text :=
  match (given.filter (· ≠ [])).or (d.path.filter (· ≠ [])) with
  | some path => .ok (FilePath.ofText path).toText
  | none => .error .noPath

/-- The octets a document is written as. -/
def octets : List UInt8 := Text.Utf8.encode d.text

/-- Replaces the whole text, if there is a new one. -/
def replaceAll? (t : Option Text) : Document :=
  match t with
  | some t => d.replaceAll t
  | none => d

end Document

end SchemaEditor
