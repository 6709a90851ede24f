import SchemaEditor.Json.Encoding
import SchemaEditor.Json.Writer
import SchemaEditor.Service.Request
import SchemaEditor.Settings

/-!
# Request bodies

What the endpoints read from the body of a request.  A client sends a text as it is,
or a value that it writes as JSON (`Payload.send`).  A body is an object with
fields; all faults of its fields are listed, in the order of the fields.  Members
that are no fields are ignored.
-/

namespace SchemaEditor.Http
open Text Input

/-- The body of a request. -/
inductive Body where
  /-- There is none. -/
  | absent
  /-- It is no JSON. -/
  | malformed
  /-- It is no text, or a limit of the reader keeps it from being read. -/
  | unreadable
  | value (json : Json)
  deriving Repr

/-- Lists and objects that are nested deeper in a body are not read. -/
def Body.maxDepth : Nat := 963

/-- The body that octets are. -/
def Body.ofOctets (octets : List UInt8) : Body :=
  if octets = [] then .absent
  else
    match Json.textOf? octets with
    | none => .unreadable
    | some t =>
        match Json.read maxDepth t with
        | .ok json => .value json
        | .error .malformed => .malformed
        | .error _ => .unreadable

/-- What a client sends with a request. -/
inductive Payload where
  | nothing
  | text (t : Text)
  | json (value : Json)
  deriving Repr

/-- Lists and objects that are nested deeper in a value are not sent. -/
def Payload.maxDepth : Nat := 985

/-- The body that arrives when a payload is sent. -/
def Payload.send : Payload → Except Json.WriteError Body
  | .nothing => .ok .absent
  | .text t =>
      match Utf8.encode? t with
      | some octets => .ok (Body.ofOctets octets)
      | none => .error .notWhole
  | .json value => (value.octets maxDepth).map Body.ofOctets

/-- The outcome of reading a body. -/
abbrev Parsed (α : Type) := Except (List FieldFault) α

/-- Both of two parts of a body, or the faults of both. -/
def both {α β : Type} : Parsed α → Parsed β → Parsed (α × β)
  | .ok a, .ok b => .ok (a, b)
  | a, b => .error (faultsOf a ++ faultsOf b)

/-- The place of a body. -/
def bodyLocation : List String := ["body"]

/-- The members of a body. -/
def Body.members : Body → Parsed (Entries Text Json)
  | .absent => faultAt bodyLocation .null .missing
  | .value (.obj members) => .ok members
  | .value json => faultAt bodyLocation json .objectType
  | _ => faultAt bodyLocation .null .jsonText

/-- The place of the formatting options. -/
def optionsLocation : List String := ["body", "options"]

/-- Formatting options as an object. -/
def optionsOf (members : Entries Text Json) : Parsed FormatOptions :=
  let indent := orElse optionsLocation "indent_size" Settings.indentStep .four members
  let sort := orElse optionsLocation "sort_attributes" Input.bool true members
  let align := orElse optionsLocation "align_fields" Input.bool true members
  (both indent (both sort align)).map fun (indent, sort, align) =>
    ⟨indent.width, sort, align, indent.width_pos⟩

/-- The formatting options of a body, if it has any. -/
def options? (members : Entries Text Json) : Parsed (Option FormatOptions) :=
  match Entries.find? (ofString "options") members with
  | none => .ok none
  | some .null => .ok none
  | some (.obj options) => (optionsOf options).map some
  | some value => faultAt optionsLocation value .objectType

/-- The body of a request to open a document: its name, text and path. -/
def Body.toOpen (b : Body) : Parsed (Text × Text × Option Text) := do
  let members ← b.members
  both (required bodyLocation "doc_id" Input.text members)
    (both (required bodyLocation "text" Input.text members)
      (orElse bodyLocation "file_path" (optional Input.text) none members))

/-- The body of an update: the text. -/
def Body.toUpdate (b : Body) : Parsed Text := do
  required bodyLocation "text" Input.text (← b.members)

/-- The body of a request to format a document: the options. -/
def Body.toFormat (b : Body) : Parsed (Option FormatOptions) := do
  options? (← b.members)

/-- The body of a request to format a text: the text and the options. -/
def Body.toFormatText (b : Body) : Parsed (Text × Option FormatOptions) := do
  let members ← b.members
  both (required bodyLocation "text" Input.text members) (options? members)

/-- The body of a request to validate: the output of a validator, if it is there. -/
def Body.toValidate (b : Body) : Parsed (Option Text) := do
  orElse bodyLocation "error_text" (optional Input.text) none (← b.members)

/-- The body of a request for completions: the text before the cursor. -/
def Body.toComplete (b : Body) : Parsed Text := do
  orElse bodyLocation "line_prefix" Input.text [] (← b.members)

/-- The body with new settings. -/
def Body.toConfig (b : Body) : Parsed Config := do
  required bodyLocation "config" Input.members (← b.members)

/-- An index in a path. -/
def indexOf (name : String) (segment : Text) : Parsed Int :=
  readAt ["path", name] Input.int (.str segment)

end SchemaEditor.Http
