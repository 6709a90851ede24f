import SchemaEditor.Json.Basic
import SchemaEditor.Service.Request

/-!
# Answers in JSON

How the values of the library are written in answers.  Lists of diagnostics and
fixes are numbered from 0, which are the numbers that requests refer to.
-/

namespace SchemaEditor
open Json

/-- A position as an object. -/
def Position.toJson (p : Position) : Json :=
  Json.object [("line", .ofNat p.line), ("column", .ofNat p.column)]

/-- A range as an object. -/
def Range.toJson (r : Range) : Json :=
  Json.object [("start", r.start.toJson), ("end", r.stop.toJson)]

/-- A list of values, each with its number. -/
def Json.numbered {α : Type} (f : Nat → α → Json) (xs : List α) : Json :=
  .arr (xs.mapIdx f)

/-- A diagnostic with its number. -/
def Diagnostic.toJson (index : Nat) (d : Diagnostic) : Json :=
  Json.object
    [("index", .ofNat index), ("range", d.range.toJson), ("message", .str d.message),
      ("severity", .str d.severity.name), ("source", .str d.source)]

/-- A patch as an object. -/
def Patch.toJson (p : Patch) : Json :=
  Json.object [("range", p.range.toJson), ("new_text", .str p.newText)]

/-- A fix with its number. -/
def QuickFix.toJson (index : Nat) (f : QuickFix) : Json :=
  Json.object
    [("index", .ofNat index), ("title", .str f.title), ("is_preferred", .bool f.preferred),
      ("patch", f.patch.toJson)]

/-- The members of a summary. -/
def Summary.members (s : Summary) : List (String × Json) :=
  [("doc_id", .str s.id), ("file_path", .ofText? s.path), ("version", .ofNat s.version),
    ("total_lines", .ofNat s.lineCount), ("diagnostics", .ofNat s.diagnosticCount)]

/-- A formatted text as an object. -/
def Formatted.toJson (f : Formatted) : Json :=
  Json.object
    [("doc_id", .str f.id), ("range", f.range.toJson), ("text", .str f.text),
      ("changed", .bool f.changed)]

/-- An applied fix as an object: the summary of its document, the fix and the new
text. -/
def Applied.toJson (a : Applied) : Json :=
  Json.object
    (a.summary.members ++ [("applied", a.fix.toJson a.index), ("text", .str a.text)])

/-- A completion as an object. -/
def CompletionItem.toJson (c : CompletionItem) : Json :=
  Json.object
    [("label", .str c.label), ("kind", .str c.kind.name), ("detail", .str c.detail),
      ("documentation", .str c.documentation), ("insert_text", .str c.insertText)]

/-- The settings as an object of sections. -/
def Settings.toJson (s : Settings) : Json :=
  Json.object
    [("format", Json.object
        [("indent_size", .ofNat s.indent.width), ("sort_attributes", .bool s.sortAttributes),
          ("align_fields", .bool s.alignFields)]),
      ("validation", Json.object
        [("enabled", .bool s.enabled), ("debounce_ms", .ofNat s.debounceMs)]),
      ("validator", Json.object
        [("path", .str s.validatorPath), ("timeout", .float s.timeout)])]

/-- A fault as an object. -/
def FieldFault.toJson (f : FieldFault) : Json :=
  Json.object
    [("loc", .arr (f.location.map .ofString)), ("type", .ofString f.fault.name)]

/-- An answer. -/
def Answer.toJson : Answer → Json
  | .done => .null
  | .summary s => Json.object s.members
  | .summaries all => .arr (all.map fun s => Json.object s.members)
  | .text t => .str t
  | .lines ls => .arr (ls.map .str)
  | .formatted f => f.toJson
  | .diagnostics ds => Json.numbered Diagnostic.toJson ds
  | .fixes fs => Json.numbered QuickFix.toJson fs
  | .applied a => a.toJson
  | .completions items => .arr (items.map CompletionItem.toJson)

end SchemaEditor
