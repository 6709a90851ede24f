import SchemaEditor.Completion
import SchemaEditor.Document.Slice
import SchemaEditor.Format.Formatter
import SchemaEditor.QuickFix
import SchemaEditor.Session
import SchemaEditor.Settings

/-!
# The service

The service keeps the documents that an editor has open and answers its requests
about them.  It never applies a formatted text by itself: the editor takes the
text and sends it back as an update.  A quick fix is applied here, because the
editor asks for it by number.

Each opening of a document is numbered.  A validation pass that is still running
knows its document by that number, so it cannot mistake a document that was
closed or opened anew in the meantime for its own.

This module holds the state and the requests that need nothing but the state;
`SchemaEditor.Service.Validation` adds validation, during which other requests
may be answered.
-/

namespace SchemaEditor

/-- A document that is open. -/
structure OpenDocument where
  document : Document
  session : Session
  /-- One more than the number of edits since it was opened. -/
  version : Nat
  /-- The fixes that were asked for since the last change, by the number of their
  diagnostic. -/
  fixes : Entries Nat (List QuickFix)
  /-- The number of the opening. -/
  opening : Nat
  deriving DecidableEq, Repr

/-- What checks the files of a service. -/
inductive Runner where
  /-- A process, with the command and the time limit of a validator. -/
  | process (validator : Validator)
  /-- Something that was put in from outside. -/
  | outside
  deriving DecidableEq, Repr

/-- The open documents, the settings, and what checks the files. -/
structure Service where
  settings : Settings
  /-- The runner is made from the settings, and was not put in from outside. -/
  ownsValidator : Bool
  runner : Runner
  documents : Entries Text OpenDocument
  /-- How many documents were opened so far. -/
  openings : Nat
  deriving DecidableEq, Repr

/-- Why a request failed. -/
inductive ServiceError where
  /-- No document with the name is open. -/
  | unknownDocument (id : Text)
  /-- The number of a diagnostic is negative. -/
  | negativeDiagnostic (index : Int)
  /-- There is no diagnostic with the number. -/
  | noDiagnostic (index : Int)
  /-- The number of a fix is negative. -/
  | negativeFix (index : Int)
  /-- There is no fix with the number. -/
  | noFix (index : Int)
  deriving DecidableEq, Repr

/-- The wording of a failed request. -/
def ServiceError.message : ServiceError → Text
  | .unknownDocument id => id
  | .negativeDiagnostic index =>
      Text.ofString "Diagnostic index must be non-negative, got " ++ Text.ofInt index
  | .noDiagnostic index =>
      if fitsWord index then LineError.outOfRange.message else LineError.tooLarge.message
  | .negativeFix index => Text.ofString "Fix index must be non-negative, got " ++ Text.ofInt index
  | .noFix index =>
      if fitsWord index then Text.ofString "list index out of range" else LineError.tooLarge.message

/-- The outcome of a request. -/
abbrev Result (α : Type) := Except ServiceError α

/-- What is told about an open document. -/
structure Summary where
  id : Text
  path : Option Text
  version : Nat
  lineCount : Nat
  diagnosticCount : Nat
  deriving DecidableEq, Repr

/-- A formatted text with the range it replaces. -/
structure Formatted where
  id : Text
  range : Range
  text : Text
  /-- The text differs from the one the document has. -/
  changed : Bool
  deriving DecidableEq, Repr

/-- A fix that was applied, and the document after it. -/
structure Applied where
  summary : Summary
  index : Nat
  fix : QuickFix
  text : Text
  deriving DecidableEq, Repr

namespace OpenDocument
variable (d : OpenDocument)

/-- A document that has just been opened. -/
def opened (document : Document) (opening : Nat) : OpenDocument :=
  ⟨document, Session.fresh, 1, [], opening⟩

/-- The document with another text. -/
def update (t : Text) : OpenDocument :=
  { d with document := d.document.replaceAll t, version := d.version + 1, fixes := [] }

/-- The document after a fix.  Its diagnostics are forgotten: they are about the
text before. -/
def applyFix (fix : QuickFix) : OpenDocument :=
  { d with
    document := d.document.apply fix.patch
    version := d.version + 1
    fixes := []
    session := d.session.clear }

/-- The document without diagnostics. -/
def clear : OpenDocument := { d with session := d.session.clear, fixes := [] }

/-- What is told about the document. -/
def summary (id : Text) : Summary :=
  ⟨id, d.document.path, d.version, d.document.lineCount, d.session.diagnostics.length⟩

/-- The formatted text of the document, with its own line ending. -/
def format (id : Text) (o : FormatOptions) : Formatted :=
  let source := Text.unlines d.document.lines
  let formatted := SchemaEditor.format o source
  ⟨id, d.document.fullRange, Text.withEol d.document.eol formatted, formatted != source⟩

end OpenDocument

namespace Service

/-- A service without documents. -/
def initial (settings : Settings) (ownsValidator : Bool) : Service :=
  ⟨settings, ownsValidator, if ownsValidator then .process settings.validator else .outside, [], 0⟩

variable (s : Service)

/-- The open document with a name. -/
def find (id : Text) : Result OpenDocument :=
  match Entries.find? id s.documents with
  | some d => .ok d
  | none => .error (.unknownDocument id)

/-- Puts a document under a name. -/
def put (id : Text) (d : OpenDocument) : Service :=
  { s with documents := Entries.insert id d s.documents }

/-- Takes other settings, and makes its runner anew from them; a runner that was put in
from outside is kept. -/
def configure (settings : Settings) : Service :=
  { s with
    settings := settings
    runner := if s.ownsValidator then .process settings.validator else s.runner }

/-! ## Documents -/

/-- Opens a document, in place of one with its name if there is one. -/
def openDocument (id text : Text) (path : Option Text) : Service × Summary :=
  let d := OpenDocument.opened (Document.ofText text path) s.openings
  ({ s.put id d with openings := s.openings + 1 }, d.summary id)

/-- Takes the text of a document after an edit. -/
def update (id text : Text) : Service × Result Summary :=
  match s.find id with
  | .ok d => (s.put id (d.update text), .ok ((d.update text).summary id))
  | .error e => (s, .error e)

/-- Closes a document, if it is open. -/
def close (id : Text) : Service := { s with documents := Entries.erase id s.documents }

/-- What is told about all documents. -/
def list : List Summary := s.documents.map fun entry => entry.2.summary entry.1

/-- The text of a document. -/
def textOf (id : Text) : Result Text := (s.find id).map fun d => d.document.text

/-- The lines of a document. -/
def linesOf (id : Text) : Result (List Text) := (s.find id).map fun d => d.document.lines

/-- The formatted text of a document, by the given options or those of the
settings. -/
def format (id : Text) (options : Option FormatOptions) : Result Formatted :=
  (s.find id).map fun d => d.format id (options.getD s.settings.options)

/-- The diagnostics of a document. -/
def diagnosticsOf (id : Text) : Result (List Diagnostic) :=
  (s.find id).map fun d => d.session.diagnostics

/-! ## Fixes -/

/-- The fixes for a diagnostic; they are kept until the document changes. -/
def fixesFor (id : Text) (index : Int) : Service × Result (List QuickFix) :=
  match s.find id with
  | .error e => (s, .error e)
  | .ok d =>
      if index < 0 then (s, .error (.negativeDiagnostic index))
      else
        match Entries.find? index.toNat d.fixes with
        | some fixes => (s, .ok fixes)
        | none =>
            match d.session.diagnostics[index.toNat]? with
            | none => (s, .error (.noDiagnostic index))
            | some diagnostic =>
                let fixes := proposeFixes diagnostic d.document.lines
                (s.put id { d with fixes := Entries.insert index.toNat fixes d.fixes }, .ok fixes)

/-- The fix with a number. -/
def pick (fixes : List QuickFix) (index : Int) : Result QuickFix :=
  if index < 0 then .error (.negativeFix index)
  else
    match fixes[index.toNat]? with
    | some fix => .ok fix
    | none => .error (.noFix index)

/-- Applies a fix to its document. -/
def applyFix (id : Text) (index fixIndex : Int) : Service × Result Applied :=
  match s.fixesFor id index with
  | (s, .error e) => (s, .error e)
  | (s, .ok fixes) =>
      match s.find id, pick fixes fixIndex with
      | .ok d, .ok fix =>
          let d := d.applyFix fix
          (s.put id d, .ok ⟨d.summary id, fixIndex.toNat, fix, d.document.text⟩)
      | .error e, _ => (s, .error e)
      | _, .error e => (s, .error e)

end Service

end SchemaEditor
