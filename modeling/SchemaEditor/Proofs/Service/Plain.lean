import SchemaEditor.Proofs.Service.Traffic

/-!
# A service that keeps no fixes

The service keeps the fixes that it was asked for until the document or its diagnostics
change.  A plain service does not: it has no room for them, and proposes the fixes for a
diagnostic anew whenever it is asked.  Otherwise it does what the service does, so it says
what the answers of the service are meant to be.  `Service.plain` forgets what a service
keeps.
-/

namespace SchemaEditor

/-- An open document without the fixes that were asked for. -/
structure PlainDocument where
  document : Document
  session : Session
  version : Nat
  opening : Nat
  deriving DecidableEq

/-- A service whose documents have no fixes kept. -/
structure PlainService where
  settings : Settings
  ownsValidator : Bool
  runner : Runner
  documents : Entries Text PlainDocument
  openings : Nat
  deriving DecidableEq

namespace PlainDocument
variable (d : PlainDocument)

/-- A document that has just been opened. -/
def opened (document : Document) (opening : Nat) : PlainDocument :=
  ⟨document, Session.fresh, 1, opening⟩

/-- The document with another text. -/
def update (t : Text) : PlainDocument :=
  { d with document := d.document.replaceAll t, version := d.version + 1 }

/-- The document after a fix. -/
def applyFix (fix : QuickFix) : PlainDocument :=
  { d with
    document := d.document.apply fix.patch
    version := d.version + 1
    session := d.session.clear }

/-- The document once a pass has started on it. -/
def start : PlainDocument := { d with session := d.session.start }

/-- The pass that starts on the document. -/
def pass (id : Text) : Pass := ⟨id, d.opening, d.session.generation + 1⟩

/-- The document without diagnostics. -/
def clear : PlainDocument := { d with session := d.session.clear }

/-- The document after a report. -/
def conclude (generation : Nat) (report : Report) : PlainDocument :=
  { d with session := d.session.publish generation (report.diagnostics d.document.lines) }

/-- What is told about the document. -/
def summary (id : Text) : Summary :=
  ⟨id, d.document.path, d.version, d.document.lineCount, d.session.diagnostics.length⟩

/-- The formatted text of the document, with its own line ending. -/
def format (id : Text) (o : FormatOptions) : Formatted :=
  let source := Text.unlines d.document.lines
  let formatted := SchemaEditor.format o source
  ⟨id, d.document.fullRange, Text.withEol d.document.eol formatted, formatted != source⟩

end PlainDocument

namespace PlainService

/-- A service without documents. -/
def initial (settings : Settings) (ownsValidator : Bool) : PlainService :=
  ⟨settings, ownsValidator, if ownsValidator then .process settings.validator else .outside, [], 0⟩

variable (s : PlainService)

/-- The open document with a name. -/
def find (id : Text) : Result PlainDocument :=
  match Entries.find? id s.documents with
  | some d => .ok d
  | none => .error (.unknownDocument id)

/-- Puts a document under a name. -/
def put (id : Text) (d : PlainDocument) : PlainService :=
  { s with documents := Entries.insert id d s.documents }

/-- Takes other settings, and makes its runner anew from them; a runner that was put in from
outside is kept. -/
def configure (settings : Settings) : PlainService :=
  { s with
    settings := settings
    runner := if s.ownsValidator then .process settings.validator else s.runner }

/-- Opens a document, in place of one with its name if there is one. -/
def openDocument (id text : Text) (path : Option Text) : PlainService × Summary :=
  let d := PlainDocument.opened (Document.ofText text path) s.openings
  ({ s.put id d with openings := s.openings + 1 }, d.summary id)

/-- Takes the text of a document after an edit. -/
def update (id text : Text) : PlainService × Result Summary :=
  match s.find id with
  | .ok d => (s.put id (d.update text), .ok ((d.update text).summary id))
  | .error e => (s, .error e)

/-- The fixes for a diagnostic, as they are proposed now. -/
def fixesFor (id : Text) (index : Int) : Result (List QuickFix) :=
  match s.find id with
  | .error e => .error e
  | .ok d =>
      if index < 0 then .error (.negativeDiagnostic index)
      else
        match d.session.diagnostics[index.toNat]? with
        | none => .error (.noDiagnostic index)
        | some diagnostic => .ok (proposeFixes diagnostic d.document.lines)

/-- Applies a fix to its document. -/
def applyFix (id : Text) (index fixIndex : Int) : PlainService × Result Applied :=
  match s.fixesFor id index with
  | .error e => (s, .error e)
  | .ok fixes =>
      match s.find id, Service.pick fixes fixIndex with
      | .ok d, .ok fix =>
          let d := d.applyFix fix
          (s.put id d, .ok ⟨d.summary id, fixIndex.toNat, fix, d.document.text⟩)
      | .error e, _ => (s, .error e)
      | _, .error e => (s, .error e)

/-- The diagnostics of a document. -/
def diagnosticsOf (id : Text) : Result (List Diagnostic) :=
  (s.find id).map fun d => d.session.diagnostics

/-- Finishes a pass with a report, if its document is still open as it was. -/
def finishPass (pass : Pass) (report : Report) : PlainService × Result (List Diagnostic) :=
  let finished :=
    match s.find pass.id with
    | .ok d =>
        if d.opening = pass.opening then s.put pass.id (d.conclude pass.generation report) else s
    | .error _ => s
  (finished, finished.diagnosticsOf pass.id)

/-- The start of the pass that a request asks for, if its validator is to be called: no output
is at hand, validation is on, and the document has a file. -/
def launch : Request → Option (PlainService × Pass × Text)
  | .validate id none =>
      match s.find id with
      | .error _ => none
      | .ok d =>
          if s.settings.enabled then
            match d.document.path with
            | some (c :: path) => some (s.put id d.start, d.pass id, c :: path)
            | _ => none
          else none
  | _ => none

/-- A validation that calls no validator: an output is at hand, or validation is off, or the
document has no file and loses its diagnostics. -/
def validate (id : Text) (output : Option Text) : PlainService × Result (List Diagnostic) :=
  match s.find id with
  | .error e => (s, .error e)
  | .ok d =>
      match output with
      | some output => (s.put id d.start).finishPass (d.pass id) (.ok (some output))
      | none =>
          if s.settings.enabled then (s.put id d.clear, .ok [])
          else (s, .ok d.session.diagnostics)

/-- Answers a request that calls no validator. -/
def answer : Request → PlainService × Result Answer
  | .openDocument id text path =>
      let (s, summary) := s.openDocument id text path
      (s, .ok (.summary summary))
  | .update id text =>
      let (s, answer) := s.update id text
      (s, answer.map .summary)
  | .close id => ({ s with documents := Entries.erase id s.documents }, .ok .done)
  | .list => (s, .ok (.summaries (s.documents.map fun entry => entry.2.summary entry.1)))
  | .text id => (s, (s.find id).map fun d => .text d.document.text)
  | .lines id => (s, (s.find id).map fun d => .lines d.document.lines)
  | .format id options =>
      (s, (s.find id).map fun d => .formatted (d.format id (options.getD s.settings.options)))
  | .validate id output =>
      let (s, answer) := s.validate id output
      (s, answer.map .diagnostics)
  | .diagnostics id => (s, (s.diagnosticsOf id).map .diagnostics)
  | .fixes id index => (s, (s.fixesFor id index).map .fixes)
  | .applyFix id index fixIndex =>
      let (s, answer) := s.applyFix id index fixIndex
      (s, answer.map .applied)
  | .complete before => (s, .ok (.completions (SchemaEditor.complete before)))
  | .configure settings => (s.configure settings, .ok .done)

/-- The plain service as a machine. -/
def machine : Machine PlainService := ⟨launch, answer, finishPass⟩

/-- The traffic of a plain service that has just been started. -/
def idleTraffic (settings : Settings) (ownsValidator : Bool) : Traffic PlainService :=
  ⟨initial settings ownsValidator, []⟩

end PlainService

/-! ## What a plain service forgets -/

/-- The document without the fixes that were asked for. -/
def OpenDocument.plain (d : OpenDocument) : PlainDocument :=
  ⟨d.document, d.session, d.version, d.opening⟩

/-- The service without the fixes that it keeps. -/
def Service.plain (s : Service) : PlainService :=
  ⟨s.settings, s.ownsValidator, s.runner, Entries.mapValues OpenDocument.plain s.documents,
    s.openings⟩

namespace OpenDocument
variable (d : OpenDocument)

@[simp] theorem plain_document : d.plain.document = d.document := rfl

@[simp] theorem plain_session : d.plain.session = d.session := rfl

end OpenDocument

@[simp] theorem Service.plain_settings (s : Service) : s.plain.settings = s.settings := rfl

end SchemaEditor
