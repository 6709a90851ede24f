import SchemaEditor.Service.Validation

/-!
# Requests and answers

All that can be asked of a service, as one type, and what it answers.
-/

namespace SchemaEditor

/-- A request to a service. -/
inductive Request where
  | openDocument (id text : Text) (path : Option Text)
  | update (id text : Text)
  | close (id : Text)
  | list
  | text (id : Text)
  | lines (id : Text)
  | format (id : Text) (options : Option FormatOptions)
  | validate (id : Text) (output : Option Text)
  | diagnostics (id : Text)
  | fixes (id : Text) (index : Int)
  | applyFix (id : Text) (index fixIndex : Int)
  | complete (before : Text)
  | configure (settings : Settings)
  deriving DecidableEq, Repr

/-- An answer of a service. -/
inductive Answer where
  | done
  | summary (s : Summary)
  | summaries (all : List Summary)
  | text (t : Text)
  | lines (ls : List Text)
  | formatted (f : Formatted)
  | diagnostics (ds : List Diagnostic)
  | fixes (fs : List QuickFix)
  | applied (a : Applied)
  | completions (items : List CompletionItem)
  deriving DecidableEq, Repr

namespace Service

/-- Answers a request.  Only validation touches the world outside. -/
def handle {σ : Type} (host : Host σ) (env : σ) (s : Service) :
    Request → (σ × Service) × Result Answer
  | .openDocument id text path =>
      let (s, summary) := s.openDocument id text path
      ((env, s), .ok (.summary summary))
  | .update id text =>
      let (s, answer) := s.update id text
      ((env, s), answer.map .summary)
  | .close id => ((env, s.close id), .ok .done)
  | .list => ((env, s), .ok (.summaries s.list))
  | .text id => ((env, s), (s.textOf id).map .text)
  | .lines id => ((env, s), (s.linesOf id).map .lines)
  | .format id options => ((env, s), (s.format id options).map .formatted)
  | .validate id output =>
      let (world, answer) := s.validate host env id output
      (world, answer.map .diagnostics)
  | .diagnostics id => ((env, s), (s.diagnosticsOf id).map .diagnostics)
  | .fixes id index =>
      let (s, answer) := s.fixesFor id index
      ((env, s), answer.map .fixes)
  | .applyFix id index fixIndex =>
      let (s, answer) := s.applyFix id index fixIndex
      ((env, s), answer.map .applied)
  | .complete before => ((env, s), .ok (.completions (SchemaEditor.complete before)))
  | .configure settings => ((env, s.configure settings), .ok .done)

end Service

end SchemaEditor
