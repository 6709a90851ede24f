import SchemaEditor.Completion
import SchemaEditor.Decimal.Binary64
import SchemaEditor.Decimal.Digits
import SchemaEditor.Decimal.Layout
import SchemaEditor.Diagnostic.Basic
import SchemaEditor.Diagnostic.Locate
import SchemaEditor.Diagnostic.Message
import SchemaEditor.Document
import SchemaEditor.Document.File
import SchemaEditor.Document.Slice
import SchemaEditor.Domain.Composition
import SchemaEditor.Domain.Context
import SchemaEditor.Domain.Direction
import SchemaEditor.Domain.Label
import SchemaEditor.Domain.Letter
import SchemaEditor.Domain.LowerCase
import SchemaEditor.Domain.Punycode
import SchemaEditor.Entries
import SchemaEditor.FilePath
import SchemaEditor.Format.Batch
import SchemaEditor.Format.Formatter
import SchemaEditor.Format.Options
import SchemaEditor.Http.Api
import SchemaEditor.Http.Body
import SchemaEditor.Http.Host
import SchemaEditor.Http.Route
import SchemaEditor.Http.Target
import SchemaEditor.Input.Fault
import SchemaEditor.Input.Number
import SchemaEditor.Input.Reader
import SchemaEditor.Json.Basic
import SchemaEditor.Json.Encoding
import SchemaEditor.Json.Reader
import SchemaEditor.Json.Writer
import SchemaEditor.Line
import SchemaEditor.MachineWord
import SchemaEditor.Position
import SchemaEditor.Proofs.Completion
import SchemaEditor.Proofs.Diagnostic.Ending
import SchemaEditor.Proofs.Diagnostic.Locate
import SchemaEditor.Proofs.Diagnostic.Marker
import SchemaEditor.Proofs.Diagnostic.Message
import SchemaEditor.Proofs.Document.Edit
import SchemaEditor.Proofs.Document.Offset
import SchemaEditor.Proofs.Document.RoundTrip
import SchemaEditor.Proofs.Document.Splice
import SchemaEditor.Proofs.Entries
import SchemaEditor.Proofs.Format.Absorption
import SchemaEditor.Proofs.Format.Arrangement
import SchemaEditor.Proofs.Format.Balance
import SchemaEditor.Proofs.Format.Column
import SchemaEditor.Proofs.Format.Depth
import SchemaEditor.Proofs.Format.Ending
import SchemaEditor.Proofs.Format.Field
import SchemaEditor.Proofs.Format.Layout
import SchemaEditor.Proofs.Format.Pass
import SchemaEditor.Proofs.Format.Preservation
import SchemaEditor.Proofs.Format.Section
import SchemaEditor.Proofs.Http.Failure
import SchemaEditor.Proofs.Http.Snippet
import SchemaEditor.Proofs.Line
import SchemaEditor.Proofs.QuickFix.Annotation
import SchemaEditor.Proofs.QuickFix.Casing
import SchemaEditor.Proofs.QuickFix.Mark
import SchemaEditor.Proofs.QuickFix.Touch
import SchemaEditor.Proofs.Service.AppliedOnce
import SchemaEditor.Proofs.Service.Independence
import SchemaEditor.Proofs.Service.Indistinct
import SchemaEditor.Proofs.Service.KeptFixes
import SchemaEditor.Proofs.Service.Move
import SchemaEditor.Proofs.Service.Nested
import SchemaEditor.Proofs.Service.Overlap
import SchemaEditor.Proofs.Service.Plain
import SchemaEditor.Proofs.Service.Reformat
import SchemaEditor.Proofs.Service.Refusal
import SchemaEditor.Proofs.Service.Repair
import SchemaEditor.Proofs.Service.Runner
import SchemaEditor.Proofs.Service.Traffic
import SchemaEditor.Proofs.Service.ValidatorCalls
import SchemaEditor.Proofs.Session
import SchemaEditor.Proofs.Settings
import SchemaEditor.Proofs.Text.Lines
import SchemaEditor.Proofs.Text.Trim
import SchemaEditor.Proofs.Text.Word
import SchemaEditor.Proofs.Validator
import SchemaEditor.QuickFix
import SchemaEditor.Service.Basic
import SchemaEditor.Service.Encode
import SchemaEditor.Service.Request
import SchemaEditor.Service.Validation
import SchemaEditor.Session
import SchemaEditor.Settings
import SchemaEditor.Text.Basic
import SchemaEditor.Text.CaseFold
import SchemaEditor.Text.CodePoint
import SchemaEditor.Text.Digit
import SchemaEditor.Text.Quoted
import SchemaEditor.Text.Ranges
import SchemaEditor.Text.Utf16
import SchemaEditor.Text.Utf8
import SchemaEditor.Text.Word
import SchemaEditor.Validator
