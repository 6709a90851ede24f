import SchemaEditor.Line

/-!
# Completion

What is offered for completion depends only on the text between the start of the
line and the cursor: attributes in an attribute that is not closed, types right
after a colon, keywords and attributes at the start of a line, and everything
elsewhere.
-/

namespace SchemaEditor
open Text

/-- What a completion stands for. -/
inductive CompletionKind where
  | keyword
  | type
  | attribute
  deriving DecidableEq, Repr

/-- The word for a kind of completion. -/
def CompletionKind.name : CompletionKind → Text
  | .keyword => ofString "keyword"
  | .type => ofString "type"
  | .attribute => ofString "attribute"

/-- One completion: its label, what is said about it, and what it inserts. -/
structure CompletionItem where
  label : Text
  kind : CompletionKind
  detail : Text
  documentation : Text
  insertText : Text
  deriving DecidableEq, Repr

namespace Completion

/-- A completion that inserts its label. -/
def plain (kind : CompletionKind) (label detail documentation : String) : CompletionItem :=
  ⟨ofString label, kind, ofString detail, ofString documentation, ofString label⟩

/-- A completion that inserts another text. -/
def inserting (kind : CompletionKind) (label detail documentation insertText : String) :
    CompletionItem :=
  ⟨ofString label, kind, ofString detail, ofString documentation, ofString insertText⟩

/-- The completion of an integer type. -/
def integerType (letter : Char) (capital lowered : String) (bits : Nat) : CompletionItem :=
  let name : Text := letter :: Text.ofNat bits
  ⟨name, .type, ofString capital ++ ofString " " ++ Text.ofNat bits ++ ofString "-bit integer",
    ofString "Primitive " ++ ofString lowered ++ ofString " integer type (" ++ name ++ ofString ")",
    name⟩

/-- The widths of the integer types. -/
def integerWidths : List Nat := [8, 16, 32, 64, 128]

/-- The completions of types. -/
def types : List CompletionItem :=
  integerWidths.map (integerType 'u' "Unsigned" "unsigned") ++
    integerWidths.map (integerType 'i' "Signed" "signed") ++
    [plain .type "bool" "Boolean type" "Boolean value (true/false)",
      plain .type "String" "String type" "UTF-8 encoded string",
      plain .type "PublicKey" "Solana public key" "Solana account public key (32 bytes)",
      plain .type "Signature" "Solana signature" "Cryptographic signature (64 bytes)",
      inserting .type "Vec" "Vector type" "Dynamic array: `Vec<T>`, e.g. `Vec<PublicKey>`" "Vec<>",
      inserting .type "Option" "Optional type" "Optional value: `Option<T>`, e.g. `Option<u64>`"
        "Option<>"]

/-- The completions of keywords. -/
def keywords : List CompletionItem :=
  [plain .keyword "struct" "Define a struct" "Define a data structure",
    plain .keyword "enum" "Define an enum" "Define an enumeration",
    plain .keyword "pub" "Public visibility" "Make item public"]

/-- The completions of attributes. -/
def attributes : List CompletionItem :=
  [plain .attribute "#[solana]" "Solana attribute" "Mark type for Solana-specific code generation",
    plain .attribute "#[account]" "Anchor account attribute" "Mark struct as Anchor account",
    inserting .attribute "#[derive]" "Derive traits"
      "Derive common traits, e.g. `#[derive(Debug, Clone)]`" "#[derive()]"]

/-- The text before the cursor opens an attribute and holds no closing bracket. -/
def inAttribute (before : Text) : Bool :=
  hasPart Line.attributeMarker before && !List.contains before ']'

/-- The last visible character before the cursor is a colon. -/
def afterColon (before : Text) : Bool := (trim before).getLast? == some ':'

/-- There is nothing visible before the cursor. -/
def atLineStart (before : Text) : Bool := (trim before).isEmpty

end Completion

open Completion

/-- The completions for the text before the cursor. -/
def complete (before : Text) : List CompletionItem :=
  if inAttribute before then Completion.attributes
  else if afterColon before then types
  else if atLineStart before then keywords ++ Completion.attributes
  else types ++ keywords ++ Completion.attributes

end SchemaEditor
