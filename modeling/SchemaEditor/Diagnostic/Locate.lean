import SchemaEditor.Line
import SchemaEditor.Diagnostic.Basic
import SchemaEditor.Diagnostic.Message

/-!
# Where a message points

A message names no place, so its place is guessed from the lines alone.  The
lower-cased message is looked through for the markers of three complaints, in a
fixed order: a missing colon, a missing semicolon, a missing brace.  The first
complaint with a marker in the message decides, and its place is the first line
that could have caused it (`Complaint.place?`).  With no complaint or no such
line the place is the start of the document.
-/

namespace SchemaEditor
open Text

/-- What a message can complain about. -/
inductive Complaint where
  | missingColon
  | missingSemicolon
  | missingBrace
  deriving DecidableEq, Repr

namespace Complaint

/-- The complaints in the order in which they are tried. -/
def all : List Complaint := [.missingColon, .missingSemicolon, .missingBrace]

/-- The texts that show a complaint, in lower case. -/
def markers : Complaint → List Text
  | .missingColon => [ofString "expected `:`", ofString "expected \":\"", ofString "missing colon"]
  | .missingSemicolon => [ofString "expected `;`", ofString "expected \";\"", ofString "semicolon"]
  | .missingBrace =>
      [ofString "expected `\x7b`", ofString "expected \"\x7b\"", ofString "missing brace"]

/-- The lower-cased message shows the complaint. -/
def isIn (c : Complaint) (lowered : Text) : Bool := hasAnyPart c.markers lowered

/-- The complaint of a message: the first that it shows. -/
def ofMessage? (message : Text) : Option Complaint := all.find? fun c => c.isIn (lower message)

end Complaint

namespace Locate

/-- The text is two words with blanks between them. -/
def isTwoWords (t : Text) : Bool :=
  match t.takeWhile isWord, t.dropWhile isWord with
  | _ :: _, c :: rest =>
      isBlank c && (!(trimStart rest).isEmpty && (trimStart rest).all isWord)
  | _, _ => false

/-- A field that lacks its colon: two words that declare nothing. -/
def lacksColon (line : Text) : Bool :=
  !List.contains (trim line) ':' && isTwoWords (trim line) &&
    !decide (Line.kind false (trim line) = .declaration)

/-- A field that lacks its semicolon: it has a colon and ends with neither a
semicolon nor a brace. -/
def lacksSemicolon (line : Text) : Bool :=
  List.contains line ':' && (trim line).getLast? != some ';' && (trim line).getLast? != some '{'

/-- The line has the letters `struct`, blanks, and then a word. -/
def namesStruct : Text → Bool
  | [] => false
  | c :: rest => startsNamed (after? Line.structWord (c :: rest)) || namesStruct rest
where
  /-- What follows the keyword starts with a blank, and its first other character
  is of a word. -/
  startsNamed : Option Text → Bool
    | some (c :: rest) => isBlank c && (trimStart rest).head?.any isWord
    | _ => false

/-- A struct that lacks its brace. -/
def lacksBrace (line : Text) : Bool := namesStruct line && !List.contains line '{'

/-- The first visible character of a line. -/
def firstVisible (n : Nat) (line : Text) : Range := Range.onLine n (leadingBlanks line).length 1

/-- The last character of a line; empty on an empty line. -/
def lastCharacter (n : Nat) (line : Text) : Range :=
  Range.onLine n (line.length - 1) (Nat.min 1 line.length)

/-- The first line that meets a condition, with its number counted from `n`. -/
def firstLine? (condition : Text → Bool) (n : Nat) : List Text → Option (Nat × Text)
  | [] => none
  | line :: rest => if condition line then some (n, line) else firstLine? condition (n + 1) rest

end Locate

open Locate

/-- The line could have caused the complaint. -/
def Complaint.fits : Complaint → Text → Bool
  | .missingColon => lacksColon
  | .missingSemicolon => lacksSemicolon
  | .missingBrace => lacksBrace

/-- The part of a line that a complaint points at. -/
def Complaint.mark : Complaint → Nat → Text → Range
  | .missingColon => firstVisible
  | .missingSemicolon => lastCharacter
  | .missingBrace => lastCharacter

/-- Where a complaint points: at the first line that could have caused it. -/
def Complaint.place? (c : Complaint) (lines : List Text) : Option Range :=
  (firstLine? c.fits 0 lines).map fun found => c.mark found.1 found.2

/-- The first character of the document, empty if the first line is. -/
def documentStart (lines : List Text) : Range :=
  Range.onLine 0 0 (Nat.min 1 (lines.headD []).length)

/-- The range a message is taken to be about. -/
def locate (message : Text) (lines : List Text) : Range :=
  match Complaint.ofMessage? message with
  | some c => (c.place? lines).getD (documentStart lines)
  | none => documentStart lines

/-- The diagnostics of a validator's output; none if the output has no message. -/
def diagnose (output : Option Text) (lines : List Text) : List Diagnostic :=
  match output.bind Message.extract? with
  | some message => [⟨locate message lines, message, .error, Diagnostic.ownSource⟩]
  | none => []

end SchemaEditor
