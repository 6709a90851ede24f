import SchemaEditor.Document
import SchemaEditor.Diagnostic.Locate

/-!
# Quick fixes

A quick fix is a titled patch that is offered for a diagnostic.  Each of the four
rules looks for its markers in the lower-cased message (`FixRule.triggers`) and
then builds a patch from the line the diagnostic is anchored at
(`FixRule.build?`), unless that line does not have the shape the rule needs.
Every rule that applies contributes a fix, in the order of the rules, and the
first fix is the preferred one.

A fix is not meant to be applied twice: a second colon or semicolon would be
inserted.  After a fix the document is validated again.
-/

namespace SchemaEditor
open Text

/-- A titled patch for a diagnostic. -/
structure QuickFix where
  title : Text
  patch : Patch
  /-- The diagnostic that it is offered for. -/
  diagnostic : Diagnostic
  preferred : Bool
  deriving DecidableEq, Repr

/-- The kinds of fixes. -/
inductive FixRule where
  | insertSeparator
  | insertTerminator
  | correctCasing
  | insertAttribute
  deriving DecidableEq, Repr

namespace FixRule

/-- The rules in their order. -/
def all : List FixRule := [.insertSeparator, .insertTerminator, .correctCasing, .insertAttribute]

/-- The name of a rule. -/
def name : FixRule → Text
  | .insertSeparator => ofString "insert-separator"
  | .insertTerminator => ofString "insert-terminator"
  | .correctCasing => ofString "correct-casing"
  | .insertAttribute => ofString "insert-attribute"

/-- The rule with a name. -/
def ofName? (word : Text) : Option FixRule := all.find? fun r => r.name == word

/-! ## Markers -/

/-- The attributes a validator can ask for; the first one that a message names is
meant. -/
def requiredAttributes : List Text := [ofString "solana", ofString "account"]

/-- The attribute that is meant when a message names none. -/
def defaultAttribute : Text := ofString "solana"

/-- The name of the attribute that a message asks for. -/
def attributeName (message : Text) : Text :=
  (requiredAttributes.find? fun name => hasPart name (lower message)).getD defaultAttribute

/-- The lower-cased message calls for the rule. -/
def triggers (r : FixRule) (lowered : Text) : Bool :=
  match r with
  | .insertSeparator => Complaint.missingColon.isIn lowered
  | .insertTerminator => Complaint.missingSemicolon.isIn lowered
  | .correctCasing => hasAnyPart [ofString "unknown type", ofString "pubkey"] lowered
  | .insertAttribute =>
      hasPart (ofString "attribute") lowered && hasAnyPart requiredAttributes lowered

/-! ## Separator and terminator -/

/-- The column after the first word that blanks and another word follow. -/
def separatorColumn? : Text → Option Nat
  | [] => none
  | c :: rest =>
      if isWord c && wordFollows (rest.dropWhile isWord) then
        some ((rest.takeWhile isWord).length + 1)
      else (separatorColumn? rest).map (· + 1)
where
  /-- The text starts with a blank, and its first other character is of a word. -/
  wordFollows : Text → Bool
    | [] => false
    | c :: rest => isBlank c && (trimStart rest).head?.any isWord

/-- The same column, without trying the rest of a word again: `tried` says that the word that
the text may start with has been tried and that no other word follows it. -/
def separatorScan? (tried : Bool) : Text → Option Nat
  | [] => none
  | c :: rest =>
      if !tried && isWord c && separatorColumn?.wordFollows (rest.dropWhile isWord) then
        some ((rest.takeWhile isWord).length + 1)
      else (separatorScan? (isWord c) rest).map (· + 1)

theorem separatorScan?_eq {tried : Bool} {t : Text}
    (h : tried = true → separatorColumn?.wordFollows (t.dropWhile isWord) = false) :
    separatorScan? tried t = separatorColumn? t := by
  induction t generalizing tried with
  | nil => rfl
  | cons c rest ih =>
    by_cases hc : isWord c = true
    · -- within a word the rest of it is the same for every character
      rw [List.dropWhile_cons_of_pos hc] at h
      cases hfollows : separatorColumn?.wordFollows (rest.dropWhile isWord) with
      | true =>
        have hfresh : tried = false := by
          cases tried with
          | false => rfl
          | true => exact absurd (h rfl) (by simp [hfollows])
        simp [separatorScan?, separatorColumn?, hc, hfollows, hfresh]
      | false =>
        have hrest : separatorScan? true rest = separatorColumn? rest := ih fun _ => hfollows
        simp [separatorScan?, separatorColumn?, hc, hfollows, hrest]
    · have hrest : separatorScan? false rest = separatorColumn? rest :=
        ih fun hfalse => absurd hfalse (by decide)
      simp [separatorScan?, separatorColumn?, hc, hrest]

/-- Inserts a colon after the field name. -/
def separatorFix? (n : Nat) (line : Text) : Option (Text × Patch) :=
  (separatorScan? false line).map fun column =>
    (ofString "Add colon after field name", ⟨Range.point n column, [':']⟩)

theorem separatorFix?_eq (n : Nat) (line : Text) :
    separatorFix? n line = (separatorColumn? line).map fun column =>
      (ofString "Add colon after field name", ⟨Range.point n column, [':']⟩) := by
  rw [separatorFix?, separatorScan?_eq fun hfalse => absurd hfalse (by decide)]

/-- Inserts a semicolon after the last visible character. -/
def terminatorFix? (n : Nat) (line : Text) : Option (Text × Patch) :=
  if isBlankText line then none
  else some (ofString "Add semicolon at end of line", ⟨Range.point n (trimEnd line).length, [';']⟩)

/-! ## Casing -/

/-- Type names in lower case with their proper spelling; the first entry that a
line misspells is corrected. -/
def properSpellings : List (Text × Text) :=
  [(ofString "pubkey", ofString "PublicKey"), (ofString "publickey", ofString "PublicKey"),
    (ofString "signature", ofString "Signature"), (ofString "vec", ofString "Vec"),
    (ofString "option", ofString "Option"), (ofString "string", ofString "String")]

/-- The line has the name as a whole word, in any case, and not spelled properly. -/
def misspells (name proper : Text) (line : Text) : Bool :=
  (runs line).any fun run => fold run == name && run != proper

/-- The line with every occurrence of the name as a whole word spelled properly. -/
def respell (name proper : Text) (line : Text) : Text :=
  (runs line).flatMap fun run => if fold run = name then proper else run

/-- Corrects the first misspelled type name of the line. -/
def casingFix? (n : Nat) (line : Text) : Option (Text × Patch) :=
  (properSpellings.find? fun entry => misspells entry.1 entry.2 line).map fun entry =>
    (ofString "Change '" ++ entry.1 ++ ofString "' to '" ++ entry.2 ++ ofString "'",
      ⟨Range.onLine n 0 line.length, respell entry.1 entry.2 line⟩)

/-! ## Attributes -/

/-- How many lines from the anchor on are searched for a struct. -/
def lookahead : Nat := 5

/-- The attribute stands in the run of attributes that ends the lines, which are
given from the last one upwards. -/
def annotatedAbove (wanted : Text) : List Text → Bool
  | [] => false
  | line :: above =>
      Line.isAttribute line && (trim line == wanted || annotatedAbove wanted above)

/-- Inserts the attribute above the struct, indented like it, unless it is there. -/
def attributeFix? (wanted : Text) (lines : List Text) (n : Nat) : Option (Text × Patch) :=
  match Locate.firstLine? Line.mentionsStruct n ((lines.drop n).take lookahead) with
  | none => none
  | some (found, line) =>
      if annotatedAbove wanted (lines.take found).reverse then none
      else
        some (ofString "Add " ++ wanted ++ ofString " attribute",
          ⟨Range.point found 0, leadingBlanks line ++ wanted ++ ofString "\n"⟩)

/-- The title and the patch of a rule, if the lines have the shape it needs. -/
def build? (r : FixRule) (lines : List Text) (d : Diagnostic) : Option (Text × Patch) :=
  match r with
  | .insertSeparator => lines[d.line]?.bind (separatorFix? d.line)
  | .insertTerminator => lines[d.line]?.bind (terminatorFix? d.line)
  | .correctCasing => lines[d.line]?.bind (casingFix? d.line)
  | .insertAttribute =>
      attributeFix? (Line.attributeMarker ++ attributeName d.message ++ ofString "]") lines d.line

end FixRule

/-- What was built for a diagnostic, the first fix marked as preferred. -/
def QuickFix.ofBuilt (d : Diagnostic) : List (Text × Patch) → List QuickFix
  | [] => []
  | first :: rest => ⟨first.1, first.2, d, true⟩ :: rest.map fun b => ⟨b.1, b.2, d, false⟩

/-- The fixes that the rules offer for a diagnostic; a diagnostic of another
source gets none. -/
def proposeFixesBy (rules : List FixRule) (d : Diagnostic) (lines : List Text) : List QuickFix :=
  if d.source = Diagnostic.ownSource then
    QuickFix.ofBuilt d
      ((rules.filter fun r => r.triggers (lower d.message)).filterMap fun r => r.build? lines d)
  else []

/-- The fixes that all rules offer for a diagnostic. -/
def proposeFixes (d : Diagnostic) (lines : List Text) : List QuickFix :=
  proposeFixesBy FixRule.all d lines

end SchemaEditor
