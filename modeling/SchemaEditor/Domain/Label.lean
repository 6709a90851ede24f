import SchemaEditor.Domain.Context
import SchemaEditor.Domain.Direction
import SchemaEditor.Domain.LowerCase
import SchemaEditor.Domain.Punycode

/-!
# Domain names

A domain name is labels with dots between them.  A label is composed, has a hyphen
neither at an end nor at its third and fourth place, starts with no mark, has only
code points that may stand where they stand, and can be read in one direction
(`Label.check`).  A label with other letters than those of ASCII is sent in ASCII,
after four characters that mark it.  A name as a whole is `encode`d or `decode`d;
either way all of its labels are checked.
-/

namespace SchemaEditor.Domain
open Text

/-- Why a text is no domain name. -/
inductive NameError where
  /-- A label is empty, too long, not composed, or has its hyphens or marks in the
  wrong places, or is no written form of a label. -/
  | malformed
  /-- A label has a code point that no label may have. -/
  | refused
  /-- A label has a code point that may not stand where it stands. -/
  | misplaced
  /-- A label cannot be read in one direction. -/
  | direction
  deriving DecidableEq, Repr

namespace Label

/-- The hyphens of a label are neither at an end nor at its third and fourth place. -/
def hyphensFit (t : Text) : Bool :=
  t.head? != some '-' && t.getLast? != some '-' && (t.drop 2).take 2 != ofString "--"

/-- Checks the code points of a label one by one, given those before, from the last
one on. -/
def checkPoints (before : List Nat) : List Nat → Except NameError Unit
  | [] => .ok ()
  | n :: after =>
      match Standing.of before n after with
      | .refused => .error .refused
      | .misplaced => .error .misplaced
      | _ => checkPoints (n :: before) after

/-- Checks a label. -/
def check (t : Text) : Except NameError Unit :=
  let points := t.map CodePoint.toNat
  if !isComposed points || !hyphensFit t || !(points.head?.any fun n => !isMark n) then
    .error .malformed
  else
    match checkPoints [] points with
    | .error e => .error e
    | .ok _ => if hasOneDirection points then .ok () else .error .direction

/-- What marks a label whose letters are written in ASCII. -/
def asciiMark : Text := ofString "xn--"

/-- The greatest length of a label in ASCII. -/
def maxLength : Nat := 63

/-- Checks a label in ASCII, which may be the written form of another one. -/
def checkAscii (t : Text) : Except NameError Unit :=
  let t := t.map lowerAscii
  match after? asciiMark t with
  | none => check t
  | some coded =>
      if coded = [] ∨ coded.getLast? = some '-' then .error .malformed
      else
        match Punycode.decode? coded with
        | none => .error .malformed
        | some label => check label

/-- The label in ASCII. -/
def encode (t : Text) : Except NameError Text :=
  if maxLength < t.length then .error .malformed
  else if isAscii t then (checkAscii t).map fun _ => t
  else
    match check t with
    | .error e => .error e
    | .ok _ =>
        let coded := asciiMark ++ Punycode.encode t
        if maxLength < coded.length then .error .malformed else .ok coded

end Label

/-- The dots between labels. -/
def isDot (c : CodePoint) : Bool :=
  c == '.' || c.toNat == 0x3002 || c.toNat == 0xFF0E || c.toNat == 0xFF61

/-- The labels of a name.  A dot at its end says nothing. -/
def labels (name : Text) : List Text :=
  let pieces := splitOn '.' (name.map fun c => if isDot c then '.' else c)
  if pieces.getLast? = some [] then pieces.dropLast else pieces

/-- The greatest length of a name in ASCII. -/
def maxLength : Nat := 253

/-- A name in ASCII. -/
def encode (name : Text) : Except NameError Text :=
  match (labels name).mapM Label.encode with
  | .error e => .error e
  | .ok coded =>
      let t := List.intercalate (ofString ".") coded
      if coded = [] ∨ maxLength < t.length then .error .malformed else .ok t

/-- Checks the labels of a name in ASCII. -/
def checkAscii (name : Text) : Except NameError Unit :=
  (labels name).forM Label.checkAscii

end SchemaEditor.Domain
