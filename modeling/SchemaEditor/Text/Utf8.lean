import SchemaEditor.Text.Basic

/-!
# UTF-8

Octets are read by a machine that stands either between characters or inside one,
and then knows the value read so far, how many octets the character still needs,
and the interval in which the next one must lie.  An octet outside that interval
ends the character early: what was read of it is one malformed piece, and the
octet is read anew.  So the pieces are the longest beginnings of well-formed
characters.

`decode?` refuses a text with a malformed piece, and `decodeLossy` writes the
replacement character for each.
-/

namespace SchemaEditor.Text.Utf8

/-- A character that has been read in part. -/
structure Partial where
  /-- The bits read so far. -/
  value : Nat
  /-- How many octets are still needed, less the next one. -/
  further : Nat
  /-- The least octet that may come next. -/
  low : Nat
  /-- The greatest octet that may come next. -/
  high : Nat
  deriving DecidableEq, Repr

/-- What the machine finds in order: characters, and malformed pieces as `none`. -/
abbrev Pieces := List (Option CodePoint)

/-- Reads the first octet of a character. -/
def first (b : Nat) : Pieces × Option Partial :=
  if b < 0x80 then ([some (.char (Char.ofNat b))], none)
  else if 0xC2 ≤ b ∧ b < 0xE0 then ([], some ⟨b - 0xC0, 0, 0x80, 0xBF⟩)
  else if b = 0xE0 then ([], some ⟨0, 1, 0xA0, 0xBF⟩)
  else if b = 0xED then ([], some ⟨0xD, 1, 0x80, 0x9F⟩)
  else if 0xE1 ≤ b ∧ b < 0xF0 then ([], some ⟨b - 0xE0, 1, 0x80, 0xBF⟩)
  else if b = 0xF0 then ([], some ⟨0, 2, 0x90, 0xBF⟩)
  else if 0xF1 ≤ b ∧ b < 0xF4 then ([], some ⟨b - 0xF0, 2, 0x80, 0xBF⟩)
  else if b = 0xF4 then ([], some ⟨4, 2, 0x80, 0x8F⟩)
  else ([none], none)

/-- Reads one octet. -/
def step (state : Option Partial) (b : Nat) : Pieces × Option Partial :=
  match state with
  | none => first b
  | some p =>
      if p.low ≤ b ∧ b ≤ p.high then
        let value := p.value * 64 + (b - 0x80)
        match p.further with
        | 0 => ([some (.char (Char.ofNat value))], none)
        | n + 1 => ([], some ⟨value, n, 0x80, 0xBF⟩)
      else
        let (pieces, next) := first b
        (none :: pieces, next)

/-- The pieces of octets; a character that the end cuts off is malformed. -/
def pieces : Option Partial → List UInt8 → Pieces
  | none, [] => []
  | some _, [] => [none]
  | state, b :: rest =>
      let (found, next) := step state b.toNat
      found ++ pieces next rest

/-- The text of octets, if all of them are well-formed. -/
def decode? (octets : List UInt8) : Option Text := (pieces none octets).mapM id

/-- The text of octets, with the replacement character for every malformed piece. -/
def decodeLossy (octets : List UInt8) : Text :=
  (pieces none octets).map fun piece => piece.getD (.ofNat 0xFFFD)

/-- The octets of a code point.  A half has none. -/
def encodePoint : CodePoint → List UInt8
  | .char c => String.utf8EncodeChar c
  | .half _ => []

/-- The octets of the characters of a text. -/
def encode (t : Text) : List UInt8 := t.flatMap encodePoint

/-- The octets of a text, unless it has half a pair in it. -/
def encode? (t : Text) : Option (List UInt8) := if isWhole t then some (encode t) else none

end SchemaEditor.Text.Utf8
