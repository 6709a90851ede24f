import SchemaEditor.Text.Utf16
import SchemaEditor.Text.Utf8

/-!
# Octets of JSON

JSON is sent in UTF-8, or in UTF-16 or UTF-32 with the octets of a unit in either
order.  The first character of a value is an ASCII character, so the zeros among
the first octets tell the encoding apart.
-/

namespace SchemaEditor.Json
open Text

/-- An encoding of text; a wide one may have the greater octets in front. -/
inductive Encoding where
  | utf8
  | utf16 (bigEndian : Bool)
  | utf32 (bigEndian : Bool)
  deriving DecidableEq, Repr

namespace Encoding

/-- The encoding that the first octets show. -/
def detect : List UInt8 → Encoding
  | a :: b :: c :: d :: _ =>
      if a = 0 then (if b = 0 then .utf32 true else .utf16 true)
      else if b = 0 then (if c = 0 ∧ d = 0 then .utf32 false else .utf16 false)
      else .utf8
  | [a, b] =>
      if a = 0 then .utf16 true
      else if b = 0 then .utf16 false
      else .utf8
  | _ => .utf8

/-- The number that octets write; the greater ones stand in front. -/
def ofOctets (octets : List UInt8) : Nat := octets.foldl (fun n b => n * 256 + b.toNat) 0

/-- The number that the octets of one unit write. -/
def unitOf (bigEndian : Bool) (octets : List UInt8) : Nat :=
  ofOctets (if bigEndian then octets else octets.reverse)

/-- The units of two octets, if none is cut off. -/
def units16? (bigEndian : Bool) : List UInt8 → Option (List Nat)
  | [] => some []
  | a :: b :: rest => (units16? bigEndian rest).map (unitOf bigEndian [a, b] :: ·)
  | _ => none

/-- The units of four octets, if none is cut off or beyond Unicode. -/
def units32? (bigEndian : Bool) : List UInt8 → Option (List Nat)
  | [] => some []
  | a :: b :: c :: d :: rest =>
      let unit := unitOf bigEndian [a, b, c, d]
      if unit < 0x110000 then (units32? bigEndian rest).map (unit :: ·) else none
  | _ => none

/-- The text of octets, if they are well-formed. -/
def decode? : Encoding → List UInt8 → Option Text
  | .utf8, octets => Utf8.decode? octets
  | .utf16 bigEndian, octets => (units16? bigEndian octets).map Utf16.decode
  | .utf32 bigEndian, octets => (units32? bigEndian octets).map (·.map .ofNat)

end Encoding

/-- A text without a byte order mark in front. -/
def dropMark : Text → Text
  | [] => []
  | c :: rest => if c.toNat = 0xFEFF then rest else c :: rest

/-- The text of the octets of a value, if they are well-formed; a byte order mark
of UTF-8 is dropped. -/
def textOf? (octets : List UInt8) : Option Text :=
  match Encoding.detect octets with
  | .utf8 => (Encoding.utf8.decode? octets).map dropMark
  | wide => wide.decode? octets

end SchemaEditor.Json
