/-!
# Code points

A code point is a character, or one of the 2048 halves from which UTF-16 makes
the characters beyond the first 65536.  A half that stands alone is no character
and has no encoding in UTF-8, but a string of JSON may name one, so texts keep
them.  `toNat` numbers the code points and `ofNat` finds them by their number.
-/

namespace SchemaEditor

/-- A code point: a character, or half a surrogate pair, counted from the first of
them. -/
inductive CodePoint where
  | char (c : Char)
  | half (n : Fin 0x800)
  deriving DecidableEq, Repr

namespace CodePoint

instance : Coe Char CodePoint := ⟨char⟩

/-- The number of a code point. -/
def toNat : CodePoint → Nat
  | char c => c.toNat
  | half n => 0xD800 + n.val

/-- The code point of a number. -/
def ofNat (n : Nat) : CodePoint :=
  if h : 0xD800 ≤ n ∧ n < 0xE000 then half ⟨n - 0xD800, by omega⟩ else char (Char.ofNat n)

/-- The character that a code point is, unless it is half a pair. -/
def toChar? : CodePoint → Option Char
  | char c => some c
  | half _ => none

/-- The code point is a character. -/
def isChar (c : CodePoint) : Bool := c.toChar?.isSome

@[simp] theorem toNat_char (c : Char) : toNat (char c) = c.toNat := rfl

end CodePoint

end SchemaEditor
