import SchemaEditor.Text.Basic

/-!
# UTF-16 code units

A code point beyond the first 65536 is written as two code units, the halves of a
surrogate pair.  `joinPairs` turns code units into code points: two halves that
belong together make one, and a half without its partner stays as it is.
-/

namespace SchemaEditor.Text.Utf16

/-- The first half of a surrogate pair. -/
def isHigh (n : Nat) : Bool := decide (0xD800 ≤ n ∧ n < 0xDC00)

/-- The second half of a surrogate pair. -/
def isLow (n : Nat) : Bool := decide (0xDC00 ≤ n ∧ n < 0xE000)

/-- The number of the code point that two halves make. -/
def pair (high low : Nat) : Nat := 0x10000 + (high - 0xD800) * 0x400 + (low - 0xDC00)

/-- The code points of code units: two halves that belong together make one. -/
def joinPairs : List Nat → List Nat
  | [] => []
  | [n] => [n]
  | a :: b :: rest =>
      if isHigh a && isLow b then pair a b :: joinPairs rest
      else a :: joinPairs (b :: rest)

/-- The text of code units. -/
def decode (units : List Nat) : Text := (joinPairs units).map .ofNat

end SchemaEditor.Text.Utf16
