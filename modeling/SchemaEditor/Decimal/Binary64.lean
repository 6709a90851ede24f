import SchemaEditor.Text.Basic

/-!
# Binary floating-point numbers

The numbers of the binary format with 64 bits, as exact values: a sign, and a
mantissa times a power of two.  `ofRatio` rounds a quotient to the nearest of
them, a tie to the one with an even mantissa, and every other way of making one
goes through it.
-/

namespace SchemaEditor

/-- A binary floating-point number. -/
inductive Binary64 where
  /-- No number. -/
  | nan
  /-- Infinity of either sign. -/
  | infinite (negative : Bool)
  /-- The value `mantissa * 2 ^ exponent`, with its sign.  The mantissa has at
  most 53 bits, and exactly as many unless the exponent is the least one. -/
  | finite (negative : Bool) (mantissa : Nat) (exponent : Int)
  deriving DecidableEq, Repr

namespace Binary64

/-- The least mantissa of 53 bits. -/
def minMantissa : Nat := Nat.pow 2 52

/-- The least exponent. -/
def minExponent : Int := -1074

/-- The greatest exponent. -/
def maxExponent : Int := 971

/-- The nearest integer to a quotient, a tie to the even one. -/
def roundDiv (num den : Nat) : Nat :=
  let q := num / den
  let r := num % den
  if den < 2 * r ∨ (2 * r = den ∧ q % 2 = 1) then q + 1 else q

/-- The quotient `num / den` divided by `2 ^ exponent`, as a quotient. -/
def scale (num den : Nat) (exponent : Int) : Nat × Nat :=
  match exponent with
  | .ofNat e => (num, den * Nat.pow 2 e)
  | .negSucc e => (num * Nat.pow 2 (e + 1), den)

/-- The exponent at which the quotient of two positive numbers has a mantissa of
53 bits, or the least exponent if it is smaller than that. -/
def exponentOf (num den : Nat) : Int :=
  let guess : Int := (num.log2 : Int) - den.log2 - 52
  let (n, d) := scale num den guess
  let exact := if n < d * minMantissa then guess - 1 else guess
  if exact < minExponent then minExponent else exact

/-- The nearest number to the quotient `num / den`. -/
def ofRatio (negative : Bool) (num den : Nat) : Binary64 :=
  if num = 0 then .finite negative 0 minExponent
  else
    let exponent := exponentOf num den
    let (n, d) := scale num den exponent
    let rounded := roundDiv n d
    let (mantissa, exponent) :=
      if rounded = 2 * minMantissa then (minMantissa, exponent + 1) else (rounded, exponent)
    if maxExponent < exponent then .infinite negative else .finite negative mantissa exponent

/-- The nearest number to `digits * 10 ^ exponent`.  Beyond 400 places the value
is certainly infinite or zero, and no power is computed. -/
def ofDecimal (negative : Bool) (digits : Nat) (exponent : Int) : Binary64 :=
  let places : Int := (Nat.toDigits 10 digits).length + exponent
  if digits = 0 ∨ places < -400 then .finite negative 0 minExponent
  else if 400 < places then .infinite negative
  else
    match exponent with
    | .ofNat e => ofRatio negative (digits * Nat.pow 10 e) 1
    | .negSucc e => ofRatio negative digits (Nat.pow 10 (e + 1))

/-- The nearest number to an integer. -/
def ofInt (n : Int) : Binary64 := ofRatio (decide (n < 0)) n.natAbs 1

/-- The nearest number to an integer, unless it is beyond the finite ones. -/
def ofInt? (n : Int) : Option Binary64 :=
  match ofInt n with
  | .finite negative mantissa exponent => some (.finite negative mantissa exponent)
  | _ => none

/-- The number is above zero. -/
def isPositive : Binary64 → Bool
  | .nan => false
  | .infinite negative => !negative
  | .finite negative mantissa _ => !negative && mantissa != 0

/-- The integer that a number is, if it has no fraction. -/
def toInt? : Binary64 → Option Int
  | .finite negative mantissa (.ofNat e) => some (signed negative (mantissa * Nat.pow 2 e))
  | .finite negative mantissa (.negSucc e) =>
      if mantissa % Nat.pow 2 (e + 1) = 0 then
        some (signed negative (mantissa / Nat.pow 2 (e + 1)))
      else none
  | _ => none
where
  /-- A natural number with a sign. -/
  signed (negative : Bool) (n : Nat) : Int := if negative then -(n : Int) else n

/-- The number is finite. -/
def isFinite : Binary64 → Bool
  | .finite .. => true
  | _ => false

end Binary64

end SchemaEditor
