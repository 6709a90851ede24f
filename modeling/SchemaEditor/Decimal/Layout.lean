import SchemaEditor.Decimal.Digits

/-!
# Writing numbers

A number is written with its digits around a point, or, if it is very large or
very small, with one digit before the point and a power of ten of at least two
digits.  A `Layout` says where the first form ends and whether a whole number
keeps a zero after the point.  The two layouts in use are `exact`, with the
fewest digits that read back, and `brief`, with six digits.
-/

namespace SchemaEditor

/-- The decisions of a way to write numbers. -/
structure Layout where
  /-- The digits that are written; `none` for the fewest that read back. -/
  digitCount : Option Nat
  /-- The greatest count of digits before the point. -/
  maxPlace : Int
  /-- A whole number keeps a zero after the point. -/
  keepPoint : Bool
  deriving DecidableEq, Repr

namespace Layout

/-- The fewest digits that read back, without a power of ten below `10 ^ 16`. -/
def exact : Layout := ⟨none, 16, true⟩

/-- Six digits, without a power of ten below `10 ^ 6`. -/
def brief : Layout := ⟨some 6, 6, false⟩

/-- Below this place of the first digit a power of ten is written. -/
def minPlace : Int := -4

variable (l : Layout)

/-- A number of zeros. -/
def zeros (n : Nat) : Text := List.replicate n '0'

/-- A minus sign, if the number is negative. -/
def sign (negative : Bool) : Text := if negative then ['-'] else []

/-- Digits around a point. -/
def positional (digits : Text) (place : Int) : Text :=
  if place ≤ 0 then Text.ofString "0." ++ zeros (-place).toNat ++ digits
  else if (digits.length : Int) ≤ place then
    digits ++ zeros (place.toNat - digits.length) ++
      if l.keepPoint then Text.ofString ".0" else []
  else digits.take place.toNat ++ Text.ofString "." ++ digits.drop place.toNat

/-- One digit, the others after a point, and a power of ten. -/
def scientific (digits : Text) (place : Int) : Text :=
  let power := place - 1
  let digitsOfPower := Text.ofNat power.natAbs
  digits.take 1 ++ (if digits.length ≤ 1 then [] else Text.ofString "." ++ digits.drop 1) ++
    Text.ofString (if power < 0 then "e-" else "e+") ++ zeros (2 - digitsOfPower.length) ++
      digitsOfPower

/-- A positive decimal value. -/
def writeDecimal (d : Decimal) : Text :=
  let digits := Text.ofNat d.digits
  let place : Int := digits.length + d.exponent
  if minPlace < place ∧ place ≤ l.maxPlace then l.positional digits place
  else scientific digits place

/-- The digits of a positive number. -/
def decimalOf (mantissa : Nat) (exponent : Int) : Decimal :=
  match l.digitCount with
  | none => Decimal.shortest mantissa exponent
  | some n => Decimal.rounded n mantissa exponent

/-- A number. -/
def write : Binary64 → Text
  | .nan => Text.ofString "nan"
  | .infinite negative => sign negative ++ Text.ofString "inf"
  | .finite negative mantissa exponent =>
      sign negative ++
        if mantissa = 0 then Text.ofString (if l.keepPoint then "0.0" else "0")
        else l.writeDecimal (l.decimalOf mantissa exponent)

end Layout

end SchemaEditor
