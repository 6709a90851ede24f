import SchemaEditor.Decimal.Binary64

/-!
# Decimal digits of a binary number

Two ways to write a positive number `mantissa * 2 ^ exponent` in decimal digits,
both as an integer of digits and a power of ten.

`shortest` takes the fewest digits that are nearer to the number than to any
other one.  The numbers that round to it form an interval, whose ends belong to
it when the mantissa is even; for one digit, two digits and so on, the two
neighbours of the number with so many digits are tried, and the first count with
a neighbour in the interval wins.  Of two such neighbours the nearer one is
taken.

`rounded` takes a given count of digits and rounds to the nearest, a tie to the
even digit.
-/

namespace SchemaEditor

/-- The value `digits * 10 ^ exponent`. -/
structure Decimal where
  digits : Nat
  exponent : Int
  deriving DecidableEq, Repr

namespace Decimal

/-- The value without zeros at the end of its digits; `fuel` bounds their number. -/
def dropZeros : Nat → Decimal → Decimal
  | 0, d => d
  | fuel + 1, d =>
      if d.digits % 10 = 0 ∧ d.digits ≠ 0 then dropZeros fuel ⟨d.digits / 10, d.exponent + 1⟩
      else d

/-- `num / den` divided by `10 ^ exponent`, as a quotient. -/
def scale (num den : Nat) (exponent : Int) : Nat × Nat :=
  match exponent with
  | .ofNat e => (num, den * Nat.pow 10 e)
  | .negSucc e => (num * Nat.pow 10 (e + 1), den)

/-- How many times `num / den` must be multiplied by ten to reach one; `fuel`
bounds the answer. -/
def zerosBefore : Nat → Nat → Nat → Nat
  | 0, _, _ => 0
  | fuel + 1, num, den => if num < den then zerosBefore fuel (num * 10) den + 1 else 0

/-- The place of the first digit of a positive quotient: with place `p` the
quotient lies between `10 ^ (p - 1)` and `10 ^ p`. -/
def placeOf (num den : Nat) : Int :=
  if den ≤ num then (Nat.toDigits 10 (num / den)).length
  else 1 - (zerosBefore 400 num den : Int)

/-- A positive number as a quotient of natural numbers. -/
def ratio (mantissa : Nat) (exponent : Int) : Nat × Nat :=
  match exponent with
  | .ofNat e => (mantissa * Nat.pow 2 e, 1)
  | .negSucc e => (mantissa, Nat.pow 2 (e + 1))

/-- The interval of values that round to a number, and whether its ends belong to
it.  Values are counted in quarters of the unit of the mantissa. -/
structure Interval where
  low : Nat
  value : Nat
  high : Nat
  closed : Bool
  deriving DecidableEq, Repr

/-- The interval of a number. -/
def intervalOf (mantissa : Nat) (exponent : Int) : Interval :=
  ⟨if mantissa = Binary64.minMantissa ∧ Binary64.minExponent < exponent then 4 * mantissa - 1
    else 4 * mantissa - 2,
    4 * mantissa, 4 * mantissa + 2, mantissa % 2 = 0⟩

/-- The best value with a given count of digits whose rounding is the number. -/
def candidate? (i : Interval) (exponent : Int) (place : Int) (count : Nat) : Option Decimal :=
  let unit : Int := place - count
  let (one, two) := ratio 1 (exponent - 2)
  let (num, den) := scale one two unit
  let below := i.value * num / den
  let inside (n : Nat) : Bool :=
    if i.closed then decide (i.low * num ≤ n * den ∧ n * den ≤ i.high * num)
    else decide (i.low * num < n * den ∧ n * den < i.high * num)
  let upNearer := 2 * (i.value * num % den)
  match inside below, inside (below + 1) with
  | true, true =>
      if upNearer < den ∨ (upNearer = den ∧ below % 2 = 0) then some ⟨below, unit⟩
      else some ⟨below + 1, unit⟩
  | true, false => some ⟨below, unit⟩
  | false, true => some ⟨below + 1, unit⟩
  | false, false => none

/-- The fewest digits that read back as the positive number. -/
def shortest (mantissa : Nat) (exponent : Int) : Decimal :=
  let (num, den) := ratio mantissa exponent
  let place := placeOf num den
  let found := (List.range 17).findSome? fun n =>
    candidate? (intervalOf mantissa exponent) exponent place (n + 1)
  dropZeros 400 (found.getD ⟨0, 0⟩)

/-- The positive number in a given count of digits. -/
def rounded (count : Nat) (mantissa : Nat) (exponent : Int) : Decimal :=
  let (num, den) := ratio mantissa exponent
  let unit : Int := placeOf num den - count
  let (n, d) := scale num den unit
  dropZeros 400 ⟨Binary64.roundDiv n d, unit⟩

end Decimal

end SchemaEditor
