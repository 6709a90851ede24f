import SchemaEditor.Input.Fault
import SchemaEditor.Json.Reader
import SchemaEditor.Text.CaseFold

/-!
# Numbers written in text fields

A text field may hold a number.  An integer may have blanks around it, a sign,
leading zeros with underscores between them, single underscores between its
digits, and a point with zeros at its end.  A number with a fraction or a power
may have blanks around it or underscores between its digits, and infinity and
"not a number" are written as words.
-/

namespace SchemaEditor.Input
open Text Json

/-- The blanks that may stand around a number: those of Unicode, which has no
information separators among them. -/
def isSpacing (c : CodePoint) : Bool :=
  isBlank c && !decide (0x1C ≤ c.toNat ∧ c.toNat ≤ 0x1F)

/-- Drops the blanks around a number. -/
def trimSpacing (t : Text) : Text :=
  ((t.dropWhile isSpacing).reverse.dropWhile isSpacing).reverse

/-- The text without underscores, if each stands alone and none at an end. -/
def dropUnderscores? (t : Text) : Option Text :=
  if t.head? = some '_' ∨ t.getLast? = some '_' ∨ hasPart ['_', '_'] t then none
  else some (t.filter (· ≠ .char '_'))

/-- The natural number that digits write. -/
def natOfDigits? (digits : Text) : Option Int :=
  if digits ≠ [] ∧ digits.all isDigit then some (Text.toNat digits) else none

/-- The integer that digits after an optional sign write. -/
def signedOfDigits? : Text → Option Int
  | .char '+' :: digits => natOfDigits? digits
  | .char '-' :: digits => (natOfDigits? digits).map fun n => -n
  | digits => natOfDigits? digits

/-! ## Integers -/

/-- What is left behind leading zeros, the last of which is given, and the
underscores between them: a number that starts otherwise, or that zero with a
point behind it or alone. -/
def afterZeros? (last : CodePoint) : Text → Option Text
  | [] => some [last]
  | c :: rest =>
      if c = '0' ∨ c = '_' then afterZeros? c rest
      else if c = '.' then some (last :: '.' :: rest)
      else if isDigit c ∨ c = '-' then some (c :: rest)
      else none

/-- A number without leading zeros; it starts with a digit. -/
def dropZeros? : Text → Option Text
  | [] => none
  | c :: rest =>
      if c = '0' then afterZeros? c rest
      else if isDigit c then some (c :: rest)
      else none

/-- A number without a point and zeros at its end; there is at least one zero. -/
def dropPointZeros (t : Text) : Text :=
  match t.dropWhile (· ≠ .char '.') with
  | _ :: zero :: zeros =>
      if (zero :: zeros).all (· == .char '0') then t.takeWhile (· ≠ .char '.') else t
  | _ => t

/-- The integer that digits write; a zero is in front only if it is alone. -/
def intOfDigits? (negative : Bool) (digits : Text) : Option Int :=
  if digits = [] ∨ !digits.all isDigit ∨ (digits.head? = some '0' ∧ digits ≠ [.char '0']) ∨
      maxIntDigits < digits.length then
    none
  else
    let n : Int := Text.toNat digits
    some (if negative then -n else n)

/-- The integer that a text without its sign writes.  A minus may also stand behind
leading zeros, but not after another one. -/
def intOfUnsigned? (negative : Bool) (t : Text) : Option Int := do
  let t ← dropUnderscores? (dropPointZeros (← dropZeros? t))
  match t with
  | .char '-' :: digits => if negative then none else intOfDigits? true digits
  | digits => intOfDigits? negative digits

/-- The integer that a text holds. -/
def intOfText? (t : Text) : Option Int :=
  match trimSpacing t with
  | .char '+' :: rest => intOfUnsigned? false rest
  | .char '-' :: rest => intOfUnsigned? true rest
  | t => intOfUnsigned? false t

/-- The text starts with an integer in its plain form that is too long to be read. -/
def isTooLong (t : Text) : Bool :=
  let digits := (t.drop (if t.head? = some '-' then 1 else 0)).takeWhile isDigit
  digits.head? != some '0' && decide (maxIntDigits < digits.length)

/-- Reads an integer from a text. -/
def intOfText (t : Text) : Except Fault Int :=
  if isTooLong t then .error .intTooLong
  else
    match intOfText? t with
    | some n => .ok n
    | none => .error .intText

/-! ## Numbers with a fraction -/

/-- A power of ten at the end of a number; none at all is the power zero. -/
def powerOfText? : Text → Option Int
  | [] => some 0
  | e :: rest => if e = 'e' ∨ e = 'E' then signedOfDigits? rest else none

/-- A number without its sign: digits on at least one side of an optional point,
and an optional power of ten. -/
def unsignedOfText? (negative : Bool) (t : Text) : Option Binary64 :=
  let whole := t.takeWhile isDigit
  let (fraction, rest) :=
    match t.dropWhile isDigit with
    | .char '.' :: rest => (rest.takeWhile isDigit, rest.dropWhile isDigit)
    | rest => ([], rest)
  if whole = [] ∧ fraction = [] then none
  else
    (powerOfText? rest).map fun power =>
      Binary64.ofDecimal negative (Text.toNat (whole ++ fraction)) (power - fraction.length)

/-- A number without its sign, or a word for one that is not finite. -/
def magnitudeOfText? (negative : Bool) (t : Text) : Option Binary64 :=
  let word := t.map lowerAscii
  if word = Text.ofString "inf" ∨ word = Text.ofString "infinity" then some (.infinite negative)
  else if word = Text.ofString "nan" then some .nan
  else unsignedOfText? negative t

/-- A number in its plain form. -/
def plainOfText? : Text → Option Binary64
  | .char '-' :: rest => magnitudeOfText? true rest
  | .char '+' :: rest => magnitudeOfText? false rest
  | t => magnitudeOfText? false t

/-- The number that a text holds. -/
def numberOfText? (t : Text) : Option Binary64 :=
  (plainOfText? (trimSpacing t)).or ((dropUnderscores? t).bind plainOfText?)

end SchemaEditor.Input
