import SchemaEditor.Text.Basic

/-!
# Labels in ASCII

A label with other letters than those of ASCII is written in ASCII as its ASCII
letters, a hyphen if there are any, and then digits that say where the other
letters go, in the order of their numbers.  From one letter to the next the digits
count the places that are passed over, in a base that adapts to the size of the
numbers.  `encode` writes a label in this form and `decode?` reads it back.
-/

namespace SchemaEditor.Domain.Punycode

/-! ## Digits -/

/-- The least value of a digit that another digit follows, for the digit at place
`k`, where places are counted in steps of 36. -/
def threshold (bias k : Nat) : Nat :=
  if k ≤ bias then 1 else if bias + 26 ≤ k then 26 else k - bias

theorem threshold_pos (bias k : Nat) : 0 < threshold bias k := by
  unfold threshold
  split
  · decide
  · split <;> omega

/-- Divides by 35 until a number is small; each division counts for one place. -/
def shrink (delta k : Nat) : Nat × Nat :=
  if 455 < delta then shrink (delta / 35) (k + 36) else (delta, k)
termination_by delta
decreasing_by exact Nat.div_lt_self (by omega) (by omega)

/-- The bias after a number was written, given how many letters there are now. -/
def adapt (delta count : Nat) (isFirst : Bool) : Nat :=
  let delta := if isFirst then delta / 700 else delta / 2
  let (delta, k) := shrink (delta + delta / count) 0
  k + 36 * delta / (delta + 38)

/-- The digit with a value. -/
def digit (d : Nat) : CodePoint := if d < 26 then .ofNat (97 + d) else .ofNat (22 + d)

/-- The value of a digit. -/
def digit? (c : CodePoint) : Option Nat :=
  let n := c.toNat
  if 97 ≤ n ∧ n ≤ 122 then some (n - 97)
  else if 65 ≤ n ∧ n ≤ 90 then some (n - 65)
  else if 48 ≤ n ∧ n ≤ 57 then some (n - 22)
  else none

/-- The digits of a number, from place `k` on. -/
def digits (bias k n : Nat) : Text :=
  let t := threshold bias k
  if n < t then [digit n]
  else digit (t + (n - t) % (36 - t)) :: digits bias (k + 36) ((n - t) / (36 - t))
termination_by n
decreasing_by
  have pos := threshold_pos bias k
  exact Nat.lt_of_le_of_lt (Nat.div_le_self _ _) (by omega)

/-- The number that digits write, from place `k` on, and what follows them; a digit
counts `weight` times. -/
def readDigits (bias : Nat) : Nat → Nat → Text → Option (Nat × Text)
  | _, _, [] => none
  | k, weight, c :: rest =>
      match digit? c with
      | none => none
      | some d =>
          let t := threshold bias k
          if d < t then some (d * weight, rest)
          else
            (readDigits bias (k + 36) (weight * (36 - t)) rest).map fun (n, rest) =>
              (d * weight + n, rest)

/-! ## Writing -/

/-- What is written so far. -/
structure Writer where
  /-- How many places were passed over since the last letter. -/
  delta : Nat
  bias : Nat
  /-- How many letters are written. -/
  count : Nat
  output : Text

/-- Passes one code point of the label while the code point `m` is written. -/
def Writer.pass (basic m : Nat) (w : Writer) (n : Nat) : Writer :=
  if n < m then { w with delta := w.delta + 1 }
  else if n = m then
    ⟨0, adapt w.delta (w.count + 1) (w.count == basic), w.count + 1,
      w.output ++ digits w.bias 36 w.delta⟩
  else w

/-- Writes all code points from `next` on, which are given in order. -/
def Writer.run (points : List Nat) (basic : Nat) : Nat → List Nat → Writer → Writer
  | _, [], w => w
  | next, m :: rest, w =>
      let w := { w with delta := w.delta + (m - next) * (w.count + 1) }
      let w := points.foldl (Writer.pass basic m) w
      Writer.run points basic (m + 1) rest { w with delta := w.delta + 1 }

/-- Numbers in order, each of them once. -/
def insertOnce (n : Nat) : List Nat → List Nat
  | [] => [n]
  | m :: rest =>
      if n < m then n :: m :: rest else if n = m then m :: rest else m :: insertOnce n rest

/-- A label in ASCII. -/
def encode (t : Text) : Text :=
  let points := t.map CodePoint.toNat
  let ascii := t.filter fun c => Nat.blt c.toNat 0x80
  let others := (points.filter fun n => Nat.ble 0x80 n).foldr insertOnce []
  let front := if ascii.isEmpty then [] else ascii ++ Text.ofString "-"
  front ++ (Writer.run points ascii.length 0x80 others ⟨0, 72, ascii.length, []⟩).output

/-! ## Reading -/

/-- Puts letters into a text as digits say, given the number of the last letter and
the place after it; `fuel` bounds the letters. -/
def insertAll : Nat → Nat → Nat → Nat → Text → Text → Option Text
  | _, _, _, _, done, [] => some done
  | 0, _, _, _, _, _ => none
  | fuel + 1, bias, last, place, done, rest => do
      let (delta, rest) ← readDigits bias 36 1 rest
      let count := done.length + 1
      let n := last + (place + delta) / count
      let spot := (place + delta) % count
      if 0x10FFFF < n then none
      else
        insertAll fuel (adapt delta count (place == 0)) n (spot + 1)
          (done.take spot ++ .ofNat n :: done.drop spot) rest

/-- The label that ASCII letters write. -/
def decode? (t : Text) : Option Text :=
  match t.reverse.dropWhile (· ≠ .char '-') with
  | _ :: front =>
      let coded := (t.reverse.takeWhile (· ≠ .char '-')).reverse
      insertAll coded.length 72 0x80 0 front.reverse coded
  | [] => insertAll t.length 72 0x80 0 [] t

end SchemaEditor.Domain.Punycode
