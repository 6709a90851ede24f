import SchemaEditor.Text.CodePoint

/-!
# Text

Schema text is a list of code points, so that every column, offset, length and
padding counts code points.  This module holds the type, the blank characters,
trimming, containment, and the two ways text and lines turn into each other:
`lines` cuts at every line feed and `List.intercalate` joins again.
-/

namespace SchemaEditor

/-- Text as a list of code points. -/
abbrev Text := List CodePoint

namespace Text

/-- The text of a string. -/
def ofString (s : String) : Text := s.toList.map .char

/-- The string of the characters of a text. -/
def toString (t : Text) : String := String.ofList (t.filterMap CodePoint.toChar?)

/-- All code points of the text are characters, so that it has an encoding. -/
def isWhole (t : Text) : Bool := t.all CodePoint.isChar

/-- All code points of the text are ASCII characters. -/
def isAscii (t : Text) : Bool := t.all fun c => Nat.blt c.toNat 0x80

/-! ## Blank characters -/

/-- The blank characters: the ASCII controls that move the cursor, the four
information separators, the space, and the spaces and line breaks of Unicode. -/
def isBlank (c : CodePoint) : Bool :=
  decide
    ((0x09 ≤ c.toNat ∧ c.toNat ≤ 0x0D) ∨ (0x1C ≤ c.toNat ∧ c.toNat ≤ 0x20) ∨
      c.toNat = 0x85 ∨ c.toNat = 0xA0 ∨ c.toNat = 0x1680 ∨
      (0x2000 ≤ c.toNat ∧ c.toNat ≤ 0x200A) ∨ c.toNat = 0x2028 ∨ c.toNat = 0x2029 ∨
      c.toNat = 0x202F ∨ c.toNat = 0x205F ∨ c.toNat = 0x3000)

/-- A number of spaces. -/
def spaces (n : Nat) : Text := List.replicate n ' '

/-- A text without a visible character. -/
def isBlankText (t : Text) : Bool := t.all isBlank

/-- Drops the blanks in front. -/
def trimStart (t : Text) : Text := t.dropWhile isBlank

/-- Drops the blanks at the end. -/
def trimEnd (t : Text) : Text := (t.reverse.dropWhile isBlank).reverse

/-- Drops the blanks on both sides. -/
def trim (t : Text) : Text := trimEnd (trimStart t)

/-- The blanks in front, which `trimStart` drops. -/
def leadingBlanks (t : Text) : Text := t.takeWhile isBlank

@[simp] theorem trimEnd_nil : trimEnd [] = [] := rfl

@[simp] theorem trim_nil : trim [] = [] := rfl

theorem leadingBlanks_append_trimStart (t : Text) : leadingBlanks t ++ trimStart t = t :=
  List.takeWhile_append_dropWhile

/-! ## Containment and order -/

/-- `part` occurs somewhere in the text. -/
def hasPart (part : Text) : Text → Bool
  | [] => part.isEmpty
  | c :: rest => part.isPrefixOf (c :: rest) || hasPart part rest

theorem hasPart_iff_isInfix {part t : Text} : hasPart part t = true ↔ part <:+: t := by
  induction t with
  | nil => simp [hasPart]
  | cons c rest ih =>
      rw [hasPart, Bool.or_eq_true, ih, List.isPrefixOf_iff_prefix, List.infix_cons_iff]

/-- Some of the marker texts occurs in the text. -/
def hasAnyPart (markers : List Text) (t : Text) : Bool := markers.any fun m => hasPart m t

/-- What follows `front`, if the text starts with it. -/
def after? (front : Text) (t : Text) : Option Text :=
  if front.isPrefixOf t then some (t.drop front.length) else none

/-- The order of texts by code point, a proper beginning before the longer text. -/
def le : Text → Text → Bool
  | [], _ => true
  | _ :: _, [] => false
  | a :: s, b :: t => decide (a.toNat < b.toNat) || (a == b && le s t)

/-! ## Lines -/

/-- Puts a character in front of the first line. -/
def consHead (c : CodePoint) : List Text → List Text
  | [] => [[c]]
  | line :: rest => (c :: line) :: rest

/-- The pieces between the occurrences of a separator; there is always one. -/
def splitOn (separator : CodePoint) : Text → List Text
  | [] => [[]]
  | c :: rest =>
      if c = separator then [] :: splitOn separator rest
      else consHead c (splitOn separator rest)

/-- The lines of a text: it is cut at every line feed and nowhere else. -/
def lines (t : Text) : List Text := splitOn '\n' t

/-- The text that has `lines` as its lines. -/
def unlines (ls : List Text) : Text := List.intercalate ['\n'] ls

/-- Writes `eol` for every line feed. -/
def withEol (eol : Text) (t : Text) : Text :=
  t.flatMap fun (c : CodePoint) => if c = '\n' then eol else [c]

@[simp] theorem splitOn_nil (separator : CodePoint) : splitOn separator [] = [[]] := rfl

@[simp] theorem splitOn_cons_self (separator : CodePoint) (t : Text) :
    splitOn separator (separator :: t) = [] :: splitOn separator t := by
  simp [splitOn]

theorem splitOn_cons_of_ne {separator c : CodePoint} (h : c ≠ separator) (t : Text) :
    splitOn separator (c :: t) = consHead c (splitOn separator t) := by
  simp [splitOn, h]

theorem consHead_ne_nil (c : CodePoint) (ls : List Text) : consHead c ls ≠ [] := by
  cases ls <;> simp [consHead]

theorem splitOn_ne_nil (separator : CodePoint) (t : Text) : splitOn separator t ≠ [] := by
  cases t with
  | nil => simp
  | cons c rest =>
      by_cases h : c = separator
      · subst h; simp
      · rw [splitOn_cons_of_ne h]; exact consHead_ne_nil c _

theorem lines_ne_nil (t : Text) : lines t ≠ [] := splitOn_ne_nil '\n' t

/-! ## Numbers -/

/-- A natural number in decimal digits. -/
def ofNat (n : Nat) : Text := (Nat.toDigits 10 n).map .char

/-- An integer in decimal digits, with a sign if it is negative. -/
def ofInt : Int → Text
  | .ofNat n => ofNat n
  | .negSucc n => '-' :: ofNat (n + 1)

/-- The ten digits of ASCII. -/
def isDigit (c : CodePoint) : Bool := decide (48 ≤ c.toNat ∧ c.toNat ≤ 57)

/-- The letters of ASCII. -/
def isAsciiAlpha (c : CodePoint) : Bool :=
  decide ((65 ≤ c.toNat ∧ c.toNat ≤ 90) ∨ (97 ≤ c.toNat ∧ c.toNat ≤ 122))

/-- The number that decimal digits write. -/
def toNat (digits : Text) : Nat := digits.foldl (fun n c => 10 * n + (c.toNat - 48)) 0

/-- The value of a hexadecimal digit. -/
def hexDigit? (c : CodePoint) : Option Nat :=
  let n := c.toNat
  if 48 ≤ n ∧ n ≤ 57 then some (n - 48)
  else if 97 ≤ n ∧ n ≤ 102 then some (n - 87)
  else if 65 ≤ n ∧ n ≤ 70 then some (n - 55)
  else none

/-- A number in lower-case hexadecimal digits, at least `width` of them. -/
def ofHex (width : Nat) (n : Nat) : Text :=
  let digits := Nat.toDigits 16 n
  (List.replicate (width - digits.length) '0' ++ digits).map .char

end Text

end SchemaEditor
