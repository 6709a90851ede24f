import SchemaEditor.Text.Basic

/-!
# Upper and lower case

Two ways of disregarding case, both as seen by lower-case ASCII text.

`lower` writes the lower case of a text, exactly as far as ASCII letters are
concerned: the capitals, the Kelvin sign, whose lower case is `k`, and the
capital dotted I, whose lower case is an `i` under a combining dot.  No other
character has an ASCII letter in its lower case, so a marker made of lower-case
ASCII occurs in `lower t` exactly when it occurs in the full lower case of `t`.

`fold` is the wider relation used for keywords that may be spelled in any case:
it also takes the long s for `s` and both Turkish forms for `i`.
-/

namespace SchemaEditor.Text

/-- The lower case of the ASCII capitals; all else stays as it is. -/
def lowerAscii : CodePoint → CodePoint
  | .char c => .char c.toLower
  | .half n => .half n

/-- The lower case of a character, where it concerns ASCII letters. -/
def lowerPoint (c : CodePoint) : Text :=
  if c.toNat = 0x212A then ['k']
  else if c.toNat = 0x130 then ['i', .ofNat 0x307]
  else [lowerAscii c]

/-- The lower case of a text, where it concerns ASCII letters. -/
def lower (t : Text) : Text := t.flatMap lowerPoint

/-- The upper case of the ASCII letters; all else stays as it is. -/
def upperAscii : CodePoint → CodePoint
  | .char c => .char c.toUpper
  | .half n => .half n

/-- The characters outside ASCII whose upper case is made of ASCII letters, with that
upper case. -/
def asciiCapitals : List (Nat × String) :=
  [(0xDF, "SS"), (0x131, "I"), (0x17F, "S"), (0xFB00, "FF"), (0xFB01, "FI"), (0xFB02, "FL"),
   (0xFB03, "FFI"), (0xFB04, "FFL"), (0xFB05, "ST"), (0xFB06, "ST")]

/-- The upper case of a character, where it is made of ASCII letters. -/
def upperPoint (c : CodePoint) : Text :=
  match asciiCapitals.find? fun entry => entry.1 == c.toNat with
  | some entry => ofString entry.2
  | none => [upperAscii c]

/-- The upper case of a text, where it is made of ASCII letters.  It is a word of ASCII
letters exactly when the full upper case is that word. -/
def upper (t : Text) : Text := t.flatMap upperPoint

/-- The ASCII letter that a character stands for when case is ignored. -/
def foldPoint (c : CodePoint) : CodePoint :=
  if c.toNat = 0x212A then 'k'
  else if c.toNat = 0x17F then 's'
  else if c.toNat = 0x130 ∨ c.toNat = 0x131 then 'i'
  else lowerAscii c

/-- A text with case ignored. -/
def fold (t : Text) : Text := t.map foldPoint

/-- What follows `front` in the text, case ignored; `front` is in lower case. -/
def afterFold? (front : Text) (t : Text) : Option Text :=
  if fold (t.take front.length) = front then some (t.drop front.length) else none

@[simp] theorem length_fold (t : Text) : (fold t).length = t.length := by
  simp [fold]

end SchemaEditor.Text
