import SchemaEditor.Json.Basic
import SchemaEditor.Text.Utf16

/-!
# Reading JSON

A value between blanks, and nothing else.  Of several members of an object with
one name, the last one counts, at the place of the first.  Besides the numbers of
the standard, `NaN`, `Infinity` and `-Infinity` are numbers.  Integers with too
many digits and values that are nested too deep are refused; of several errors
the first one in the text counts.

A value is read from the front of a text and leaves the rest.  Each step of the
reader uses up one unit of `fuel`, and twice the length of the text is enough,
since no two steps in a row leave the text as it is.
-/

namespace SchemaEditor.Json
open Text

/-! ## Errors -/

/-- Why a text is not read as a value. -/
inductive ReadError where
  /-- It is no JSON. -/
  | malformed
  /-- An integer has the given number of digits, which is too many. -/
  | longInt (digits : Nat)
  /-- Lists and objects are nested too deep. -/
  | tooDeep
  deriving DecidableEq, Repr

/-- Integers with more digits are not read. -/
def maxIntDigits : Nat := 4300

/-- The wording of an integer that is too long. -/
def ReadError.message : ReadError → Text
  | .longInt digits =>
      Text.ofString "Exceeds the limit (" ++ Text.ofNat maxIntDigits ++
        Text.ofString " digits) for integer string conversion: value has " ++ Text.ofNat digits ++
        Text.ofString " digits; use sys.set_int_max_str_digits() to increase the limit"
  | _ => []

/-- What is read, or that the text is no JSON. -/
def orMalformed {α : Type} : Option α → Except ReadError α
  | some a => .ok a
  | none => .error .malformed

/-! ## Blanks -/

/-- The blanks between the tokens of JSON. -/
def isSpace (c : CodePoint) : Bool := c == ' ' || c == '\t' || c == '\n' || c == '\r'

/-- Drops the blanks in front. -/
def skip (t : Text) : Text := t.dropWhile isSpace

/-! ## Strings -/

/-- The value of four hexadecimal digits. -/
def hex4? (a b c d : CodePoint) : Option Nat := do
  let a ← hexDigit? a
  let b ← hexDigit? b
  let c ← hexDigit? c
  let d ← hexDigit? d
  return ((a * 16 + b) * 16 + c) * 16 + d

/-- The character that a letter stands for after a backslash. -/
def escaped? (c : CodePoint) : Option CodePoint :=
  if c = '"' ∨ c = '\\' ∨ c = '/' then some c
  else if c = 'b' then some (.ofNat 8)
  else if c = 'f' then some (.ofNat 12)
  else if c = 'n' then some '\n'
  else if c = 'r' then some '\r'
  else if c = 't' then some '\t'
  else none

/-- A piece of a string: a code point, or a code unit that is written by its
number. -/
inductive Piece where
  | point (c : CodePoint)
  | unit (n : Nat)
  deriving DecidableEq, Repr

/-- The text of pieces.  Two halves of a surrogate pair that are both written by
their numbers make one character. -/
def ofPieces : List Piece → Text
  | [] => []
  | .point c :: rest => c :: ofPieces rest
  | .unit a :: .unit b :: rest =>
      if Utf16.isHigh a && Utf16.isLow b then .ofNat (Utf16.pair a b) :: ofPieces rest
      else .ofNat a :: ofPieces (.unit b :: rest)
  | .unit a :: rest => .ofNat a :: ofPieces rest

/-- The pieces of a string up to its closing quote, and what follows it. -/
def readPieces : Text → Option (List Piece × Text)
  | [] => none
  | .char '\\' :: .char 'u' :: a :: b :: c :: d :: rest => do
      let unit ← hex4? a b c d
      let (pieces, rest) ← readPieces rest
      return (.unit unit :: pieces, rest)
  | .char '\\' :: e :: rest => do
      let c ← escaped? e
      let (pieces, rest) ← readPieces rest
      return (.point c :: pieces, rest)
  | c :: rest =>
      if c = '"' then some ([], rest)
      else if c.toNat < 0x20 ∨ c = '\\' then none
      else do
        let (pieces, rest) ← readPieces rest
        return (.point c :: pieces, rest)

/-- A string up to its closing quote, and what follows it. -/
def readString (t : Text) : Option (Text × Text) :=
  (readPieces t).map fun (pieces, rest) => (ofPieces pieces, rest)

/-! ## Numbers -/

/-- The digits of a whole number: a zero alone, or digits that start otherwise. -/
def readWhole : Text → Option (Text × Text)
  | [] => none
  | c :: rest =>
      if c = '0' then some (['0'], rest)
      else if isDigit c then some (c :: rest.takeWhile isDigit, rest.dropWhile isDigit)
      else none

/-- The digits after a point, if there is a point with digits after it. -/
def readFraction : Text → Option Text × Text
  | .char '.' :: c :: rest =>
      if isDigit c then (some (c :: rest.takeWhile isDigit), rest.dropWhile isDigit)
      else (none, '.' :: c :: rest)
  | rest => (none, rest)

/-- The power of ten, if there is a well-formed one. -/
def readPower : Text → Option Int × Text
  | e :: rest =>
      if e = 'e' ∨ e = 'E' then
        let (negative, digits) :=
          match rest with
          | .char '-' :: more => (true, more)
          | .char '+' :: more => (false, more)
          | more => (false, more)
        match digits.takeWhile isDigit with
        | [] => (none, e :: rest)
        | ds =>
            let power : Int := Text.toNat ds
            (some (if negative then -power else power), digits.dropWhile isDigit)
      else (none, e :: rest)
  | [] => (none, [])

/-- A number without its sign, which is given. -/
def readUnsigned (negative : Bool) (t : Text) : Except ReadError (Json × Text) := do
  let (whole, rest) ← orMalformed (readWhole t)
  let (fraction, rest) := readFraction rest
  let (power, rest) := readPower rest
  match fraction, power with
  | none, none =>
      if maxIntDigits < whole.length then .error (.longInt whole.length)
      else
        let n : Int := Text.toNat whole
        return (.int (if negative then -n else n), rest)
  | _, _ =>
      let after := fraction.getD []
      return (.float (Binary64.ofDecimal negative (Text.toNat (whole ++ after))
        (power.getD 0 - after.length)), rest)

/-- The values that are written as a word. -/
def words : List (Text × Json) :=
  [(Text.ofString "null", .null), (Text.ofString "true", .bool true),
    (Text.ofString "false", .bool false), (Text.ofString "NaN", .float .nan),
    (Text.ofString "Infinity", .float (.infinite false)),
    (Text.ofString "-Infinity", .float (.infinite true))]

/-- A value written as a word. -/
def readWord? (t : Text) : Option (Json × Text) :=
  words.findSome? fun entry => (after? entry.1 t).map fun rest => (entry.2, rest)

/-- A number or a word. -/
def readPlain (t : Text) : Except ReadError (Json × Text) :=
  match readWord? t with
  | some found => .ok found
  | none =>
      match t with
      | .char '-' :: rest => readUnsigned true rest
      | t => readUnsigned false t

/-! ## Values -/

/-- The name of a member, and the text at its value. -/
def readName (t : Text) : Option (Text × Text) :=
  match t with
  | .char '"' :: rest => do
      let (name, rest) ← readString rest
      match skip rest with
      | .char ':' :: rest => return (name, skip rest)
      | _ => none
  | _ => none

mutual

/-- A value at the front of a text, in which lists and objects may be nested as
deep as `depth` says. -/
def readValue : Nat → Nat → Text → Except ReadError (Json × Text)
  | 0, _, _ => .error .malformed
  | fuel + 1, depth, t =>
      match t, depth with
      | .char '"' :: rest, _ => do
          let (t, rest) ← orMalformed (readString rest)
          return (.str t, rest)
      | .char '[' :: _, 0 => .error .tooDeep
      | .char '{' :: _, 0 => .error .tooDeep
      | .char '[' :: rest, depth + 1 =>
          match skip rest with
          | .char ']' :: rest => .ok (.arr [], rest)
          | rest => do
              let (items, rest) ← readItems fuel depth rest
              return (.arr items, rest)
      | .char '{' :: rest, depth + 1 =>
          match skip rest with
          | .char '}' :: rest => .ok (.obj [], rest)
          | rest => do
              let (members, rest) ← readMembers fuel depth rest
              return (.obj (Entries.ofPairs members), rest)
      | t, _ => readPlain t

/-- The items of a list that is not empty, and what follows its bracket. -/
def readItems : Nat → Nat → Text → Except ReadError (List Json × Text)
  | 0, _, _ => .error .malformed
  | fuel + 1, depth, t => do
      let (item, rest) ← readValue fuel depth t
      match skip rest with
      | .char ']' :: rest => return ([item], rest)
      | .char ',' :: rest =>
          let (items, rest) ← readItems fuel depth (skip rest)
          return (item :: items, rest)
      | _ => .error .malformed

/-- The members of an object that is not empty, and what follows its brace. -/
def readMembers : Nat → Nat → Text → Except ReadError (List (Text × Json) × Text)
  | 0, _, _ => .error .malformed
  | fuel + 1, depth, t => do
      let (name, rest) ← orMalformed (readName t)
      let (value, rest) ← readValue fuel depth rest
      match skip rest with
      | .char '}' :: rest => return ([(name, value)], rest)
      | .char ',' :: rest =>
          let (members, rest) ← readMembers fuel depth (skip rest)
          return ((name, value) :: members, rest)
      | _ => .error .malformed

end

/-- The value that a text writes, with blanks around it, in which lists and objects
may be nested as deep as `depth` says. -/
def read (depth : Nat) (t : Text) : Except ReadError Json := do
  let (value, rest) ← readValue (2 * t.length + 2) depth (skip t)
  if skip rest = [] then .ok value else .error .malformed

end SchemaEditor.Json
