import SchemaEditor.Input.Fault
import SchemaEditor.Input.Number
import SchemaEditor.MachineWord

/-!
# Reading fields

Readers take the value of a field to what it means, or say what is wrong with it.
They are lenient where a value has one plain meaning: a boolean may be written as
a word or as 0 or 1, and a number as a text.
-/

namespace SchemaEditor.Input
open Text

/-- A way to read the value of a field. -/
abbrev Reader (α : Type) := Json → Except Fault α

/-! ## Booleans -/

/-- The words for yes. -/
def yesWords : List Text := ["1", "t", "true", "y", "yes", "on"].map Text.ofString

/-- The words for no. -/
def noWords : List Text := ["0", "f", "false", "n", "no", "off"].map Text.ofString

/-- The boolean that an integer means. -/
def boolOfInt (n : Int) : Except Fault Bool :=
  if n = 0 then .ok false
  else if n = 1 then .ok true
  else .error .boolText

/-- The integer that a number without a fraction is, if it fits a machine word. -/
def intOfNumber (x : Binary64) : Except Fault Int :=
  if x.isFinite then
    match x.toInt? with
    | some n => if -wordBound < n ∧ n < wordBound then .ok n else .error .intTooLong
    | none => .error .intFraction
  else .error .notFinite

/-- Reads a boolean.  A number must be one that fits a machine word. -/
def bool : Reader Bool
  | .bool b => .ok b
  | .int n => if fitsWord n then boolOfInt n else .error .boolType
  | .float x =>
      match intOfNumber x with
      | .ok n => boolOfInt n
      | .error _ => .error .boolType
  | .str t =>
      if !isWhole t then .error .textBroken
      else if yesWords.contains (t.map lowerAscii) then .ok true
      else if noWords.contains (t.map lowerAscii) then .ok false
      else .error .boolText
  | _ => .error .boolType

/-! ## Numbers -/

/-- Reads an integer. -/
def int : Reader Int
  | .int n => .ok n
  | .bool b => .ok (if b then 1 else 0)
  | .float x => intOfNumber x
  | .str t => if isWhole t then intOfText t else .error .textBroken
  | _ => .error .intType

/-- Reads an integer that is not negative. -/
def nat : Reader Nat := fun value =>
  match int value with
  | .ok (.ofNat n) => .ok n
  | .ok (.negSucc _) => .error .tooSmall
  | .error fault => .error fault

/-- Reads a number. -/
def number : Reader Binary64
  | .float x => .ok x
  | .int n =>
      match Binary64.ofInt? n with
      | some x => .ok x
      | none => .error .numberType
  | .bool b => .ok (Binary64.ofInt (if b then 1 else 0))
  | .str t =>
      if isWhole t then
        match numberOfText? t with
        | some x => .ok x
        | none => .error .numberText
      else .error .textBroken
  | _ => .error .numberType

/-- Reads a number and refuses it unless it is above zero. -/
def positive : Reader Binary64 := fun value =>
  match number value with
  | .ok x => if x.isPositive then .ok x else .error .notAbove
  | .error fault => .error fault

/-! ## Texts and objects -/

/-- Reads a text.  Half of a surrogate pair does no harm here. -/
def text : Reader Text
  | .str t => .ok t
  | _ => .error .textType

/-- Reads a value that may be null. -/
def optional {α : Type} (r : Reader α) : Reader (Option α)
  | .null => .ok none
  | value => (r value).map some

/-- Reads an object with arbitrary members. -/
def members : Reader (Entries Text Json)
  | .obj members => .ok members
  | _ => .error .mapType

/-! ## Fields -/

/-- The fault of a value at a place. -/
def faultAt {α : Type} (location : List String) (value : Json) (fault : Fault) :
    Except (List FieldFault) α :=
  .error [⟨location, fault, value⟩]

/-- Reads the value at a place. -/
def readAt {α : Type} (location : List String) (r : Reader α) (value : Json) :
    Except (List FieldFault) α :=
  match r value with
  | .ok a => .ok a
  | .error fault => faultAt location value fault

/-- Reads a member that must be there. -/
def required {α : Type} (location : List String) (name : String) (r : Reader α)
    (object : Entries Text Json) : Except (List FieldFault) α :=
  match Entries.find? (ofString name) object with
  | some value => readAt (location ++ [name]) r value
  | none => faultAt (location ++ [name]) (.obj object) .missing

/-- Reads a member that may be missing. -/
def orElse {α : Type} (location : List String) (name : String) (r : Reader α) (fallback : α)
    (object : Entries Text Json) : Except (List FieldFault) α :=
  match Entries.find? (ofString name) object with
  | some value => readAt (location ++ [name]) r value
  | none => .ok fallback

end SchemaEditor.Input
