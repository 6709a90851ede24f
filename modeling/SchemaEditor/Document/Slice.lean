import SchemaEditor.Document
import SchemaEditor.MachineWord
import SchemaEditor.Text.Quoted

/-!
# Reading lines by number

A document reads like a sequence of lines.  Line numbers may be negative and then
count from the end.  A slice takes every `step`-th line from a start up to an
end, downwards if the step is negative; numbers beyond the lines stand for the
nearest end, and only a step of zero is refused.
-/

namespace SchemaEditor

/-- Why a line could not be read. -/
inductive LineError where
  /-- There is no line with the number. -/
  | outOfRange
  /-- The number does not fit into a machine word. -/
  | tooLarge
  /-- The step of a slice is zero. -/
  | zeroStep
  /-- No line has the content. -/
  | noSuchLine
  deriving DecidableEq, Repr

/-- The wording of a failed look-up. -/
def LineError.message : LineError → Text
  | .outOfRange => Text.ofString "tuple index out of range"
  | .tooLarge => Text.ofString "cannot fit 'int' into an index-sized integer"
  | .zeroStep => Text.ofString "slice step cannot be zero"
  | .noSuchLine => []

namespace Slice

/-- A bound of a slice: negative ones count from the end, and those beyond the
lines become the nearest of `low` and `high`. -/
def clamp (length low high bound : Int) : Int :=
  if bound < 0 then
    if bound + length < low then low else bound + length
  else if high < bound then high else bound

/-- How many elements lie between two bounds at a step. -/
def count (start stop step : Int) : Nat :=
  if 0 < step then (Int.fdiv (stop - start + step - 1) step).toNat
  else (Int.fdiv (start - stop - step - 1) (-step)).toNat

/-- The numbers of the elements of a slice, in order. -/
def indices (length : Nat) (start stop : Option Int) (step : Int) : List Int :=
  let low : Int := if 0 < step then 0 else -1
  let high : Int := if 0 < step then length else length - 1
  let first := (start.map (clamp length low high)).getD (if 0 < step then low else high)
  let last := (stop.map (clamp length low high)).getD (if 0 < step then high else low)
  (List.range (count first last step)).map fun (k : Nat) => first + (k : Int) * step

end Slice

namespace Document
variable (d : Document)

/-- The line with a number, counted from the end if it is negative. -/
def get? (n : Int) : Except LineError Text :=
  if fitsWord n then
    match (if n < 0 then n + d.lineCount else n) with
    | .ofNat i => match d.lines[i]? with
      | some line => .ok line
      | none => .error .outOfRange
    | .negSucc _ => .error .outOfRange
  else .error .tooLarge

/-- The lines of a slice. -/
def slice (start stop step : Option Int) : Except LineError (List Text) :=
  if step = some 0 then .error .zeroStep
  else
    .ok ((Slice.indices d.lineCount start stop (step.getD 1)).filterMap fun i =>
      if i < 0 then none else d.lines[i.toNat]?)

/-- The number of the first line with the content. -/
def indexOf (line : Text) : Except LineError Nat :=
  match d.lines.idxOf? line with
  | some i => .ok i
  | none => .error .noSuchLine

/-- How many lines have the content. -/
def countOf (line : Text) : Nat := d.lines.count line

/-- A document in words. -/
def describe : Text :=
  Text.ofString "SchemaDocument(lines=" ++ Text.ofNat d.lineCount ++ Text.ofString ", file_path=" ++
    (d.path.map Text.Quoted.write).getD (Text.ofString "None") ++ Text.ofString ")"

end Document

end SchemaEditor
