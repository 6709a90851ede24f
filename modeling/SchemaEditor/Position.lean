import SchemaEditor.Text.Basic

/-!
# Positions and ranges

A position is a line and a column, both counted from 0, and positions are
ordered line first.  A range is a pair of positions in that order; it covers the
characters from its start up to its end, and an empty range is an insertion
point.  Coordinates that arrive as integers are checked by `Position.ofInts?` and
`Range.ofPositions?`, whose refusals are the constructors of `RangeError`.
-/

namespace SchemaEditor

/-- A line and a column, both counted from 0. -/
structure Position where
  line : Nat
  column : Nat
  deriving DecidableEq, Repr

namespace Position

/-- The order of positions: by line, and by column on one line. -/
protected def Le (p q : Position) : Prop :=
  p.line < q.line ∨ (p.line = q.line ∧ p.column ≤ q.column)

instance : LE Position := ⟨Position.Le⟩

theorem le_def {p q : Position} :
    p ≤ q ↔ p.line < q.line ∨ (p.line = q.line ∧ p.column ≤ q.column) := Iff.rfl

instance (p q : Position) : Decidable (p ≤ q) :=
  inferInstanceAs (Decidable (p.line < q.line ∨ (p.line = q.line ∧ p.column ≤ q.column)))

theorem le_refl (p : Position) : p ≤ p := Or.inr ⟨rfl, Nat.le_refl _⟩

theorem le_of_column_le (line : Nat) {a b : Nat} (h : a ≤ b) :
    (⟨line, a⟩ : Position) ≤ ⟨line, b⟩ := Or.inr ⟨rfl, h⟩

/-- A position in words, as it stands in messages. -/
def describe (p : Position) : Text :=
  Text.ofString "Position(line=" ++ Text.ofNat p.line ++ Text.ofString ", column=" ++
    Text.ofNat p.column ++ Text.ofString ")"

end Position

/-- Two positions in order. -/
structure Range where
  start : Position
  stop : Position
  ordered : start ≤ stop
  deriving DecidableEq, Repr

/-- Why coordinates name no range. -/
inductive RangeError where
  /-- A coordinate is below zero. -/
  | negative (line column : Int)
  /-- The start lies after the end. -/
  | reversed (start stop : Position)
  deriving DecidableEq, Repr

/-- The wording of a refused range. -/
def RangeError.message : RangeError → Text
  | .negative line column =>
      Text.ofString "Position must be non-negative, got (" ++ Text.ofInt line ++
        Text.ofString ", " ++ Text.ofInt column ++ Text.ofString ")"
  | .reversed start stop =>
      Text.ofString "Range start " ++ start.describe ++ Text.ofString " is after end " ++
        stop.describe

/-- The position with the given coordinates, if neither is negative. -/
def Position.ofInts? (line column : Int) : Except RangeError Position :=
  if line < 0 ∨ column < 0 then .error (.negative line column)
  else .ok ⟨line.toNat, column.toNat⟩

namespace Range

/-- The range from `start` to `stop`, if they are in order. -/
def ofPositions? (start stop : Position) : Except RangeError Range :=
  if h : start ≤ stop then .ok ⟨start, stop, h⟩ else .error (.reversed start stop)

/-- The insertion point at a position. -/
def point (line column : Nat) : Range := ⟨⟨line, column⟩, ⟨line, column⟩, Position.le_refl _⟩

/-- `width` characters of one line from `column` on. -/
def onLine (line column width : Nat) : Range :=
  ⟨⟨line, column⟩, ⟨line, column + width⟩, Position.le_of_column_le line (Nat.le_add_right _ _)⟩

/-- The range covers no character. -/
def isEmpty (r : Range) : Bool := r.start == r.stop

end Range

end SchemaEditor
