import SchemaEditor.Domain.Letter

/-!
# Directions of writing

A label with letters that are written from right to left must read the same in any
surroundings.  So it starts with a letter, all of its letters have one direction,
it ends with a letter or a digit, marks apart, and a label from right to left has
digits of one kind only.  The tables are data of the Unicode standard, version 14,
and are read only for code points that may stand in a label.
-/

namespace SchemaEditor.Domain

/-- The direction of a code point. -/
inductive Direction where
  | leftToRight
  | rightToLeft
  /-- A digit as in Europe. -/
  | digit
  /-- A digit as in Arabic texts. -/
  | arabicDigit
  /-- A mark, which goes with the letter before it. -/
  | mark
  /-- A sign without a direction. -/
  | neutral
  deriving DecidableEq, Repr

/-- The letters that are written from right to left. -/
def rightToLeftRanges : List (Nat × Nat) :=
  [(0x5D0, 0x5F4), (0x620, 0x64A), (0x66E, 0x66F), (0x671, 0x6D5), (0x6E5, 0x6E6),
   (0x6EE, 0x6EF), (0x6FA, 0x710), (0x712, 0x72F), (0x74D, 0x7A5), (0x7B1, 0x7EA),
   (0x7F4, 0x7F5), (0x800, 0x815), (0x81A, 0x81A), (0x824, 0x824), (0x828, 0x828),
   (0x840, 0x858), (0x860, 0x88E), (0x8A0, 0x8C9), (0xFE73, 0xFE73), (0x10800, 0x10A00),
   (0x10A10, 0x10A35), (0x10A60, 0x10AE4), (0x10B00, 0x10D23), (0x10E80, 0x10EA9),
   (0x10EB0, 0x10F45), (0x10F70, 0x10F81), (0x10FB0, 0x10FF6), (0x1E800, 0x1E8C4),
   (0x1E922, 0x1E943), (0x1E94B, 0x1E959)]

/-- The signs without a direction. -/
def neutralRanges : List (Nat × Nat) :=
  [(0x2D, 0x2D), (0x200C, 0x200D),
   (0xB7, 0xB7), (0x2B9, 0x2BA), (0x2C6, 0x2CF), (0x2EC, 0x2EC), (0x375, 0x375),
   (0x2E2F, 0x2E2F), (0x30FB, 0x30FB), (0xA67F, 0xA67F), (0xA717, 0xA71F), (0xA788, 0xA788)]

/-- Marks that have the direction of the letters they belong to. -/
def leftToRightMarks : List Nat := [0xCBF, 0xCC6, 0x11A07, 0x11A08, 0x11C3F]

/-- The direction of a code point of a label. -/
def Direction.of (n : Nat) : Direction :=
  if (48 ≤ n ∧ n ≤ 57) ∨ (0x6F0 ≤ n ∧ n ≤ 0x6F9) then .digit
  else if (0x660 ≤ n ∧ n ≤ 0x669) ∨ (0x10D30 ≤ n ∧ n ≤ 0x10D39) then .arabicDigit
  else if Text.inRanges neutralRanges n then .neutral
  else if isNonSpacing n && !leftToRightMarks.contains n then .mark
  else if Text.inRanges rightToLeftRanges n then .rightToLeft
  else .leftToRight

/-- The directions of a label with letters from right to left: it starts with such a
letter, has no other letters, ends with one or with a digit, marks apart, and has
digits of one kind. -/
def isRightToLeft (ds : List Direction) : Bool :=
  ds.head? == some .rightToLeft && !ds.contains .leftToRight &&
    !(ds.contains .digit && ds.contains .arabicDigit) &&
    match ds.reverse.dropWhile (· == .mark) with
    | last :: _ => last != .neutral
    | [] => false

/-- The label can be read in one direction.  A label without anything that is written
from right to left always can. -/
def hasOneDirection (points : List Nat) : Bool :=
  let ds := points.map Direction.of
  if ds.contains .rightToLeft || ds.contains .arabicDigit then isRightToLeft ds else true

end SchemaEditor.Domain
