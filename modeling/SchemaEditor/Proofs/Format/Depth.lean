import SchemaEditor.Proofs.Format.Preservation

/-!
# Indentation is block depth

How many blocks are open around a line can be read off the lines from the top, one after the
other (`depths`): a closing line leaves a block, a declaration that ends with a brace and a brace
alone enter one, and all other lines leave the depth as it is.  A closing line stands outside the
block that it closes, and every other line inside the blocks that are open above it.

The formatter does not write lines one after the other.  Attributes wait for the end of their
run and fields for the end of their batch, and then they are written at the level that the pass
has come to.  That this is the depth of each of them (`format_indents`) has two reasons.  A line
that changes the level ends the run and the batch first, so the level of a frame is the depth of
its line (`depth_trace`).  And only attributes change places, which all do the same to the
depth, namely nothing (`depths_arrangeRuns`).
-/

namespace SchemaEditor.Format
open Text Line

/-! ## The depth of a line -/

/-- What a line does to the depth. -/
inductive Turn where
  /-- It leaves a block. -/
  | closes
  /-- It enters a block. -/
  | opens
  /-- It stays in the blocks that are open. -/
  | stays
  deriving DecidableEq, Repr

/-- What a line does to the depth.  It does so in a struct body and outside. -/
def turn (line : Text) : Turn :=
  if kind false line = .close then .closes
  else if kind false line = .declaration ∧ opensBlock line = true ∨ isLoneOpen line = true then
    .opens
  else .stays

/-- The depth of a line below which `depth` blocks are open. -/
def Turn.own (depth : Nat) : Turn → Nat
  | closes => depth - 1
  | opens | stays => depth

/-- How many blocks are open below a line above which `depth` are. -/
def Turn.below (depth : Nat) : Turn → Nat
  | closes => depth - 1
  | opens => depth + 1
  | stays => depth

/-- The depth of each line if `depth` blocks are open above the first one. -/
def depths : Nat → List Text → List Nat
  | _, [] => []
  | depth, line :: rest => (turn line).own depth :: depths ((turn line).below depth) rest

/-- A line that is written at a depth: it is empty, or as many levels of spaces stand in front of
a visible character. -/
inductive Indented (o : FormatOptions) (depth : Nat) : Text → Prop
  | empty : Indented o depth []
  | visible {c : CodePoint} (rest : Text) (h : isBlank c = false) :
      Indented o depth (spaces (o.indentSize * depth) ++ c :: rest)

/-! ## What a line does to the depth -/

section Turn
variable {line : Text}

theorem kind_eq_close_iff (inStruct : Bool) :
    kind inStruct line = .close ↔ kind false line = .close :=
  kind_eq_iff_of_ne (by decide) (by decide) inStruct

theorem kind_eq_declaration_iff (inStruct : Bool) :
    kind inStruct line = .declaration ↔ kind false line = .declaration :=
  kind_eq_iff_of_ne (by decide) (by decide) inStruct

/-- A closing line closes in a struct body and outside. -/
theorem turn_of_close {inStruct : Bool} (h : kind inStruct line = .close) :
    turn line = .closes := by
  rw [turn, if_pos ((kind_eq_close_iff inStruct).mp h)]

/-- A declaration opens a block if it ends with a brace. -/
theorem turn_of_declaration {inStruct : Bool} (h : kind inStruct line = .declaration) :
    turn line = if opensBlock line then .opens else .stays := by
  have hd : kind false line = .declaration := (kind_eq_declaration_iff inStruct).mp h
  have hc : kind false line ≠ .close := by rw [hd]; decide
  rw [turn, if_neg hc]
  by_cases hb : opensBlock line = true
  · rw [if_pos (Or.inl ⟨hd, hb⟩), if_pos hb]
  · -- a brace alone would end with a brace too
    have ho : isLoneOpen line ≠ true := by
      intro ho
      refine hb ?_
      rw [opensBlock, beq_iff_eq.mp ho]
      rfl
    rw [if_neg (by simp [hb, ho]), if_neg hb]

theorem turn_of_isLoneOpen {inStruct : Bool} (hc : kind inStruct line ≠ .close)
    (h : isLoneOpen line = true) : turn line = .opens := by
  rw [turn, if_neg (mt (kind_eq_close_iff inStruct).mpr hc), if_pos (Or.inr h)]

/-- All other lines open and close nothing. -/
theorem turn_of_plain {inStruct : Bool} (hc : kind inStruct line ≠ .close)
    (hd : kind inStruct line ≠ .declaration) (ho : isLoneOpen line = false) :
    turn line = .stays := by
  have hd' : kind false line ≠ .declaration := mt (kind_eq_declaration_iff inStruct).mpr hd
  rw [turn, if_neg (mt (kind_eq_close_iff inStruct).mpr hc), if_neg (by simp [hd', ho])]

theorem turn_trim (line : Text) : turn (trim line) = turn line := by
  simp only [turn, kind_trim, isLoneOpen_trim, opensBlock_trim]

theorem turn_of_isAttribute (h : isAttribute line = true) : turn line = .stays := by
  obtain ⟨hc, hd, ho⟩ := Frame.plain_of_isAttribute false h
  exact turn_of_plain hc hd ho

end Turn

/-! ## Frames -/

namespace Frame
variable (f : Frame) (line : Text)

/-- A line is written at its depth. -/
theorem depth_eq_own : f.depth line = (turn line).own f.level := by
  by_cases hc : kind f.inStruct line = .close
  · rw [depth_of_close hc, turn_of_close hc]
    rfl
  · have hstays : turn line ≠ .closes := by
      rw [turn, if_neg (mt (kind_eq_close_iff f.inStruct).mpr hc)]
      split_ifs <;> decide
    rw [depth_of_ne_close hc]
    cases hturn : turn line with
    | closes => exact absurd hturn hstays
    | opens => rfl
    | stays => rfl

/-- **One line**: the level changes as the depth does. -/
theorem level_next : (f.next line).level = (turn line).below f.level := by
  by_cases hc : kind f.inStruct line = .close
  · rw [next_of_close hc, turn_of_close hc]
    rfl
  by_cases hd : kind f.inStruct line = .declaration
  · rw [next_of_declaration hd, turn_of_declaration hd]
    split_ifs <;> rfl
  by_cases ho : isLoneOpen line = true
  · rw [next_of_isLoneOpen hc hd ho, turn_of_isLoneOpen hc ho]
    rfl
  · rw [turn_of_plain hc hd (by simpa using ho), next, if_neg hc, if_neg hd, if_neg ho]
    split_ifs <;> rfl

/-- **All lines**: the depths of the frames are the depths of the lines. -/
theorem depth_trace (ls : List Text) :
    (f.trace ls).map (fun seen => seen.1.depth seen.2) = depths f.level ls := by
  induction ls generalizing f with
  | nil => rfl
  | cons line rest ih => rw [trace, List.map_cons, ih, level_next, depth_eq_own, depths]

end Frame

/-! ## Lines that change places -/

/-- The depths of lines are settled by what each of them does. -/
theorem depths_congr {ls ls' : List Text} (h : ls.map turn = ls'.map turn) (depth : Nat) :
    depths depth ls = depths depth ls' := by
  induction ls generalizing ls' depth with
  | nil =>
    cases ls' with
    | nil => rfl
    | cons l' ls' => cases h
  | cons l ls ih =>
    cases ls' with
    | nil => cases h
    | cons l' ls' =>
      simp only [List.map_cons, List.cons.injEq] at h
      rw [depths, depths, h.1, ih h.2]

/-- Putting runs of attributes in order changes no depth. -/
theorem depths_arrangeRuns (sort : Bool) (ls : List Text) (depth : Nat) :
    depths depth (arrangeRuns sort [] ls) = depths depth ls := by
  have hmap := map_arrangeRuns sort (fun _ h => turn_of_isAttribute h) turn_trim
    (List.forall_mem_nil fun l => isAttribute l = true) ls
  exact depths_congr hmap depth

/-! ## What is written -/

/-- A trimmed text that is not empty begins with a visible character. -/
theorem indented_append {o : FormatOptions} {depth : Nat} {t : Text} (htrim : trim t = t)
    (hne : t ≠ []) : Indented o depth (o.indent depth ++ t) := by
  obtain ⟨c, rest, rfl⟩ := List.exists_cons_of_ne_nil hne
  rw [FormatOptions.indent, Nat.mul_comm]
  exact .visible rest (visible_head_of_trim htrim)

theorem Written.indented {o : FormatOptions} {f : Frame} {line out : Text}
    (h : Written o f line out) : Indented o (f.depth line) out := by
  cases h with
  | blank _ => exact .empty
  | plain hv _ => exact indented_append (trim_trim line) hv
  | @field name rest gap _ _ hs =>
    have hne : fieldText gap name rest ≠ [] := by simp [fieldText]
    exact indented_append (trim_fieldText (isField_of_splitField hs) gap) hne

/-- Lines are indented by the depths of the lines that were read. -/
theorem indented_formatLines (o : FormatOptions) (ls : List Text) :
    List.Forall₂ (Indented o) (depths 0 ls) (formatLines o ls) := by
  have hdepths : depths 0 ls =
      (Frame.start.trace (arrangeRuns o.sortAttributes [] ls)).map
        (fun seen => seen.1.depth seen.2) := by
    rw [Frame.depth_trace, depths_arrangeRuns]
    rfl
  rw [formatLines_eq_layOut, hdepths, List.forall₂_map_left_iff]
  exact (forall₂_written o Frame.start _).imp fun _ _ h => h.indented

/-- Lines are empty where the lines that were read are blank. -/
theorem eq_nil_iff_formatLines (o : FormatOptions) (ls : List Text) :
    List.Forall₂ (fun line out => out = [] ↔ trim line = []) ls (formatLines o ls) := by
  refine List.forall₂_iff_get.mpr ⟨(length_formatLines o ls).symm, fun i hi hout => ?_⟩
  obtain ⟨htrim, hnil⟩ := blank_formatLines o (List.getElem?_eq_getElem hi)
    (List.getElem?_eq_getElem hout)
  constructor
  · intro he
    refine htrim.mp ?_
    rw [List.get_eq_getElem] at he
    rw [he, trim_nil]
  · exact hnil

/-- **Every line is indented by its depth**, whatever waits while it is read: line by line, what
is written stands behind exactly as many levels of spaces as blocks are open around the line,
unless it is empty, and that it is exactly where the text has a blank line. -/
theorem format_indents (o : FormatOptions) (t : Text) :
    List.Forall₂ (Indented o) (depths 0 (Text.lines t)) (Text.lines (SchemaEditor.format o t)) ∧
      List.Forall₂ (fun line out => out = [] ↔ trim line = []) (Text.lines t)
        (Text.lines (SchemaEditor.format o t)) := by
  rw [lines_format]
  constructor
  · exact indented_formatLines o (Text.lines t)
  · exact eq_nil_iff_formatLines o (Text.lines t)

/-- A closing line outside all blocks leaves none, and the brace of a declaration may stand below
it. -/
example :
    depths 0 [ofString "\x7d", ofString "struct A", ofString "\x7b", ofString "#[x]",
      ofString "a: u8", ofString "\x7d"] = [0, 0, 0, 1, 1, 0] := by
  cbv

end SchemaEditor.Format
