import Mathlib.Data.List.Forall2
import SchemaEditor.Format.Options
import SchemaEditor.Proofs.Format.Field

/-!
# Layouts

The formatter keeps lines back in two buffers, so what it has written never shows
what it has read.  This module describes the same result without a buffer; that the
pass has it is proved in `SchemaEditor.Proofs.Format.Pass`.

A `Frame` is what a line needs to know of the lines above it: the level, whether it
stands in a struct body, and whether the line above mentions a struct.  `Frame.next`
says how a line changes it.  Lines in a struct body that neither end nor open
anything (`Frame.holds`) change nothing, so they come in batches; every other line
is written by itself.  `layOut` writes a list of lines in this way, from the top.

Every line is written at the depth of its frame, as it is or, in a batch that is
aligned, as a field of the same name and rest (`Written`, `forall₂_written`).
-/

namespace SchemaEditor.Format
open Text Line

/-! ## Frames -/

/-- What a line needs to know of the lines above it. -/
structure Frame where
  /-- How many blocks are open. -/
  level : Nat
  /-- The line is in the body of a struct. -/
  inStruct : Bool
  /-- The line written above it mentions a struct; what is held does not count. -/
  afterStruct : Bool
  deriving DecidableEq, Repr

namespace Frame

/-- The frame of the first line. -/
def start : Frame := ⟨0, false, false⟩

variable (f : Frame) (line : Text)

/-- The frame of the line below. -/
def next : Frame :=
  if kind f.inStruct line = .close then ⟨f.level - 1, false, mentionsStruct line⟩
  else if kind f.inStruct line = .declaration then
    if opensBlock line then ⟨f.level + 1, mentionsStruct line, mentionsStruct line⟩
    else { f with afterStruct := mentionsStruct line }
  else if isLoneOpen line then ⟨f.level + 1, f.inStruct || f.afterStruct, mentionsStruct line⟩
  else if f.inStruct then f
  else { f with afterStruct := mentionsStruct line }

/-- The frame below a list of lines. -/
def after (ls : List Text) : Frame := ls.foldl next f

/-- The line belongs to a batch. -/
def holds : Bool :=
  f.inStruct && decide (kind f.inStruct line ≠ .close) &&
    decide (kind f.inStruct line ≠ .declaration) && !isLoneOpen line

/-- The level a line is written at; a closing line stands outside its block. -/
def depth : Nat := if kind f.inStruct line = .close then f.level - 1 else f.level

/-- A line that belongs to no batch, as it is written. -/
def write (o : FormatOptions) : Text :=
  if trim line = [] then [] else o.indent (f.depth line) ++ trim line

/-- The lines, each with its frame. -/
def trace : Frame → List Text → List (Frame × Text)
  | _, [] => []
  | f, line :: rest => (f, line) :: trace (f.next line) rest

variable {f line}

theorem holds_iff : f.holds line = true ↔ f.inStruct = true ∧ kind f.inStruct line ≠ .close ∧
    kind f.inStruct line ≠ .declaration ∧ isLoneOpen line = false := by
  simp [holds, and_assoc]

theorem next_of_holds (h : f.holds line = true) : f.next line = f := by
  obtain ⟨hs, hc, hd, ho⟩ := holds_iff.mp h
  unfold next
  rw [if_neg hc, if_neg hd, ho, if_neg (by decide), if_pos hs]

theorem depth_of_close (h : kind f.inStruct line = .close) : f.depth line = f.level - 1 := by
  rw [depth, if_pos h]

theorem depth_of_ne_close (h : kind f.inStruct line ≠ .close) : f.depth line = f.level := by
  rw [depth, if_neg h]

theorem write_of_visible (o : FormatOptions) (h : trim line ≠ []) :
    f.write line o = o.indent (f.depth line) ++ trim line := by
  rw [write, if_neg h]

@[simp] theorem after_nil (f : Frame) : f.after [] = f := rfl

@[simp] theorem after_cons (f : Frame) (line : Text) (rest : List Text) :
    f.after (line :: rest) = (f.next line).after rest := rfl

@[simp] theorem after_append (f : Frame) (ls ls' : List Text) :
    f.after (ls ++ ls') = (f.after ls).after ls' := by
  simp [after]

theorem after_of_holds {ls : List Text} (h : ∀ l ∈ ls, f.holds l = true) : f.after ls = f := by
  induction ls with
  | nil => rfl
  | cons line rest ih =>
    rw [after_cons, next_of_holds (h line (List.mem_cons_self ..)),
      ih (fun l hl => h l (List.mem_cons_of_mem _ hl))]

theorem trace_append_of_holds {ls : List Text} (h : ∀ l ∈ ls, f.holds l = true)
    (rest : List Text) : f.trace (ls ++ rest) = ls.map (f, ·) ++ f.trace rest := by
  induction ls with
  | nil => rfl
  | cons line ls ih =>
    rw [List.cons_append, trace, next_of_holds (h line (List.mem_cons_self ..)),
      ih (fun l hl => h l (List.mem_cons_of_mem _ hl))]
    rfl

/-- The frame of a line is the frame below the lines above it. -/
theorem getElem?_trace (f : Frame) (ls : List Text) (i : Nat) :
    (f.trace ls)[i]? = ls[i]?.map (f.after (ls.take i), ·) := by
  induction ls generalizing f i with
  | nil => simp [trace]
  | cons line rest ih =>
    cases i with
    | zero => simp [trace]
    | succ i => simpa [trace] using ih (f.next line) i

/-- The first batch, if a list begins with one, is made of lines that are held. -/
theorem holds_of_mem_batch (h : f.holds line = true) {rest : List Text} :
    ∀ l ∈ line :: rest.takeWhile f.holds, f.holds l = true := by
  intro l hl
  rcases List.mem_cons.mp hl with rfl | hl
  · exact h
  · exact List.mem_takeWhile_imp hl

theorem batch_append_dropWhile (f : Frame) (line : Text) (rest : List Text) :
    (line :: rest.takeWhile f.holds) ++ rest.dropWhile f.holds = line :: rest := by
  rw [List.cons_append, List.takeWhile_append_dropWhile]

/-- The line behind the first batch is not of it. -/
theorem not_holds_dropWhile (f : Frame) (rest : List Text) :
    ∀ l ∈ (rest.dropWhile f.holds).head?, f.holds l = false := by
  intro l hl
  have hstop := List.head?_dropWhile_not f.holds rest
  rw [Option.mem_def.mp hl] at hstop
  exact hstop

theorem next_of_close (h : kind f.inStruct line = .close) :
    f.next line = ⟨f.level - 1, false, mentionsStruct line⟩ := by
  rw [next, if_pos h]

theorem next_of_declaration (h : kind f.inStruct line = .declaration) :
    f.next line =
      if opensBlock line then ⟨f.level + 1, mentionsStruct line, mentionsStruct line⟩
      else { f with afterStruct := mentionsStruct line } := by
  rw [next, if_neg (by rw [h]; decide), if_pos h]

theorem next_of_isLoneOpen (hc : kind f.inStruct line ≠ .close)
    (hd : kind f.inStruct line ≠ .declaration) (h : isLoneOpen line = true) :
    f.next line = ⟨f.level + 1, f.inStruct || f.afterStruct, mentionsStruct line⟩ := by
  rw [next, if_neg hc, if_neg hd, if_pos h]

/-- A line outside a struct body that opens and closes nothing. -/
theorem next_of_plain (hc : kind f.inStruct line ≠ .close)
    (hd : kind f.inStruct line ≠ .declaration) (ho : isLoneOpen line = false)
    (hs : f.inStruct = false) : f.next line = { f with afterStruct := mentionsStruct line } := by
  rw [next, if_neg hc, if_neg hd, ho, if_neg (by decide), hs, if_neg (by decide)]

/-- Attributes open and close nothing. -/
theorem plain_of_isAttribute (inStruct : Bool) (h : isAttribute line = true) :
    kind inStruct line ≠ .close ∧ kind inStruct line ≠ .declaration ∧ isLoneOpen line = false := by
  rw [kind_eq_attribute_iff.mpr h]
  refine ⟨by decide, by decide, ?_⟩
  unfold isLoneOpen
  by_contra hb
  rw [Bool.not_eq_false, beq_iff_eq] at hb
  rw [isAttribute, hb] at h
  exact absurd h (by decide)

theorem holds_of_isAttribute (hs : f.inStruct = true) (h : isAttribute line = true) :
    f.holds line = true :=
  holds_iff.mpr ⟨hs, plain_of_isAttribute _ h⟩

end Frame

/-! ## Laying out -/

/-- Writes lines from the top: batches as a whole, all other lines one by one. -/
def layOut (o : FormatOptions) (f : Frame) : List Text → List Text
  | [] => []
  | line :: rest =>
      if f.holds line then
        alignBatch (f.level * o.indentSize) o.alignFields (line :: rest.takeWhile f.holds) ++
          layOut o f (rest.dropWhile f.holds)
      else f.write line o :: layOut o (f.next line) rest
termination_by ls => ls.length
decreasing_by
  · exact Nat.lt_succ_of_le (List.length_dropWhile_le f.holds rest)
  · exact Nat.lt_succ_self rest.length

section LayOut
variable (o : FormatOptions) {f : Frame}

theorem layOut_nil (f : Frame) : layOut o f [] = [] := by rw [layOut]

theorem layOut_cons_of_not_holds {line : Text} (h : f.holds line = false) (rest : List Text) :
    layOut o f (line :: rest) = f.write line o :: layOut o (f.next line) rest := by
  rw [layOut, if_neg (by simp [h])]

theorem alignBatch_nil (width : Nat) (align : Bool) : alignBatch width align [] = [] := by
  cases align <;> rfl

@[simp] theorem length_alignBatch (width : Nat) (align : Bool) (ls : List Text) :
    (alignBatch width align ls).length = ls.length := by
  cases align <;> simp [alignBatch]

/-- A batch is written as a whole, once the line behind it is not of it. -/
theorem layOut_append_of_holds {ls : List Text} (h : ∀ l ∈ ls, f.holds l = true)
    {rest : List Text} (hrest : ∀ l ∈ rest.head?, f.holds l = false) :
    layOut o f (ls ++ rest) =
      alignBatch (f.level * o.indentSize) o.alignFields ls ++ layOut o f rest := by
  have hcut : rest.takeWhile f.holds = [] ∧ rest.dropWhile f.holds = rest := by
    cases rest with
    | nil => simp
    | cons l rest => simp [hrest l rfl]
  cases ls with
  | nil => rw [alignBatch_nil, List.nil_append, List.nil_append]
  | cons line ls =>
    have hls : ∀ l ∈ ls, f.holds l = true := fun l hl => h l (List.mem_cons_of_mem _ hl)
    rw [List.cons_append, layOut, if_pos (h line (List.mem_cons_self ..)),
      List.takeWhile_append_of_pos hls, List.dropWhile_append_of_pos hls, hcut.1, hcut.2,
      List.append_nil]

/-- **A layout is cut in front of a line that is no part of a batch.** -/
theorem layOut_append {ls rest : List Text}
    (h : ∀ l ∈ rest.head?, (f.after ls).holds l = false) :
    layOut o f (ls ++ rest) = layOut o f ls ++ layOut o (f.after ls) rest := by
  induction f, ls using layOut.induct with
  | case1 f => rw [layOut_nil, List.nil_append, List.nil_append, Frame.after_nil]
  | case2 f line ls hheld ih =>
    have hbatch : ∀ l ∈ line :: ls.takeWhile f.holds, f.holds l = true :=
      Frame.holds_of_mem_batch hheld
    have hend : ∀ l ∈ (ls.dropWhile f.holds).head?, f.holds l = false :=
      Frame.not_holds_dropWhile f ls
    rw [← Frame.batch_append_dropWhile f line ls] at h ⊢
    rw [Frame.after_append, Frame.after_of_holds hbatch] at h ⊢
    -- the first batch ends in front of the other lines, or of the rest if there are none
    have hend' : ∀ l ∈ (ls.dropWhile f.holds ++ rest).head?, f.holds l = false := by
      cases hdrop : ls.dropWhile f.holds with
      | nil =>
        rw [hdrop] at h
        exact h
      | cons l tail =>
        rw [hdrop] at hend
        exact hend
    rw [List.append_assoc, layOut_append_of_holds o hbatch hend',
      layOut_append_of_holds o hbatch hend, ih h, List.append_assoc]
  | case3 f line ls hheld ih =>
    have hline : f.holds line = false := by simpa using hheld
    rw [List.cons_append, layOut_cons_of_not_holds o hline, layOut_cons_of_not_holds o hline, ih h,
      Frame.after_cons, List.cons_append]

/-- A layout is cut behind a line that is no part of a batch. -/
theorem layOut_append_cons {ls : List Text} {line : Text} (h : (f.after ls).holds line = false)
    (rest : List Text) :
    layOut o f (ls ++ line :: rest) =
      layOut o f (ls ++ [line]) ++ layOut o (f.after (ls ++ [line])) rest := by
  have hhead : ∀ l ∈ (line :: rest).head?, (f.after ls).holds l = false := by
    intro l hl
    obtain rfl : line = l := by simpa using hl
    exact h
  have hone : ∀ l ∈ [line].head?, (f.after ls).holds l = false := hhead
  rw [layOut_append o hhead, layOut_append o hone, layOut_cons_of_not_holds o h,
    layOut_cons_of_not_holds o h, layOut_nil, Frame.after_append, List.append_assoc,
    List.singleton_append, Frame.after_cons, Frame.after_nil]

theorem length_layOut (f : Frame) (ls : List Text) : (layOut o f ls).length = ls.length := by
  induction f, ls using layOut.induct with
  | case1 f => rw [layOut_nil]
  | case2 f line rest h ih =>
    rw [layOut, if_pos h, List.length_append, length_alignBatch, ih, List.length_cons,
      List.length_cons]
    have hsum := congrArg List.length (List.takeWhile_append_dropWhile (p := f.holds) (l := rest))
    rw [List.length_append] at hsum
    omega
  | case3 f line rest h ih =>
    rw [layOut_cons_of_not_holds o (by simpa using h), List.length_cons, ih, List.length_cons]

end LayOut

/-! ## Line by line -/

/-- What is written for a line in a frame: nothing if the line is blank, and else, at
the depth of the line, its trimmed text, or its name and rest again if it is a field
of a batch and batches are aligned. -/
inductive Written (o : FormatOptions) (f : Frame) (line : Text) : Text → Prop
  | blank (h : trim line = []) : Written o f line []
  | plain (h : trim line ≠ [])
      (hfield : f.holds line = true → o.alignFields = true → splitField line = none) :
      Written o f line (o.indent (f.depth line) ++ trim line)
  | field {name rest : Text} (gap : Nat) (hheld : f.holds line = true)
      (halign : o.alignFields = true) (h : splitField line = some (name, rest)) :
      Written o f line (o.indent (f.depth line) ++ fieldText gap name rest)

section Lines
variable (o : FormatOptions) {f : Frame}

theorem splitField_eq_none_of_blank {line : Text} (h : trim line = []) :
    splitField line = none := by
  rw [splitField, h]
  rfl

theorem written_indentLine {line : Text} (hheld : f.holds line = true)
    (hfield : o.alignFields = true → splitField line = none) :
    Written o f line (indentLine (f.level * o.indentSize) line) := by
  unfold indentLine
  split_ifs with hb
  · exact .blank hb
  · have hplain := Written.plain (o := o) (f := f) hb fun _ => hfield
    rwa [Frame.depth_of_ne_close (Frame.holds_iff.mp hheld).2.1] at hplain

theorem written_alignLine {line : Text} (hheld : f.holds line = true)
    (halign : o.alignFields = true) (longest : Nat) :
    Written o f line (alignLine (f.level * o.indentSize) longest line) := by
  cases h : splitField line with
  | none =>
    rw [alignLine_of_splitField_eq_none h]
    exact written_indentLine o hheld fun _ => h
  | some field =>
    have hfield := Written.field (o := o) (longest - field.1.length) hheld halign h
    rw [Frame.depth_of_ne_close (Frame.holds_iff.mp hheld).2.1] at hfield
    rw [alignLine_of_splitField h]
    exact hfield

/-- Every line of a batch is written in its frame. -/
theorem forall₂_written_batch {ls : List Text} (h : ∀ l ∈ ls, f.holds l = true) :
    List.Forall₂ (fun seen out => Written o seen.1 seen.2 out) (ls.map (f, ·))
      (alignBatch (f.level * o.indentSize) o.alignFields ls) := by
  unfold alignBatch
  split_ifs with ha
  · rw [List.forall₂_map_left_iff, List.forall₂_map_right_iff, List.forall₂_same]
    exact fun l hl => written_alignLine o (h l hl) ha _
  · rw [List.forall₂_map_left_iff, List.forall₂_map_right_iff, List.forall₂_same]
    exact fun l hl => written_indentLine o (h l hl) fun hal => absurd hal ha

/-- **Every line is written in its frame.** -/
theorem forall₂_written (f : Frame) (ls : List Text) :
    List.Forall₂ (fun seen out => Written o seen.1 seen.2 out) (f.trace ls) (layOut o f ls) := by
  induction f, ls using layOut.induct with
  | case1 f => rw [layOut_nil]; exact List.Forall₂.nil
  | case2 f line rest h ih =>
    have hbatch : ∀ l ∈ line :: rest.takeWhile f.holds, f.holds l = true :=
      Frame.holds_of_mem_batch h
    -- the frame is the same for the whole batch
    rw [layOut, if_pos h, ← Frame.batch_append_dropWhile f line rest,
      Frame.trace_append_of_holds hbatch]
    exact List.rel_append (forall₂_written_batch o hbatch) ih
  | case3 f line rest h ih =>
    rw [layOut_cons_of_not_holds o (by simpa using h), Frame.trace]
    refine List.Forall₂.cons ?_ ih
    unfold Frame.write
    split_ifs with hb
    · exact .blank hb
    · exact .plain hb fun hheld => absurd hheld h

/-- The line at a place of the layout is written in the frame of that place. -/
theorem written_of_getElem? {ls : List Text} {i : Nat} {line out : Text} (hl : ls[i]? = some line)
    (hout : (layOut o f ls)[i]? = some out) : Written o (f.after (ls.take i)) line out := by
  have hseen : (f.trace ls)[i]? = some (f.after (ls.take i), line) := by
    rw [Frame.getElem?_trace, hl]
    rfl
  obtain ⟨hi, hget⟩ := List.getElem?_eq_some_iff.mp hseen
  obtain ⟨hi', hget'⟩ := List.getElem?_eq_some_iff.mp hout
  have hw := (List.forall₂_iff_get.mp (forall₂_written o f ls)).2 i hi hi'
  simp only [List.get_eq_getElem, hget, hget'] at hw
  exact hw

variable {o} {line out : Text}

/-- What is written for a line has no characters but its own, blanks and colons. -/
theorem Written.mem (h : Written o f line out) {c : CodePoint} (hc : c ∈ out) :
    c ∈ line ∨ c = .char ' ' ∨ c = .char ':' := by
  cases h with
  | blank _ => cases hc
  | plain _ _ =>
    rcases List.mem_append.mp hc with hc | hc
    · exact Or.inr (Or.inl (List.eq_of_mem_replicate hc))
    · exact Or.inl (mem_of_mem_trim hc)
  | field gap _ _ hs =>
    rcases List.mem_append.mp hc with hc | hc
    · exact Or.inr (Or.inl (List.eq_of_mem_replicate hc))
    · exact (mem_fieldText hc).imp_left (mem_of_splitField hs)

end Lines

end SchemaEditor.Format
