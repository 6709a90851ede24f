import Mathlib.Order.Bounds.Basic
import SchemaEditor.Proofs.Format.Pass

/-!
# The colons of a batch

If fields are aligned, then the colons of a batch stand in one column, which is settled by the
batch alone: behind the indentation and the longest of its names (`colons_share_column`).

Where a batch begins and ends is nowhere to be seen in the formatter, which writes what has been
held whenever a line comes that is not.  Here a batch is a stretch of the lines that were read
(`IsBatch`): each of them was read in a struct body and neither opens nor closes anything, and
the stretch cannot be made longer.  The lines at its borders are then no attributes, for these
would be of it, so no run of attributes goes across a border (`IsBatch.arranged`).  And the frame
is the same all along the stretch, so `layOut` writes it as one batch between what is written for
the lines above and for the lines below (`IsBatch.formatLines_eq`).
-/

namespace SchemaEditor.Format
open Text Line

/-! ## Batches among the lines that are read -/

/-- A pass takes the line for one of a batch: it is in a struct body, and the line opens and
closes nothing. -/
def State.Joins (s : State) (line : Text) : Prop :=
  s.inStruct = true ∧ kind s.inStruct line ≠ .close ∧ kind s.inStruct line ≠ .declaration ∧
    isLoneOpen line = false

instance (s : State) (line : Text) : Decidable (s.Joins line) :=
  inferInstanceAs (Decidable (_ ∧ _ ∧ _ ∧ _))

/-- The lines of `batch` are a batch between the lines of `before` and of `after`. -/
structure IsBatch (o : FormatOptions) (before batch after : List Text) : Prop where
  /-- Each line is taken for one of a batch when it is read. -/
  joins : ∀ (i : Nat) (h : i < batch.length),
    (initial.feedAll o (before ++ batch.take i)).Joins batch[i]
  /-- The line above is not. -/
  above : ∀ line ∈ before.getLast?, ¬ (initial.feedAll o before.dropLast).Joins line
  /-- The line below is not. -/
  below : ∀ line ∈ after.head?, ¬ (initial.feedAll o (before ++ batch)).Joins line

/-- The lengths of the names of the fields among the lines. -/
def nameLengths (ls : List Text) : Set Nat :=
  {n | ∃ line ∈ ls, ∃ name rest, splitField line = some (name, rest) ∧ name.length = n}

/-- The first colon of a line stands in a column, only spaces stand between it and the name, and
no blanks stand at the end. -/
structure ColonAt (width column : Nat) (name line : Text) : Prop where
  colon : line.idxOf? (.char ':') = some column
  front : line.take column = spaces width ++ name ++ spaces (column - (width + name.length))
  trimEnd : trimEnd line = line

/-! ## The longest name -/

theorem length_le_longestName {ls : List Text} {line name rest : Text} (hline : line ∈ ls)
    (h : splitField line = some (name, rest)) : name.length ≤ longestName ls := by
  induction ls with
  | nil => cases hline
  | cons first ls ih =>
    rw [longestName]
    rcases List.mem_cons.mp hline with rfl | hline
    · rw [h]
      exact Nat.le_max_left _ _
    · cases splitField first with
      | none => exact ih hline
      | some field => exact Nat.le_trans (ih hline) (Nat.le_max_right _ _)

/-- The longest name is a name, unless there is none. -/
theorem exists_longestName {ls : List Text} (h : 0 < longestName ls) :
    longestName ls ∈ nameLengths ls := by
  induction ls with
  | nil => cases h
  | cons first ls ih =>
    have hrest : 0 < longestName ls → longestName ls ∈ nameLengths (first :: ls) := by
      intro hpos
      obtain ⟨line, hline, field⟩ := ih hpos
      exact ⟨line, List.mem_cons_of_mem _ hline, field⟩
    rw [longestName] at h ⊢
    cases hfirst : splitField first with
    | none =>
      rw [hfirst] at h
      exact hrest h
    | some field =>
      obtain ⟨name, rest⟩ := field
      rw [hfirst] at h
      by_cases hle : longestName ls ≤ name.length
      · exact ⟨first, List.mem_cons_self .., name, rest, hfirst, (Nat.max_eq_left hle).symm⟩
      · have hlt : name.length < longestName ls := by omega
        have hmax : Nat.max name.length (longestName ls) = longestName ls :=
          Nat.max_eq_right (Nat.le_of_lt hlt)
        show Nat.max name.length (longestName ls) ∈ nameLengths (first :: ls)
        rw [hmax]
        exact hrest (by omega)

/-- **The longest name of lines with a field is as long as the longest of their names.** -/
theorem isGreatest_longestName {ls : List Text} {line name rest : Text} (hline : line ∈ ls)
    (h : splitField line = some (name, rest)) : IsGreatest (nameLengths ls) (longestName ls) := by
  have hname : 0 < name.length := List.length_pos_iff.mpr (isField_of_splitField h).name_ne
  refine ⟨exists_longestName (Nat.lt_of_lt_of_le hname (length_le_longestName hline h)), ?_⟩
  rintro n ⟨other, hother, name', rest', h', rfl⟩
  exact length_le_longestName hother h'

/-! ## The colon of one line -/

theorem idxOf?_append_cons {c : CodePoint} {front : Text} (h : c ∉ front) (back : Text) :
    (front ++ c :: back).idxOf? c = some front.length := by
  have hnone : front.findIdx? (· == c) = none := by
    rw [List.findIdx?_eq_none_iff]
    intro d hd
    rw [beq_eq_false_iff_ne]
    rintro rfl
    exact h hd
  rw [List.idxOf?, List.findIdx?_append, hnone, List.findIdx?_cons, if_pos (beq_self_eq_true c)]
  simp

/-- A field is written with its colon in the column of the batch. -/
theorem colonAt_alignLine {line name rest : Text} (h : splitField line = some (name, rest))
    (width : Nat) {longest : Nat} (hle : name.length ≤ longest) :
    ColonAt width (width + longest) name (alignLine width longest line) := by
  have hfield : IsField name rest := isField_of_splitField h
  have hne : fieldText (longest - name.length) name rest ≠ [] := by simp [fieldText]
  -- what stands in front of the colon has no other, and ends where the column does
  have hcolon : CodePoint.char ':' ∉ spaces width ++ name ++ spaces (longest - name.length) := by
    intro hmem
    rcases List.mem_append.mp hmem with hmem | hmem
    · rcases List.mem_append.mp hmem with hmem | hmem
      · cases List.eq_of_mem_replicate hmem
      · exact hfield.colon_not_mem hmem
    · cases List.eq_of_mem_replicate hmem
  have hlength : (spaces width ++ name ++ spaces (longest - name.length)).length =
      width + longest := by
    simp only [spaces, List.length_append, List.length_replicate]
    omega
  have hgap : width + longest - (width + name.length) = longest - name.length := by omega
  rw [alignLine_of_splitField h]
  constructor
  · rw [fieldText, ← List.append_assoc, ← List.append_assoc, idxOf?_append_cons hcolon, hlength]
  · rw [hgap, fieldText, ← List.append_assoc, ← List.append_assoc, List.take_left' hlength]
  · exact trimEnd_spaces_append hne (trim_fieldText hfield _) width

/-! ## The borders of a batch -/

section Batch
variable {o : FormatOptions} {before batch after : List Text}

/-- A pass takes a line for one of a batch exactly if the frame that it has come to holds it. -/
theorem joins_iff_holds (ls : List Text) (line : Text) :
    (initial.feedAll o ls).Joins line ↔ (frameBelow o ls).holds line = true := by
  rw [State.Joins, Frame.holds_iff, inStruct_frameBelow]

theorem holds_trim (f : Frame) (line : Text) : f.holds (trim line) = f.holds line := by
  simp only [Frame.holds, kind_trim, isLoneOpen_trim]

theorem holds_arrangeRuns {f : Frame} {ls : List Text} (h : ∀ l ∈ ls, f.holds l = true)
    (sort : Bool) : ∀ l ∈ arrangeRuns sort [] ls, f.holds l = true := by
  intro arranged harranged
  obtain ⟨-, line, hline, rfl⟩ := mem_arrangeRuns sort harranged
  rw [holds_trim]
  exact h line (by simpa using hline)

/-- Lines that are held leave the frame as it is. -/
theorem frameBelow_append_of_holds (hlast : ∀ l ∈ before.getLast?, isAttribute l = false)
    {ls : List Text} (h : ∀ l ∈ ls, (frameBelow o before).holds l = true) :
    frameBelow o (before ++ ls) = frameBelow o before := by
  rw [frameBelow_append o hlast, Frame.after_of_holds (holds_arrangeRuns h o.sortAttributes)]

/-- In a struct body attributes are taken for lines of a batch. -/
theorem joins_of_isAttribute {s : State} {line : Text} (hs : s.inStruct = true)
    (h : isAttribute line = true) : s.Joins line :=
  ⟨hs, Frame.plain_of_isAttribute _ h⟩

/-- The line above a batch is no attribute: an attribute would be of the batch. -/
theorem IsBatch.not_isAttribute_above (h : IsBatch o before batch after) (hne : batch ≠ []) :
    ∀ line ∈ before.getLast?, isAttribute line = false := by
  intro line hline
  obtain ⟨read, rfl⟩ := List.getLast?_eq_some_iff.mp hline
  by_contra hattr
  rw [Bool.not_eq_false] at hattr
  have hfirst := h.joins 0 (List.length_pos_iff.mpr hne)
  rw [List.take_zero, List.append_nil] at hfirst
  -- an attribute leaves a pass in a struct body only if it was in one
  rw [feedAll_concat_of_isAttribute o initial read hattr] at hfirst
  have hbody : (initial.feedAll o read).inStruct = true := hfirst.1
  have habove := h.above line hline
  rw [List.dropLast_concat] at habove
  exact habove (joins_of_isAttribute hbody hattr)

/-- **All lines of a batch are read in one frame**, which holds them. -/
theorem IsBatch.holds (h : IsBatch o before batch after) :
    ∀ line ∈ batch, (frameBelow o before).holds line = true := by
  -- line by line: the frame is the same because the lines above are held
  have hfront : ∀ i ≤ batch.length, ∀ line ∈ batch.take i,
      (frameBelow o before).holds line = true := by
    intro i
    induction i with
    | zero =>
      intro _ line hline
      rw [List.take_zero] at hline
      cases hline
    | succ i ih =>
      intro hi line hline
      have hlt : i < batch.length := hi
      have hheld := ih (Nat.le_of_lt hlt)
      rw [List.take_succ_eq_append_getElem hlt, List.mem_append, List.mem_singleton] at hline
      rcases hline with hline | rfl
      · exact hheld line hline
      · have hlast := h.not_isAttribute_above (List.ne_nil_of_length_pos (by omega))
        have hjoins := (joins_iff_holds _ _).mp (h.joins i hlt)
        rwa [frameBelow_append_of_holds hlast hheld] at hjoins
  intro line hline
  rw [← List.take_length (l := batch)] at hline
  exact hfront batch.length (Nat.le_refl _) line hline

/-- The line above a batch belongs to none. -/
theorem IsBatch.not_holds_above (h : IsBatch o before batch after) :
    ∀ line ∈ before.getLast?, (frameBelow o before.dropLast).holds line = false := by
  intro line hline
  have habove := h.above line hline
  rwa [joins_iff_holds, Bool.not_eq_true] at habove

/-- The line below a batch is not held in the frame of the batch. -/
theorem IsBatch.not_holds_below (h : IsBatch o before batch after) (hne : batch ≠ []) :
    ∀ line ∈ after.head?, (frameBelow o before).holds line = false := by
  intro line hline
  have hbelow := h.below line hline
  rwa [joins_iff_holds, frameBelow_append_of_holds (h.not_isAttribute_above hne) h.holds,
    Bool.not_eq_true] at hbelow

/-- The line below a batch is no attribute either. -/
theorem IsBatch.not_isAttribute_below (h : IsBatch o before batch after) (hne : batch ≠ []) :
    ∀ line ∈ after.head?, isAttribute line = false := by
  intro line hline
  by_contra hattr
  rw [Bool.not_eq_false] at hattr
  obtain ⟨first, hfirst⟩ := List.exists_mem_of_ne_nil batch hne
  have hbody : (frameBelow o before).inStruct = true :=
    (Frame.holds_iff.mp (h.holds first hfirst)).1
  have hheld := Frame.holds_of_isAttribute hbody hattr
  rw [h.not_holds_below hne line hline] at hheld
  cases hheld

/-- **No run of attributes goes across a border.** -/
theorem IsBatch.arranged (h : IsBatch o before batch after) (hne : batch ≠ []) (sort : Bool) :
    arrangeRuns sort [] (before ++ (batch ++ after)) =
      arrangeRuns sort [] before ++ (arrangeRuns sort [] batch ++ arrangeRuns sort [] after) := by
  rw [arrangeRuns_append sort (h.not_isAttribute_above hne),
    arrangeRuns_append_of_head sort (h.not_isAttribute_below hne)]

/-! ## Laying out a batch -/

/-- What stands above a batch is laid out by itself. -/
theorem IsBatch.layOut_above (h : IsBatch o before batch after) (hne : batch ≠ [])
    (rest : List Text) :
    layOut o Frame.start (arrangeRuns o.sortAttributes [] before ++ rest) =
      formatLines o before ++ layOut o (frameBelow o before) rest := by
  have hattr := h.not_isAttribute_above hne
  have hheld := h.not_holds_above
  rw [formatLines_eq_layOut]
  rcases List.eq_nil_or_concat before with rfl | ⟨read, line, rfl⟩
  · rw [frameBelow, arrangeRuns_nil, arrangeAttributes_nil, layOut_nil]
    rfl
  · rw [List.concat_eq_append] at hattr hheld ⊢
    have hlast : isAttribute line = false := hattr line (by simp)
    have hcut : (frameBelow o read).holds (trim line) = false := by
      have hline := hheld line (by simp)
      rwa [List.dropLast_concat, ← holds_trim] at hline
    have harranged : arrangeRuns o.sortAttributes [] (read ++ [line]) =
        arrangeRuns o.sortAttributes [] read ++ [trim line] := by
      rw [arrangeRuns_append_cons _ hlast, arrangeRuns_nil, arrangeAttributes_nil]
    rw [frameBelow, harranged, List.append_assoc, List.singleton_append]
    exact layOut_append_cons o hcut rest

/-- **A batch is written as a whole**, between what is written for the lines above it and for the
lines below. -/
theorem IsBatch.formatLines_eq (h : IsBatch o before batch after) (hne : batch ≠ []) :
    formatLines o (before ++ (batch ++ after)) =
      formatLines o before ++
        (alignBatch ((frameBelow o before).level * o.indentSize) o.alignFields
            (arrangeRuns o.sortAttributes [] batch) ++
          layOut o (frameBelow o before) (arrangeRuns o.sortAttributes [] after)) := by
  have hheld := holds_arrangeRuns h.holds o.sortAttributes
  have hend : ∀ l ∈ (arrangeRuns o.sortAttributes [] after).head?,
      (frameBelow o before).holds l = false := by
    intro l hl
    rw [head?_arrangeRuns _ (h.not_isAttribute_below hne)] at hl
    obtain ⟨line, hline, rfl⟩ := Option.mem_map.mp hl
    rw [holds_trim]
    exact h.not_holds_below hne line hline
  rw [formatLines_eq_layOut, h.arranged hne, h.layOut_above hne,
    layOut_append_of_holds o hheld hend]

/-! ## One column for a batch -/

/-- The longest name does not show in which order the attributes are. -/
theorem longestName_arrangeRuns (sort : Bool) (ls : List Text) :
    longestName (arrangeRuns sort [] ls) = longestName ls :=
  longestName_congr (map_arrangeRuns sort (fun _ h => splitField_of_isAttribute h) splitField_trim
    (List.forall_mem_nil fun l => isAttribute l = true) ls)

/-- The level is the same all along a batch. -/
theorem IsBatch.level_eq (h : IsBatch o before batch after) (i : Nat) :
    (initial.feedAll o (before ++ batch.take i)).level = (frameBelow o before).level := by
  rw [← level_frameBelow]
  by_cases hne : batch = []
  · rw [hne, List.take_nil, List.append_nil]
  · have hheld : ∀ l ∈ batch.take i, (frameBelow o before).holds l = true :=
      fun l hl => h.holds l (List.mem_of_mem_take hl)
    rw [frameBelow_append_of_holds (h.not_isAttribute_above hne) hheld]

/-- What is written for a field of a batch. -/
theorem IsBatch.getElem?_formatLines (h : IsBatch o before batch after)
    (halign : o.alignFields = true) {i : Nat} {line : Text} (hline : batch[i]? = some line)
    (hattr : isAttribute line = false) :
    (formatLines o (before ++ (batch ++ after)))[before.length + i]? =
      some (alignLine ((frameBelow o before).level * o.indentSize) (longestName batch)
        (trim line)) := by
  obtain ⟨hi, -⟩ := List.getElem?_eq_some_iff.mp hline
  have hne : batch ≠ [] := List.ne_nil_of_length_pos (by omega)
  have hat : (arrangeRuns o.sortAttributes [] batch)[i]? = some (trim line) :=
    (getElem?_arrangeRuns o.sortAttributes hline hattr).1
  have hlength : (formatLines o before).length ≤ before.length + i := by
    rw [length_formatLines]
    omega
  rw [h.formatLines_eq hne, List.getElem?_append_right hlength, length_formatLines,
    Nat.add_sub_cancel_left, List.getElem?_append_left (by simpa using hi), alignBatch, halign,
    if_pos rfl, List.getElem?_map, hat, longestName_arrangeRuns]
  rfl

end Batch

/-- **The colons of a batch stand in one column.**  All of the batch is read at one level, and
behind the indentation of that level the colons stand as far as the longest name of the batch
goes. -/
theorem colons_share_column (o : FormatOptions) {t : Text} {before batch after : List Text}
    (halign : o.alignFields = true) (hlines : Text.lines t = before ++ (batch ++ after))
    (hbatch : IsBatch o before batch after) :
    ∃ level longest,
      (∀ i ≤ batch.length, (initial.feedAll o (before ++ batch.take i)).level = level) ∧
      ∀ (i : Nat) (line name rest : Text), batch[i]? = some line →
        splitField line = some (name, rest) →
        IsGreatest (nameLengths batch) longest ∧
          ∃ out, (Text.lines (SchemaEditor.format o t))[before.length + i]? = some out ∧
            ColonAt (o.indentSize * level) (o.indentSize * level + longest) name out := by
  refine ⟨(frameBelow o before).level, longestName batch, fun i _ => hbatch.level_eq i, ?_⟩
  intro i line name rest hline hfield
  have hmem : line ∈ batch := List.mem_of_getElem? hline
  have hout := hbatch.getElem?_formatLines halign hline (not_isAttribute_of_splitField hfield)
  rw [← hlines, ← lines_format, Nat.mul_comm] at hout
  have htrimmed : splitField (trim line) = some (name, rest) := by rw [splitField_trim, hfield]
  exact ⟨isGreatest_longestName hmem hfield, _, hout,
    colonAt_alignLine htrimmed _ (length_le_longestName hmem hfield)⟩

/-- A longer name in the struct below does not move the colons, nor do attributes and blank lines
among the fields. -/
theorem colons_share_column_siblings :
    let before := [ofString "struct A \x7b"]
    let batch := [ofString "name: u8,", ofString "#[b]", ofString "#[a]", [], ofString "id :u8"]
    let after := [ofString "\x7d", ofString "struct B \x7b", ofString "longer: u8"]
    let t := unlines (before ++ (batch ++ after))
    FormatOptions.standard.alignFields = true ∧ Text.lines t = before ++ (batch ++ after) ∧
      IsBatch FormatOptions.standard before batch after ∧
      ∃ out, (Text.lines (SchemaEditor.format FormatOptions.standard t))[5]? = some out ∧
        ColonAt 4 8 (ofString "id") out := by
  intro before batch after t
  have hlines : Text.lines t = before ++ (batch ++ after) := by decide
  have hbatch : IsBatch FormatOptions.standard before batch after :=
    ⟨by decide, by decide, by decide⟩
  refine ⟨rfl, hlines, hbatch, ?_⟩
  obtain ⟨level, longest, hlevel, hcolon⟩ :=
    colons_share_column FormatOptions.standard rfl hlines hbatch
  have hline : batch[4]? = some (ofString "id :u8") := rfl
  have hfield : splitField (ofString "id :u8") = some (ofString "id", ofString "u8") := by
    decide
  obtain ⟨hgreatest, hout⟩ := hcolon 4 _ _ _ hline hfield
  have hone : level = 1 := by
    rw [← hlevel 0 (Nat.zero_le _)]
    decide
  have hfour : longest = 4 := by
    rw [hgreatest.unique (isGreatest_longestName (List.mem_of_getElem? hline) hfield)]
    decide
  subst hone hfour
  exact hout

end SchemaEditor.Format
