import SchemaEditor.Proofs.Format.Pass

/-!
# Formatting absorbs earlier formatting

Formatting a formatted text gives what formatting the text itself gives
(`format_absorbs_format`), if both runs agree on sorting and the second one aligns
whenever the first one does.  The indentation of the first run does not matter.  In
particular a formatted text stays as it is.

The second run reads lines that the first one has rewritten.  Two lists of lines are
`Alike` if they differ only in fields of batches, and there only in how the same name
and rest are written.  The first run leaves lines alike those it has arranged
(`alike_layOut`); alike lines are laid out alike (`Alike.layOut_eq`), for they have the
same frames and the same columns; and lines alike arranged ones are arranged
(`Alike.arranged`).
-/

namespace SchemaEditor.Format
open Text Line

/-! ## Lines that are laid out alike -/

/-- The lines are the same but for fields of batches, which may be written in different
ways if `align` is on. -/
inductive Alike (align : Bool) : Frame → List Text → List Text → Prop
  | nil (f : Frame) : Alike align f [] []
  | same {f : Frame} {ls ls' : List Text} (line : Text) (h : Alike align (f.next line) ls ls') :
      Alike align f (line :: ls) (line :: ls')
  | field {f : Frame} {line line' : Text} {ls ls' : List Text} {p : Text × Text}
      (halign : align = true) (hheld : f.holds line = true) (hheld' : f.holds line' = true)
      (hsplit : splitField line = some p) (hsplit' : splitField line' = some p)
      (h : Alike align f ls ls') : Alike align f (line :: ls) (line' :: ls')

/-- A line of a batch in two ways of writing it. -/
def SameField (align : Bool) (line line' : Text) : Prop :=
  line = line' ∨ align = true ∧ ∃ p, splitField line = some p ∧ splitField line' = some p

theorem SameField.splitField_eq {align : Bool} {line line' : Text}
    (h : SameField align line line') : splitField line = splitField line' := by
  rcases h with rfl | ⟨-, p, hp, hp'⟩
  · rfl
  · rw [hp, hp']

theorem SameField.alignLine_eq {align : Bool} {line line' : Text}
    (h : SameField align line line') (width longest : Nat) :
    alignLine width longest line = alignLine width longest line' := by
  rcases h with rfl | ⟨-, p, hp, hp'⟩
  · rfl
  · rw [alignLine_of_splitField hp, alignLine_of_splitField hp']

/-- Batches that are the same up to the writing of their fields are written the same, if
alignment is on wherever it was. -/
theorem alignBatch_congr {align align' : Bool} (himp : align = true → align' = true) {width : Nat}
    {ls ls' : List Text} (h : List.Forall₂ (SameField align) ls ls') :
    alignBatch width align' ls = alignBatch width align' ls' := by
  cases align' with
  | false =>
    have heq : ls = ls' := by
      refine List.forall₂_eq_eq_eq ▸ h.imp fun line line' hs => ?_
      rcases hs with rfl | ⟨ha, -⟩
      · rfl
      · cases himp ha
    rw [heq]
  | true =>
    have hsplit : ls.map splitField = ls'.map splitField := by
      rw [← List.forall₂_eq_eq_eq, List.forall₂_map_left_iff, List.forall₂_map_right_iff]
      exact h.imp fun _ _ hs => hs.splitField_eq
    simp only [alignBatch, if_true, longestName_congr hsplit]
    rw [← List.forall₂_eq_eq_eq, List.forall₂_map_left_iff, List.forall₂_map_right_iff]
    exact h.imp fun _ _ hs => hs.alignLine_eq width _

section Alike
variable {align : Bool} {f : Frame} {ls ls' : List Text}

/-- Alike lines are of batches in the same places. -/
theorem Alike.split (h : Alike align f ls ls') :
    List.Forall₂ (SameField align) (ls.takeWhile f.holds) (ls'.takeWhile f.holds) ∧
      Alike align f (ls.dropWhile f.holds) (ls'.dropWhile f.holds) := by
  induction h with
  | nil f => exact ⟨List.Forall₂.nil, .nil f⟩
  | @same f ls ls' line h ih =>
    cases hh : f.holds line with
    | false => simpa [hh] using Alike.same line h
    | true =>
      rw [Frame.next_of_holds hh] at ih
      simp only [List.takeWhile_cons_of_pos hh, List.dropWhile_cons_of_pos hh]
      exact ⟨.cons (Or.inl rfl) ih.1, ih.2⟩
  | field ha hheld hheld' hsplit hsplit' _ ih =>
    simp only [List.takeWhile_cons_of_pos hheld, List.dropWhile_cons_of_pos hheld,
      List.takeWhile_cons_of_pos hheld', List.dropWhile_cons_of_pos hheld']
    exact ⟨.cons (Or.inr ⟨ha, _, hsplit, hsplit'⟩) ih.1, ih.2⟩

/-- **Alike lines are laid out the same.** -/
theorem Alike.layOut_eq {o : FormatOptions} (halign : align = true → o.alignFields = true)
    (h : Alike align f ls ls') : layOut o f ls = layOut o f ls' := by
  induction f, ls using layOut.induct generalizing ls' with
  | case1 f =>
    cases h
    rfl
  | case2 f line rest hheld ih =>
    -- the other list begins with a batch too, of as many lines
    obtain ⟨hbatch, hrest⟩ := h.split
    rw [List.takeWhile_cons_of_pos hheld] at hbatch
    rw [List.dropWhile_cons_of_pos hheld] at hrest
    obtain ⟨line', rest', rfl, hheld'⟩ : ∃ line' rest', ls' = line' :: rest' ∧
        f.holds line' = true := by
      cases h with
      | same _ _ => exact ⟨_, _, rfl, hheld⟩
      | field _ _ hheld' _ _ _ => exact ⟨_, _, rfl, hheld'⟩
    rw [List.takeWhile_cons_of_pos hheld'] at hbatch
    rw [List.dropWhile_cons_of_pos hheld'] at hrest
    rw [layOut, if_pos hheld, layOut, if_pos hheld', alignBatch_congr halign hbatch, ih hrest]
  | case3 f line rest hheld ih =>
    cases h with
    | same _ h =>
      rw [layOut_cons_of_not_holds o (by simpa using hheld), ih h,
        layOut_cons_of_not_holds o (by simpa using hheld)]
    | field _ hheld' _ _ _ _ => exact absurd hheld' hheld

/-- What stands in front of a line that is no attribute is the run that it ends. -/
theorem arranged_of_cons {sort : Bool} {run rest : List Text} {line : Text}
    (hline : isAttribute line = false)
    (h : arrangeRuns sort run (line :: rest) = run ++ line :: rest) :
    arrangeAttributes sort run = run ∧ arrangeRuns sort [] rest = rest := by
  rw [arrangeRuns_cons_of_not_isAttribute sort hline] at h
  obtain ⟨hrun, hrest⟩ := List.append_inj h (length_arrangeAttributes sort run)
  exact ⟨hrun, (List.cons.inj hrest).2⟩

/-- **Lines alike arranged ones are arranged**, for attributes are the same in both. -/
theorem Alike.arranged {sort : Bool} (h : Alike align f ls ls') {run : List Text}
    (harr : arrangeRuns sort run ls = run ++ ls) (htrim : ∀ l ∈ ls', trim l = l) :
    arrangeRuns sort run ls' = run ++ ls' := by
  induction h generalizing run with
  | nil f => exact harr
  | @same f ls ls' line h ih =>
    have hline := htrim line (List.mem_cons_self ..)
    have hrest := fun l hl => htrim l (List.mem_cons_of_mem _ hl)
    cases ha : isAttribute line with
    | true =>
      rw [arrangeRuns_cons_of_isAttribute sort ha, hline] at harr ⊢
      rw [List.append_cons run line ls']
      exact ih (harr.trans (List.append_cons run line ls)) hrest
    | false =>
      obtain ⟨hrun, hls⟩ := arranged_of_cons ha harr
      rw [arrangeRuns_cons_of_not_isAttribute sort ha, hrun, hline, ih hls hrest]
      rfl
  | field _ _ _ hsplit hsplit' _ ih =>
    -- a field is no attribute, however it is written
    obtain ⟨hrun, hls⟩ := arranged_of_cons (not_isAttribute_of_splitField hsplit) harr
    rw [arrangeRuns_cons_of_not_isAttribute sort (not_isAttribute_of_splitField hsplit'), hrun,
      htrim _ (List.mem_cons_self ..), ih hls
        (fun l hl => htrim l (List.mem_cons_of_mem _ hl))]
    rfl

/-! ## What formatting leaves -/

/-- A field of a batch is held and read again however it is written. -/
theorem holds_fieldText {line : Text} (h : f.holds line = true) {name rest : Text}
    (hsplit : splitField line = some (name, rest)) (gap : Nat) :
    f.holds (fieldText gap name rest) = true := by
  have hf := isField_of_splitField hsplit
  have hlab : Labels name (trim (fieldText gap name rest)) := by
    rw [trim_fieldText hf]
    exact labels_fieldText gap name rest
  have hkind := kind_of_labels hf.name_ne (trimEnd_of_trim hf.trim_name) hlab
    (labels_of_splitField hsplit) f.inStruct
  obtain ⟨hs, hc, hd, -⟩ := Frame.holds_iff.mp h
  rw [Frame.holds_iff, hkind]
  exact ⟨hs, hc, hd, not_isLoneOpen_of_labels hlab⟩

/-- Lines written in their frames are alike the lines they were written for. -/
theorem alike_of_written (o : FormatOptions) (htrim : ∀ l ∈ ls, trim l = l) {outs : List Text}
    (h : List.Forall₂ (fun seen out => Written o seen.1 seen.2 out) (f.trace ls) outs) :
    Alike o.alignFields f ls (outs.map trim) := by
  induction ls generalizing f outs with
  | nil =>
    cases h
    exact .nil f
  | cons line rest ih =>
    have hline := htrim line (List.mem_cons_self ..)
    rw [Frame.trace] at h
    cases h with
    | @cons _ out _ outs hw hrest =>
      have hnext := ih (fun l hl => htrim l (List.mem_cons_of_mem _ hl)) hrest
      rw [List.map_cons]
      cases hw with
      | blank hb =>
        rw [trim_nil, ← hb, hline]
        exact .same line hnext
      | plain hv hplain =>
        rw [FormatOptions.indent, trim_spaces_append, trim_trim, hline]
        exact .same line hnext
      | @field name body gap hheld ha hs =>
        -- the indentation is cut again, but the gap in front of the colon is not
        have hf := isField_of_splitField hs
        rw [FormatOptions.indent, trim_spaces_append, trim_fieldText hf]
        rw [Frame.next_of_holds hheld] at hnext
        exact .field ha hheld (holds_fieldText hheld hs gap) hs
          (splitField_fieldText hf gap (trim_fieldText hf gap)) hnext

theorem alike_layOut (o : FormatOptions) (htrim : ∀ l ∈ ls, trim l = l) :
    Alike o.alignFields f ls ((layOut o f ls).map trim) :=
  alike_of_written o htrim (forall₂_written o f ls)

end Alike

/-- Formatting lines that were formatted before. -/
theorem formatLines_formatLines {o₁ o₂ : FormatOptions}
    (hsort : o₁.sortAttributes = o₂.sortAttributes)
    (halign : o₁.alignFields = true → o₂.alignFields = true) (ls : List Text) :
    formatLines o₂ (formatLines o₁ ls) = formatLines o₂ ls := by
  obtain ⟨arranged, harr⟩ : ∃ arranged, arranged = arrangeRuns o₂.sortAttributes [] ls := ⟨_, rfl⟩
  have hone : arrangeRuns o₂.sortAttributes [] arranged = arranged := by
    rw [harr]
    exact arrangeRuns_arrangeRuns _ (fun l hl => absurd hl List.not_mem_nil) ls
  have halike : Alike o₁.alignFields Frame.start arranged
      ((layOut o₁ Frame.start arranged).map trim) :=
    alike_layOut o₁ fun l hl => (mem_arrangeRuns _ (harr ▸ hl)).1
  have htrim : ∀ l ∈ (layOut o₁ Frame.start arranged).map trim, trim l = l := by
    intro l hl
    obtain ⟨k, -, rfl⟩ := List.mem_map.mp hl
    exact trim_trim k
  calc formatLines o₂ (formatLines o₁ ls)
      = layOut o₂ Frame.start (arrangeRuns o₂.sortAttributes []
          ((layOut o₁ Frame.start arranged).map trim)) := by
        rw [formatLines_eq_layOut o₂, formatLines_eq_layOut o₁, hsort, ← harr,
          arrangeRuns_map_trim]
    _ = layOut o₂ Frame.start ((layOut o₁ Frame.start arranged).map trim) := by
        rw [halike.arranged hone htrim, List.nil_append]
    _ = layOut o₂ Frame.start arranged := (halike.layOut_eq halign).symm
    _ = formatLines o₂ ls := by rw [formatLines_eq_layOut, harr]

/-- **Formatting absorbs earlier formatting**: for any text whatever, a run that sorts as
the run before it did, and aligns if that run did, gives what it would have given
without it. -/
theorem format_absorbs_format (o₁ o₂ : FormatOptions) (t : Text)
    (hsort : o₁.sortAttributes = o₂.sortAttributes)
    (halign : o₁.alignFields = true → o₂.alignFields = true) :
    SchemaEditor.format o₂ (SchemaEditor.format o₁ t) = SchemaEditor.format o₂ t := by
  rw [SchemaEditor.format, lines_format, formatLines_formatLines hsort halign]
  rfl

/-- A struct that was indented by two columns is indented by four. -/
theorem format_absorbs_format_struct :
    FormatOptions.sortAttributes { indentSize := 2, sortAttributes := false } =
        FormatOptions.sortAttributes { sortAttributes := false } ∧
      SchemaEditor.format { indentSize := 2, sortAttributes := false }
          (ofString "struct A \x7b\na:: u8\n longer : u8\n\x7d") =
        ofString "struct A \x7b\n  a     : u8\n  longer: u8\n\x7d" ∧
      SchemaEditor.format { sortAttributes := false }
          (SchemaEditor.format { indentSize := 2, sortAttributes := false }
            (ofString "struct A \x7b\na:: u8\n longer : u8\n\x7d")) =
        SchemaEditor.format { sortAttributes := false }
          (ofString "struct A \x7b\na:: u8\n longer : u8\n\x7d") :=
  ⟨rfl, by decide, format_absorbs_format _ _ _ rfl (fun _ => rfl)⟩

end SchemaEditor.Format
