import SchemaEditor.Proofs.Format.Pass

/-!
# Sections

A text can be formatted section by section.  If a pass stands outside all blocks at the end of a
text, with no attributes waiting, then what follows is formatted as it would be by itself, and
the text as if nothing followed (`format_append`).

Two things could carry over from the one section to the other.  A run of attributes at the end
would go on behind the line feed; but then they would be waiting.  And of the frame that the pass
has come to the line written last is left, which a brace alone looks at, to see whether its block
is the body of a struct.  No other line does, and every line replaces it, so that only a
brace in the first line can tell the frame from that of a new pass (`layOut_of_not_isLoneOpen`).
-/

namespace SchemaEditor.Format
open Text Line

/-- The pass stands outside all blocks, and no attributes wait. -/
structure State.AtTop (s : State) : Prop where
  level : s.level = 0
  inStruct : s.inStruct = false
  attributes : s.attributes = []

variable (o : FormatOptions)

/-! ## Attributes at the end -/

/-- If no attributes wait, then the last line was none. -/
theorem not_isAttribute_getLast {ls : List Text}
    (h : (initial.feedAll o ls).attributes = []) :
    ∀ line ∈ ls.getLast?, isAttribute line = false := by
  intro line hline
  obtain ⟨read, rfl⟩ := List.getLast?_eq_some_iff.mp hline
  by_contra ha
  rw [Bool.not_eq_false] at ha
  rw [feedAll_concat_of_isAttribute o initial read ha] at h
  exact List.append_ne_nil_of_right_ne_nil _ (List.cons_ne_nil _ _) h

/-! ## Frames outside all blocks -/

/-- Outside a struct body a line that is no brace alone is written, and followed, as it is below
any other line. -/
theorem next_of_not_isLoneOpen {level : Nat} {line : Text} (h : isLoneOpen line = false)
    (above above' : Bool) :
    (⟨level, false, above⟩ : Frame).next line = (⟨level, false, above'⟩ : Frame).next line := by
  simp only [Frame.next, h, Bool.false_eq_true, if_false]

/-- **Which line was written above makes no difference** outside a struct body, unless the lines
begin with a brace alone. -/
theorem layOut_of_not_isLoneOpen {level : Nat} {ls : List Text}
    (h : ∀ line ∈ ls.head?, isLoneOpen line = false) (above above' : Bool) :
    layOut o ⟨level, false, above⟩ ls = layOut o ⟨level, false, above'⟩ ls := by
  cases ls with
  | nil => rw [layOut_nil, layOut_nil]
  | cons line rest =>
    have hline : isLoneOpen line = false := h line rfl
    have hwritten : (⟨level, false, above⟩ : Frame).write line o =
        (⟨level, false, above'⟩ : Frame).write line o := rfl
    rw [layOut_cons_of_not_holds o rfl, layOut_cons_of_not_holds o rfl, hwritten,
      next_of_not_isLoneOpen hline above above']

/-- Arranged lines begin with a brace alone only if the lines do. -/
theorem not_isLoneOpen_head_arrangeRuns (sort : Bool) {ls : List Text}
    (h : ∀ line ∈ ls.head?, isLoneOpen line = false) :
    ∀ line ∈ (arrangeRuns sort [] ls).head?, isLoneOpen line = false := by
  intro arranged harranged
  cases ls with
  | nil =>
    rw [arrangeRuns_nil, arrangeAttributes_nil] at harranged
    cases harranged
  | cons line rest =>
    cases ha : isAttribute line with
    | true =>
      -- an attribute comes first, if another one
      have hmap := congrArg List.head? (map_isAttribute_arrangeRuns sort
        (List.forall_mem_nil fun l => isAttribute l = true) (line :: rest))
      rw [List.head?_map, Option.mem_def.mp harranged, List.nil_append, List.map_cons,
        List.head?_cons, Option.map_some, ha, Option.some.injEq] at hmap
      exact (Frame.plain_of_isAttribute false hmap).2.2
    | false =>
      have hfirst : ∀ l ∈ (line :: rest).head?, isAttribute l = false := by
        rintro l ⟨⟩
        exact ha
      rw [head?_arrangeRuns sort hfirst] at harranged
      obtain ⟨first, hmem, rfl⟩ := Option.map_eq_some_iff.mp harranged
      rw [isLoneOpen_trim]
      exact h first hmem

/-! ## Two sections -/

theorem formatLines_append {ls ls' : List Text} (h : (initial.feedAll o ls).AtTop)
    (hopen : ∀ line ∈ ls'.head?, isLoneOpen line = false) :
    formatLines o (ls ++ ls') = formatLines o ls ++ formatLines o ls' := by
  have harranged : arrangeRuns o.sortAttributes [] (ls ++ ls') =
      arrangeRuns o.sortAttributes [] ls ++ arrangeRuns o.sortAttributes [] ls' :=
    arrangeRuns_append _ (not_isAttribute_getLast o h.attributes) ls'
  obtain ⟨above, hframe⟩ : ∃ above, frameBelow o ls = ⟨0, false, above⟩ := by
    refine ⟨(frameBelow o ls).afterStruct, ?_⟩
    rw [← h.level, ← h.inStruct, ← level_frameBelow, ← inStruct_frameBelow]
  have hcut : ∀ l ∈ (arrangeRuns o.sortAttributes [] ls').head?,
      (frameBelow o ls).holds l = false := by
    intro l _
    rw [hframe]
    rfl
  rw [formatLines_eq_layOut, formatLines_eq_layOut, formatLines_eq_layOut, harranged,
    layOut_append o hcut, ← frameBelow, hframe,
    layOut_of_not_isLoneOpen o (not_isLoneOpen_head_arrangeRuns _ hopen) above false]
  rfl

/-- **Sections are formatted by themselves**: if a pass over the first one ends outside all
blocks, with no attributes waiting, and the second one does not begin with a brace alone. -/
theorem format_append {a b : Text} (ha : (initial.feedAll o (Text.lines a)).AtTop)
    (hb : ∀ line ∈ (Text.lines b).head?, isLoneOpen line = false) :
    SchemaEditor.format o (a ++ .char '\n' :: b) =
      SchemaEditor.format o a ++ .char '\n' :: SchemaEditor.format o b := by
  have hne : formatLines o (Text.lines a) ≠ [] := formatLines_ne_nil o (lines_ne_nil a)
  have hne' : formatLines o (Text.lines b) ≠ [] := formatLines_ne_nil o (lines_ne_nil b)
  rw [SchemaEditor.format, lines_append_feed, formatLines_append o ha hb, unlines_append hne hne']
  rfl

/-- The first section ends with a line that mentions a struct, but the brace that follows in the
second one is not its own. -/
theorem format_append_attribute :
    let a := ofString "  struct A"
    let b := ofString "#[x]\n\x7b\nname:u8\n\x7d"
    (initial.feedAll FormatOptions.standard (Text.lines a)).AtTop ∧
      (∀ line ∈ (Text.lines b).head?, isLoneOpen line = false) ∧
      SchemaEditor.format FormatOptions.standard (a ++ .char '\n' :: b) =
        SchemaEditor.format FormatOptions.standard a ++
          .char '\n' :: SchemaEditor.format FormatOptions.standard b ∧
      SchemaEditor.format FormatOptions.standard (a ++ .char '\n' :: b) =
        ofString "struct A\n#[x]\n\x7b\n    name:u8\n\x7d" := by
  intro a b
  have ha : (initial.feedAll FormatOptions.standard (Text.lines a)).AtTop :=
    ⟨by decide, by decide, by decide⟩
  have hb : ∀ line ∈ (Text.lines b).head?, isLoneOpen line = false := by decide
  refine ⟨ha, hb, format_append _ ha hb, ?_⟩
  simp only [a, b]
  cbv

/-- A brace alone at the beginning of the second section would be. -/
example :
    SchemaEditor.format FormatOptions.standard (ofString "struct A\n\x7b\nname:u8") =
        ofString "struct A\n\x7b\n    name: u8" ∧
      SchemaEditor.format FormatOptions.standard (ofString "\x7b\nname:u8") =
        ofString "\x7b\n    name:u8" := by
  cbv

end SchemaEditor.Format
