import SchemaEditor.Proofs.Format.Pass

/-!
# Formatting loses, adds and moves nothing

Every line of a text has its place in the formatted text, and the formatted text has no
other lines (`format_keeps`).  What stands at the place of a line is settled by the line
(`Keeps`): a blank line is empty, a run of attributes holds the same attributes in order,
and any other line has the same trimmed text, or the same name and rest if it is a field
of a struct body and fields are aligned.

The proof reads the layout at one place.  The lines above a line that is no attribute
are arranged among themselves (`getElem?_arrangeRuns`), so the line is laid out in the
frame that the pass is in when it reads the line.
-/

namespace SchemaEditor.Format
open Text Line

/-- The pass is in a struct body when it reads line `i`. -/
def inBody (o : FormatOptions) (ls : List Text) (i : Nat) : Bool :=
  (initial.feedAll o (ls.take i)).inStruct

/-- Line `i` is taken for a field: fields are aligned, and it is a line of a struct body
that opens and closes nothing and divides into a name and a rest. -/
def TakenForField (o : FormatOptions) (ls : List Text) (i : Nat) (line : Text) : Prop :=
  o.alignFields = true ∧ inBody o ls i = true ∧ kind (inBody o ls i) line ≠ .declaration ∧
    kind (inBody o ls i) line ≠ .close ∧ isLoneOpen line = false ∧ splitField line ≠ none

/-- The trimmed texts of `k` lines, from line `n` on. -/
def trimmedPart (n k : Nat) (ls : List Text) : List Text := ((ls.drop n).take k).map trim

/-- The output has the lines of the input, each in its place. -/
structure Keeps (o : FormatOptions) (input output : List Text) : Prop where
  /-- There are as many lines. -/
  length : output.length = input.length
  /-- Blank lines stand where blank lines stood, and they are empty. -/
  blank : ∀ (i : Nat) (line out : Text), input[i]? = some line → output[i]? = some out →
    (trim out = [] ↔ trim line = []) ∧ (trim line = [] → out = [])
  /-- A maximal run of attributes holds the same attributes, in the order of their code
  points if they are sorted and else in the order they had. -/
  run : ∀ before attributes rest : List Text, input = before ++ (attributes ++ rest) →
    (∀ l ∈ attributes, isAttribute l = true) →
    (∀ l ∈ before.getLast?, isAttribute l = false) → (∀ l ∈ rest.head?, isAttribute l = false) →
    (o.sortAttributes = true →
      (trimmedPart before.length attributes.length output).Perm (attributes.map trim) ∧
        (trimmedPart before.length attributes.length output).Pairwise fun s t => le s t = true) ∧
      (o.sortAttributes = false →
        trimmedPart before.length attributes.length output = attributes.map trim)
  /-- A field of a struct body keeps its name and its rest if fields are aligned. -/
  field : ∀ (i : Nat) (line out : Text), input[i]? = some line → output[i]? = some out →
    isAttribute line = false → TakenForField o input i line → splitField out = splitField line
  /-- Every other line keeps its trimmed text. -/
  line : ∀ (i : Nat) (line out : Text), input[i]? = some line → output[i]? = some out →
    isAttribute line = false → ¬ TakenForField o input i line → trim out = trim line

/-! ## What is written for a line -/

section Written
variable {o : FormatOptions} {f : Frame} {line out : Text}

theorem Written.trim_eq_nil_iff (h : Written o f line out) : trim out = [] ↔ trim line = [] := by
  cases h with
  | blank hb => simp [hb]
  | plain hv _ => rw [FormatOptions.indent, trim_spaces_append, trim_trim]
  | field gap _ _ hs =>
    have hf := isField_of_splitField hs
    rw [FormatOptions.indent, trim_spaces_append, trim_fieldText hf]
    have hline : trim line ≠ [] := fun hb => by
      rw [splitField_eq_none_of_blank hb] at hs
      cases hs
    simp [fieldText, hline]

theorem Written.eq_nil (h : Written o f line out) (hb : trim line = []) : out = [] := by
  cases h with
  | blank _ => rfl
  | plain hv _ => exact absurd hb hv
  | field gap _ _ hs =>
    rw [splitField_eq_none_of_blank hb] at hs
    cases hs

/-- A line that is no field of an aligned batch keeps its trimmed text. -/
theorem Written.trim_eq (h : Written o f line out)
    (hplain : ¬ (f.holds line = true ∧ o.alignFields = true ∧ splitField line ≠ none)) :
    trim out = trim line := by
  cases h with
  | blank hb => rw [hb, trim_nil]
  | plain hv _ => rw [FormatOptions.indent, trim_spaces_append, trim_trim]
  | field gap hheld ha hs => exact absurd ⟨hheld, ha, by simp [hs]⟩ hplain

/-- A field of an aligned batch keeps its name and its rest. -/
theorem Written.splitField_eq (h : Written o f line out) (hheld : f.holds line = true)
    (halign : o.alignFields = true) (hs : splitField line ≠ none) :
    splitField out = splitField line := by
  cases h with
  | blank hb => exact absurd (splitField_eq_none_of_blank hb) hs
  | plain _ hplain => exact absurd (hplain hheld halign) hs
  | field gap _ _ hfield =>
    have hf := isField_of_splitField hfield
    rw [hfield]
    refine splitField_fieldText hf gap ?_
    rw [FormatOptions.indent, trim_spaces_append, trim_fieldText hf]

theorem Written.trim_eq_of_isAttribute (h : Written o f line out) (ha : isAttribute line = true) :
    trim out = trim line := by
  refine h.trim_eq fun ⟨_, _, hs⟩ => ?_
  obtain ⟨p, hp⟩ := Option.ne_none_iff_exists'.mp hs
  rw [not_isAttribute_of_splitField hp] at ha
  cases ha

end Written

/-! ## One place of the layout -/

variable (o : FormatOptions)

/-- **A line that is no attribute is written in the frame in which it is read.** -/
theorem written_formatLines {ls : List Text} {i : Nat} {line out : Text}
    (hl : ls[i]? = some line) (hout : (formatLines o ls)[i]? = some out)
    (ha : isAttribute line = false) :
    ∃ f : Frame, f.inStruct = inBody o ls i ∧ Written o f (trim line) out := by
  obtain ⟨hget, htake⟩ := getElem?_arrangeRuns o.sortAttributes hl ha
  rw [formatLines_eq_layOut] at hout
  have hw := written_of_getElem? o hget hout
  rw [htake] at hw
  exact ⟨_, inStruct_frameBelow o (ls.take i), hw⟩

/-- The arranged line of a place is blank if the line of the place is. -/
theorem trim_arranged_eq_nil_iff {sort : Bool} {ls : List Text} {i : Nat} {line arranged : Text}
    (hl : ls[i]? = some line) (harr : (arrangeRuns sort [] ls)[i]? = some arranged) :
    trim arranged = [] ↔ trim line = [] := by
  cases ha : isAttribute line with
  | true =>
    -- which attribute stands there may have changed, but an attribute does
    have hmap := congrArg (·[i]?) (map_isAttribute_arrangeRuns sort
      (List.forall_mem_nil fun l => isAttribute l = true) ls)
    simp only [List.getElem?_map, harr, List.nil_append, hl, Option.map_some, ha,
      Option.some.injEq] at hmap
    simp [trim_ne_nil_of_isAttribute ha, trim_ne_nil_of_isAttribute hmap]
  | false =>
    rw [(getElem?_arrangeRuns _ hl ha).1] at harr
    rw [← Option.some.inj harr, trim_trim]

/-! ## The whole text -/

theorem blank_formatLines {ls : List Text} {i : Nat} {line out : Text} (hl : ls[i]? = some line)
    (hout : (formatLines o ls)[i]? = some out) :
    (trim out = [] ↔ trim line = []) ∧ (trim line = [] → out = []) := by
  obtain ⟨arranged, f, harr, hw⟩ := written_arranged o hout
  have hblank := trim_arranged_eq_nil_iff hl harr
  exact ⟨hw.trim_eq_nil_iff.trans hblank, fun hb => hw.eq_nil (hblank.mpr hb)⟩

/-- The attributes of a maximal run are written in order, where the run stood. -/
theorem run_formatLines {before attributes rest : List Text}
    (hattr : ∀ l ∈ attributes, isAttribute l = true)
    (hbefore : ∀ l ∈ before.getLast?, isAttribute l = false)
    (hrest : ∀ l ∈ rest.head?, isAttribute l = false) :
    trimmedPart before.length attributes.length
        (formatLines o (before ++ (attributes ++ rest))) =
      arrangeAttributes o.sortAttributes attributes := by
  unfold trimmedPart
  have harr := arrangeRuns_run o.sortAttributes hattr hbefore hrest
  -- place by place: each holds what is written for an attribute of the arranged run
  refine List.ext_getElem? fun j => ?_
  by_cases hj : j < attributes.length
  · have hlen := length_formatLines o (before ++ (attributes ++ rest))
    have hi : before.length + j < (formatLines o (before ++ (attributes ++ rest))).length := by
      simp only [hlen, List.length_append]
      omega
    obtain ⟨arranged, f, hget, hw⟩ := written_arranged o (List.getElem?_eq_getElem hi)
    have hb : (arrangeRuns o.sortAttributes [] before).length = before.length := by
      rw [length_arrangeRuns, List.length_nil, Nat.zero_add]
    rw [harr, List.getElem?_append_right (by omega), hb, Nat.add_sub_cancel_left,
      List.getElem?_append_left (by rwa [length_arrangeAttributes])] at hget
    have hmem := List.mem_of_getElem? hget
    have htrim := hw.trim_eq_of_isAttribute (isAttribute_of_mem_arrangeAttributes _ hattr _ hmem)
    rw [(mem_arrangeAttributes hmem).1] at htrim
    rw [List.getElem?_map, List.getElem?_take_of_lt hj, List.getElem?_drop,
      List.getElem?_eq_getElem hi, Option.map_some, htrim, hget]
  · rw [List.getElem?_eq_none (by simp only [List.length_map, List.length_take]; omega),
      List.getElem?_eq_none (by rw [length_arrangeAttributes]; omega)]

/-- The line is taken for a field exactly if it is a field of an aligned batch. -/
theorem takenForField_iff {ls : List Text} {i : Nat} {line : Text} {f : Frame}
    (hf : f.inStruct = inBody o ls i) :
    TakenForField o ls i line ↔
      f.holds (trim line) = true ∧ o.alignFields = true ∧ splitField (trim line) ≠ none := by
  rw [TakenForField, Frame.holds_iff, kind_trim, isLoneOpen_trim, splitField_trim, hf]
  tauto

/-- **Formatting loses, adds and moves nothing.** -/
theorem format_keeps (t : Text) :
    Keeps o (Text.lines t) (Text.lines (SchemaEditor.format o t)) := by
  rw [lines_format]
  refine ⟨length_formatLines o _, fun i line out hl hout => blank_formatLines o hl hout,
    fun before attributes rest hinput hattr hbefore hrest => ?_,
    fun i line out hl hout ha hfield => ?_, fun i line out hl hout ha hplain => ?_⟩
  · rw [hinput, run_formatLines o hattr hbefore hrest]
    refine ⟨fun hs => ?_, fun hs => ?_⟩
    · rw [hs]
      exact ⟨perm_arrangeAttributes true attributes, pairwise_arrangeAttributes attributes⟩
    · rw [hs]
      exact if_neg (by decide)
  · obtain ⟨f, hf, hw⟩ := written_formatLines o hl hout ha
    obtain ⟨hheld, halign, hs⟩ := (takenForField_iff o hf).mp hfield
    rw [hw.splitField_eq hheld halign hs, splitField_trim]
  · obtain ⟨f, hf, hw⟩ := written_formatLines o hl hout ha
    rw [hw.trim_eq fun h => hplain ((takenForField_iff o hf).mpr h), trim_trim]

end SchemaEditor.Format
