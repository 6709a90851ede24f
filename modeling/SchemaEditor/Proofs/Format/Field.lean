import SchemaEditor.Format.Batch
import SchemaEditor.Proofs.Line

/-!
# Fields written and read again

`splitField` takes a line apart into a name and a rest, and `alignLine` writes such
a pair again, with padding in front of the colon and one blank behind it.  What
`splitField` gives out is in a settled form (`IsField`): the name is trimmed and has
no colon, and the rest has neither blanks at its ends nor a stray colon in front.
A settled pair is read back from every way of writing it (`splitField_fieldText`).
Hence writing a line of a batch changes neither its fields nor its kind, whatever
the indentation and the column of the colons are (`splitField_alignLine`,
`kind_alignLine`).

Where a line is divided can also be said without taking it apart (`Divides`): the name
and the rest stand at the two ends of the trimmed line, and between them blanks, the
first colon, and more blanks and colons as long as they are stray (`Stray`).  That fixes
both of them (`splitField_eq_some_iff`).  So reading undoes writing, whatever the
indentation and the padding are (`splitField_undoes_fieldLine`).
-/

namespace SchemaEditor.Format
open Text Line

/-! ## Stray colons -/

theorem dropStrayColons_nil : dropStrayColons [] = [] := rfl

theorem dropStrayColons_cons (c : CodePoint) (rest : Text) :
    dropStrayColons (c :: rest) =
      if isBlank c then dropStrayColons rest
      else if c = .char ':' ∧ rest.head? ≠ some (.char ':') then dropStrayColons rest
      else c :: rest := rfl

theorem dropStrayColons_cons_of_blank {c : CodePoint} (h : isBlank c = true) (rest : Text) :
    dropStrayColons (c :: rest) = dropStrayColons rest := by
  rw [dropStrayColons_cons, if_pos h]

theorem dropStrayColons_cons_colon {rest : Text} (h : rest.head? ≠ some (.char ':')) :
    dropStrayColons (.char ':' :: rest) = dropStrayColons rest := by
  rw [dropStrayColons_cons, if_neg (by decide), if_pos ⟨rfl, h⟩]

theorem dropStrayColons_cons_of_visible {c : CodePoint} (hv : isBlank c = false) {rest : Text}
    (hpath : c = .char ':' → rest.head? = some (.char ':')) :
    dropStrayColons (c :: rest) = c :: rest := by
  rw [dropStrayColons_cons, if_neg (by rw [hv]; exact Bool.false_ne_true)]
  exact if_neg fun hstray => hstray.2 (hpath hstray.1)

/-- What is dropped in front of a rest: every character is a blank, or a colon that no second
one follows. -/
def Stray (stray rest : Text) : Prop :=
  ∀ before c after, stray = before ++ c :: after →
    isBlank c = true ∨ c = .char ':' ∧ (after ++ rest).head? ≠ some (.char ':')

theorem stray_nil (rest : Text) : Stray [] rest := by
  intro before c after h
  simp at h

theorem stray_cons_iff {c : CodePoint} {stray rest : Text} :
    Stray (c :: stray) rest ↔
      (isBlank c = true ∨ c = .char ':' ∧ (stray ++ rest).head? ≠ some (.char ':')) ∧
        Stray stray rest := by
  constructor
  · intro h
    refine ⟨h [] c stray rfl, fun before d after hstray => ?_⟩
    exact h (c :: before) d after (by rw [hstray, List.cons_append])
  · rintro ⟨hc, h⟩ before d after hstray
    cases before with
    | nil =>
      obtain ⟨rfl, rfl⟩ := List.cons.inj hstray
      exact hc
    | cons e before => exact h before d after (List.cons.inj hstray).2

theorem dropStrayColons_append {stray rest : Text} (h : Stray stray rest) :
    dropStrayColons (stray ++ rest) = dropStrayColons rest := by
  induction stray with
  | nil => rfl
  | cons c stray ih =>
    obtain ⟨hc, hstray⟩ := stray_cons_iff.mp h
    rw [List.cons_append]
    rcases hc with hb | ⟨rfl, hhead⟩
    · rw [dropStrayColons_cons_of_blank hb, ih hstray]
    · rw [dropStrayColons_cons_colon hhead, ih hstray]

theorem exists_stray (t : Text) :
    ∃ stray, t = stray ++ dropStrayColons t ∧ Stray stray (dropStrayColons t) := by
  induction t with
  | nil => exact ⟨[], rfl, stray_nil _⟩
  | cons c rest ih =>
    obtain ⟨stray, hrest, hstray⟩ := ih
    by_cases hb : isBlank c = true
    · rw [dropStrayColons_cons_of_blank hb]
      exact ⟨c :: stray, congrArg (c :: ·) hrest, stray_cons_iff.mpr ⟨Or.inl hb, hstray⟩⟩
    by_cases hc : c = .char ':' ∧ rest.head? ≠ some (.char ':')
    · obtain ⟨rfl, hhead⟩ := hc
      rw [dropStrayColons_cons_colon hhead]
      refine ⟨.char ':' :: stray, congrArg (_ :: ·) hrest, stray_cons_iff.mpr ⟨Or.inr ?_, hstray⟩⟩
      rw [← hrest]
      exact ⟨rfl, hhead⟩
    · rw [dropStrayColons_cons_of_visible (by simpa using hb) (by simpa using hc)]
      exact ⟨[], rfl, stray_nil _⟩

theorem dropStrayColons_suffix (t : Text) : dropStrayColons t <:+ t := by
  obtain ⟨stray, ht, -⟩ := exists_stray t
  exact ⟨stray, ht.symm⟩

/-- Nothing is dropped from a text exactly if it begins neither with a blank nor with a
colon alone. -/
theorem dropStrayColons_eq_self_iff {t : Text} :
    dropStrayColons t = t ↔
      (∀ c ∈ t.head?, isBlank c = false) ∧
        (t.head? = some (.char ':') → [.char ':', .char ':'] <+: t) := by
  cases t with
  | nil => simp [dropStrayColons_nil]
  | cons c rest =>
    have hshort : dropStrayColons rest ≠ c :: rest := by
      intro he
      have hle := (dropStrayColons_suffix rest).length_le
      rw [he, List.length_cons] at hle
      omega
    by_cases hb : isBlank c = true
    · rw [dropStrayColons_cons_of_blank hb]
      simp [hb, hshort]
    have hv : isBlank c = false := by simpa using hb
    by_cases hc : c = .char ':' ∧ rest.head? ≠ some (.char ':')
    · obtain ⟨rfl, hhead⟩ := hc
      have halone : ¬ [CodePoint.char ':', .char ':'] <+: .char ':' :: rest := by
        rintro ⟨back, hback⟩
        rw [← (List.cons.inj hback).2] at hhead
        exact hhead rfl
      rw [dropStrayColons_cons_colon hhead]
      simp [hshort, halone]
    · have hpath : c = .char ':' → rest.head? = some (.char ':') := by simpa using hc
      rw [dropStrayColons_cons_of_visible hv hpath]
      refine iff_of_true rfl ⟨by simpa using hv, fun hcolon => ?_⟩
      obtain rfl : c = .char ':' := by simpa using hcolon
      obtain ⟨back, rfl⟩ := List.head?_eq_some_iff.mp (hpath rfl)
      exact ⟨back, rfl⟩

/-- Once dropped, no stray colon is left in front. -/
theorem dropStrayColons_dropStrayColons (t : Text) :
    dropStrayColons (dropStrayColons t) = dropStrayColons t := by
  obtain ⟨stray, ht, hstray⟩ := exists_stray t
  calc dropStrayColons (dropStrayColons t) = dropStrayColons (stray ++ dropStrayColons t) :=
        (dropStrayColons_append hstray).symm
    _ = dropStrayColons t := by rw [← ht]

/-! ## The settled form -/

/-- A name and a rest as a field line is divided into them. -/
structure IsField (name rest : Text) : Prop where
  name_ne : name ≠ []
  trim_name : trim name = name
  colon_not_mem : .char ':' ∉ name
  not_attribute : attributeMarker.isPrefixOf name = false
  trimEnd_rest : trimEnd rest = rest
  settled : dropStrayColons rest = rest

theorem splitField_trim (line : Text) : splitField (trim line) = splitField line := by
  simp only [splitField, trim_trim]

/-- A line that divides into a name and a rest is not marked as an attribute, and its
trimmed text is a part in front of the first colon and a part behind it. -/
theorem exists_of_splitField {line name rest : Text} (h : splitField line = some (name, rest)) :
    ∃ front back, trim line = front ++ .char ':' :: back ∧ .char ':' ∉ front ∧ front ≠ [] ∧
      attributeMarker.isPrefixOf (trim line) = false ∧ name = trimEnd front ∧
      rest = dropStrayColons back := by
  unfold splitField at h
  split_ifs at h with hm
  have hsplit : (trim line).takeWhile (· ≠ .char ':') ++ (trim line).dropWhile (· ≠ .char ':') =
      trim line := List.takeWhile_append_dropWhile
  generalize hf : (trim line).takeWhile (· ≠ .char ':') = front at h hsplit
  generalize hb : (trim line).dropWhile (· ≠ .char ':') = behind at h hsplit
  cases behind with
  | nil => cases h
  | cons c back =>
    have hc : c = .char ':' := by
      have hhead := List.head?_dropWhile_not (· ≠ .char ':') (trim line)
      rw [hb] at hhead
      simpa using hhead
    have hfront : .char ':' ∉ front := by
      intro hmem
      have hp := List.mem_takeWhile_imp (hf ▸ hmem)
      simp at hp
    dsimp only at h
    split_ifs at h with hne
    obtain ⟨rfl, rfl⟩ := Prod.mk.inj (Option.some.inj h)
    exact ⟨front, back, by rw [← hsplit, hc], hfront, hne, Bool.eq_false_iff.mpr hm,
      rfl, rfl⟩

/-- The name and the rest are parts of the line. -/
theorem mem_of_splitField {line name rest : Text} (h : splitField line = some (name, rest))
    {c : CodePoint} (hc : c ∈ name ∨ c ∈ rest) : c ∈ line := by
  obtain ⟨front, back, hline, -, -, -, rfl, rfl⟩ := exists_of_splitField h
  refine mem_of_mem_trim ?_
  rw [hline]
  rcases hc with hc | hc
  · exact List.mem_append_left _ ((isPrefix_trimEnd front).subset hc)
  · exact List.mem_append_right _
      (List.mem_cons_of_mem _ ((dropStrayColons_suffix back).subset hc))

theorem not_isAttribute_of_splitField {line : Text} {p : Text × Text}
    (h : splitField line = some p) : isAttribute line = false := by
  obtain ⟨_, _, -, -, -, hattr, -, -⟩ := exists_of_splitField h
  exact hattr

theorem splitField_of_isAttribute {line : Text} (h : isAttribute line = true) :
    splitField line = none := by
  cases hsplit : splitField line with
  | none => rfl
  | some field =>
    rw [not_isAttribute_of_splitField hsplit] at h
    cases h

/-- The text in front of the colon starts with a visible character, so its blanks at
the end are all that its trimming cuts. -/
theorem trim_front {line front back : Text} (h : trim line = front ++ .char ':' :: back)
    (hne : front ≠ []) : trimEnd front ≠ [] ∧ trim (trimEnd front) = trimEnd front := by
  obtain ⟨c, more, rfl⟩ := List.exists_cons_of_ne_nil hne
  have hvis : isBlank c = false := by
    refine visible_head_of_trim (t := more ++ .char ':' :: back) ?_
    rw [← List.cons_append, ← h, trim_trim]
  rw [trimEnd_cons_of_visible hvis]
  refine ⟨by simp, ?_⟩
  rw [trim_cons_of_visible hvis, trimEnd_trimEnd]

/-- **The line of a field starts with its name, blanks and a colon.** -/
theorem labels_of_splitField {line name rest : Text} (h : splitField line = some (name, rest)) :
    Labels name (trim line) := by
  obtain ⟨front, back, hline, -, -, -, rfl, -⟩ := exists_of_splitField h
  obtain ⟨gap, hfront, hgap⟩ := exists_trimEnd_append front
  refine ⟨gap, back, ?_, hgap⟩
  rw [hline, ← List.append_assoc, ← hfront]

/-- **What `splitField` gives out is settled.** -/
theorem isField_of_splitField {line name rest : Text} (h : splitField line = some (name, rest)) :
    IsField name rest := by
  have hlab := labels_of_splitField h
  obtain ⟨front, back, hline, hcolon, hne, hattr, rfl, rfl⟩ := exists_of_splitField h
  obtain ⟨hname, htrim⟩ := trim_front hline hne
  refine ⟨hname, htrim, fun hmem => hcolon ((isPrefix_trimEnd front).subset hmem), ?_, ?_,
    dropStrayColons_dropStrayColons back⟩
  · rw [← attributeMarker_of_labels hlab hname, hattr]
  · refine trimEnd_of_suffix (trimEnd_of_trim (trim_trim line)) ?_
    rw [hline]
    exact (dropStrayColons_suffix back).trans
      ((List.suffix_cons _ back).trans (List.suffix_append front _))

/-- What settled means: no blanks stand around the rest, and if it begins with a colon, then
with two of them. -/
theorem IsField.trim_rest {name rest : Text} (h : IsField name rest) : trim rest = rest :=
  trim_eq_self_iff.mpr ⟨(dropStrayColons_eq_self_iff.mp h.settled).1, h.trimEnd_rest⟩

theorem IsField.path {name rest : Text} (h : IsField name rest) :
    rest.head? = some (.char ':') → [.char ':', .char ':'] <+: rest :=
  (dropStrayColons_eq_self_iff.mp h.settled).2

/-! ## The two parts of a line -/

/-- A line divides into a name and a rest. -/
structure Divides (line name rest : Text) : Prop where
  /-- There is a name. -/
  name_ne : name ≠ []
  /-- No blanks stand around it. -/
  trim_name : trim name = name
  /-- No colon is in it. -/
  colon_not_mem : .char ':' ∉ name
  /-- No blanks stand around the rest. -/
  trim_rest : trim rest = rest
  /-- If the rest begins with a colon, then with two of them. -/
  path : rest.head? = some (.char ':') → [.char ':', .char ':'] <+: rest
  /-- The trimmed line begins with the name and ends with the rest; between them stand blanks,
  the colon that divides them, and what is dropped in front of the rest. -/
  between : ∃ gap stray, trim line = name ++ (gap ++ .char ':' :: (stray ++ rest)) ∧
    (∀ c ∈ gap, isBlank c = true) ∧ Stray stray rest

theorem divides_of_splitField {line name rest : Text} (h : splitField line = some (name, rest)) :
    Divides line name rest := by
  have hf := isField_of_splitField h
  refine ⟨hf.name_ne, hf.trim_name, hf.colon_not_mem, hf.trim_rest, hf.path, ?_⟩
  obtain ⟨front, back, hline, -, -, -, rfl, rfl⟩ := exists_of_splitField h
  obtain ⟨gap, hfront, hgap⟩ := exists_trimEnd_append front
  obtain ⟨stray, hback, hstray⟩ := exists_stray back
  refine ⟨gap, stray, ?_, hgap, hstray⟩
  rw [← hback, ← List.append_assoc, ← hfront, hline]

/-- A line that divides is taken apart there and nowhere else, unless it is an attribute. -/
theorem splitField_of_divides {line name rest : Text} (hattr : isAttribute line = false)
    (h : Divides line name rest) : splitField line = some (name, rest) := by
  obtain ⟨gap, stray, hline, hgap, hstray⟩ := h.between
  have hfront : ∀ c ∈ name ++ gap, (decide (c ≠ .char ':')) = true := by
    intro c hc
    refine decide_eq_true ?_
    rintro rfl
    rcases List.mem_append.mp hc with hc | hc
    · exact h.colon_not_mem hc
    · exact absurd (hgap _ hc) (by decide)
  have hname : trimEnd (name ++ gap) = name := by
    rw [trimEnd_append_of_blank _ hgap, trimEnd_of_trim h.trim_name]
  have hrest : dropStrayColons (stray ++ rest) = rest := by
    rw [dropStrayColons_append hstray, dropStrayColons_eq_self_iff]
    exact ⟨(trim_eq_self_iff.mp h.trim_rest).1, h.path⟩
  rw [isAttribute, hline] at hattr
  unfold splitField
  rw [hline, hattr, ← List.append_assoc, List.takeWhile_append_of_pos hfront,
    List.dropWhile_append_of_pos hfront]
  simp [h.name_ne, hname, hrest]

/-- **What `splitField` gives out are the two parts of the line**, and it gives them out if the
line has them. -/
theorem splitField_eq_some_iff {line name rest : Text} :
    splitField line = some (name, rest) ↔ isAttribute line = false ∧ Divides line name rest :=
  ⟨fun h => ⟨not_isAttribute_of_splitField h, divides_of_splitField h⟩,
    fun h => splitField_of_divides h.1 h.2⟩

/-! ## Writing a field -/

/-- A field with `gap` blanks in front of its colon, and one behind it unless nothing
follows. -/
def fieldText (gap : Nat) (name rest : Text) : Text :=
  name ++ (spaces gap ++ .char ':' :: (if rest = [] then [] else .char ' ' :: rest))

theorem mem_fieldText {gap : Nat} {name rest : Text} {c : CodePoint}
    (hc : c ∈ fieldText gap name rest) :
    (c ∈ name ∨ c ∈ rest) ∨ c = .char ' ' ∨ c = .char ':' := by
  unfold fieldText at hc
  simp only [List.mem_append, List.mem_cons] at hc
  rcases hc with hc | hc | hc | hc
  · exact Or.inl (Or.inl hc)
  · exact Or.inr (Or.inl (List.eq_of_mem_replicate hc))
  · exact Or.inr (Or.inr hc)
  · split_ifs at hc
    · cases hc
    · rcases List.mem_cons.mp hc with hc | hc
      · exact Or.inr (Or.inl hc)
      · exact Or.inl (Or.inr hc)

theorem labels_fieldText (gap : Nat) (name rest : Text) : Labels name (fieldText gap name rest) :=
  ⟨spaces gap, _, rfl, forall_mem_spaces gap⟩

theorem trim_fieldText {name rest : Text} (h : IsField name rest) (gap : Nat) :
    trim (fieldText gap name rest) = fieldText gap name rest := by
  have hrest : trimEnd (.char ':' :: (if rest = [] then [] else .char ' ' :: rest)) =
      .char ':' :: (if rest = [] then [] else .char ' ' :: rest) := by
    rw [trimEnd_cons_of_visible isBlank_colon]
    split_ifs with he
    · rfl
    · have hvis : trimEnd rest ≠ [] := by rwa [h.trimEnd_rest]
      have hend := trimEnd_append_of_visible [.char ' '] hvis
      rw [List.singleton_append] at hend
      rw [hend, h.trimEnd_rest]
      rfl
  rw [trim_eq_self_iff]
  refine ⟨?_, ?_⟩
  · intro c hc
    rw [head?_of_labels (labels_fieldText gap name rest) h.name_ne] at hc
    exact (trim_eq_self_iff.mp h.trim_name).1 c hc
  · unfold fieldText
    rw [← List.append_assoc, trimEnd_append_of_visible _ (by rw [hrest]; simp), hrest]

/-- The line of a name and a rest: indented, with padding in front of the colon, a blank
behind it, and no blanks at the end. -/
def fieldLine (indent padding : Nat) (name rest : Text) : Text :=
  trimEnd (spaces indent ++ name ++ spaces padding ++ ofString ": " ++ rest)

theorem fieldLine_eq {name rest : Text} (h : IsField name rest) (indent padding : Nat) :
    fieldLine indent padding name rest = spaces indent ++ fieldText padding name rest := by
  have hmark : ofString ": " = [.char ':', .char ' '] := by decide
  unfold fieldLine fieldText
  simp only [hmark, List.append_assoc]
  by_cases hr : rest = []
  · -- the blank behind the colon is cut as the last character
    have hend : spaces indent ++ (name ++ (spaces padding ++ ([.char ':', .char ' '] ++ rest))) =
        (spaces indent ++ (name ++ (spaces padding ++ [.char ':']))) ++ [.char ' '] := by
      simp [hr]
    rw [hend, trimEnd_append_of_blank _ (by simpa using isBlank_space)]
    simp only [← List.append_assoc]
    rw [trimEnd_concat_of_visible isBlank_colon]
    simp [hr]
  · have hvis : trimEnd rest ≠ [] := by rwa [h.trimEnd_rest]
    simp only [← List.append_assoc]
    rw [trimEnd_append_of_visible _ hvis, h.trimEnd_rest]
    simp [hr]

theorem trim_fieldLine {name rest : Text} (h : IsField name rest) (indent padding : Nat) :
    trim (fieldLine indent padding name rest) = fieldText padding name rest := by
  rw [fieldLine_eq h, trim_spaces_append, trim_fieldText h]

theorem alignLine_eq_fieldLine {line name rest : Text} (h : splitField line = some (name, rest))
    (width longest : Nat) :
    alignLine width longest line = fieldLine width (longest - name.length) name rest := by
  rw [alignLine, h]
  rfl

/-- An aligned field is indented, padded, and has no blanks at its end. -/
theorem alignLine_of_splitField {line name rest : Text} (h : splitField line = some (name, rest))
    (width longest : Nat) :
    alignLine width longest line =
      spaces width ++ fieldText (longest - name.length) name rest := by
  rw [alignLine_eq_fieldLine h, fieldLine_eq (isField_of_splitField h)]

/-! ## Reading it again -/

/-- **A settled pair is read back from every way of writing it.** -/
theorem splitField_fieldText {name rest line : Text} (h : IsField name rest) (gap : Nat)
    (hline : trim line = fieldText gap name rest) : splitField line = some (name, rest) := by
  have hattr : isAttribute line = false := by
    rw [isAttribute, hline, attributeMarker_of_labels (labels_fieldText gap name rest) h.name_ne,
      h.not_attribute]
  refine splitField_of_divides hattr
    ⟨h.name_ne, h.trim_name, h.colon_not_mem, h.trim_rest, h.path, spaces gap,
      if rest = [] then [] else [.char ' '], ?_, forall_mem_spaces gap, ?_⟩
  · rw [hline, fieldText]
    split_ifs with hr
    · rw [hr, List.append_nil]
    · rfl
  · split_ifs
    · exact stray_nil rest
    · exact stray_cons_iff.mpr ⟨Or.inl isBlank_space, stray_nil rest⟩

section FieldLine
variable {line name rest : Text} (h : splitField line = some (name, rest)) (indent padding : Nat)
include h

theorem splitField_fieldLine :
    splitField (fieldLine indent padding name rest) = some (name, rest) :=
  splitField_fieldText (isField_of_splitField h) padding
    (trim_fieldLine (isField_of_splitField h) indent padding)

/-- A line of the same name and rest is of the same kind. -/
theorem kind_fieldLine (inStruct : Bool) :
    kind inStruct (fieldLine indent padding name rest) = kind inStruct line := by
  have hf := isField_of_splitField h
  refine kind_of_labels hf.name_ne (trimEnd_of_trim hf.trim_name) ?_ (labels_of_splitField h) _
  rw [trim_fieldLine hf]
  exact labels_fieldText padding name rest

end FieldLine

@[simp] theorem trim_indentLine (width : Nat) (line : Text) :
    trim (indentLine width line) = trim line := by
  unfold indentLine
  split_ifs with hb
  · rw [hb]; rfl
  · rw [trim_spaces_append, trim_trim]

theorem alignLine_of_splitField_eq_none {line : Text} (h : splitField line = none)
    (width longest : Nat) : alignLine width longest line = indentLine width line := by
  simp [alignLine, h]

/-- **Aligning a line keeps its name and its rest.** -/
theorem splitField_alignLine (width longest : Nat) (line : Text) :
    splitField (alignLine width longest line) = splitField line := by
  cases h : splitField line with
  | none =>
    rw [alignLine_of_splitField_eq_none h, ← splitField_trim, trim_indentLine, splitField_trim, h]
  | some field => rw [alignLine_eq_fieldLine h, splitField_fieldLine h]

/-- **Aligning a line keeps its kind**, inside a struct body and outside. -/
theorem kind_alignLine (inStruct : Bool) (width longest : Nat) (line : Text) :
    kind inStruct (alignLine width longest line) = kind inStruct line := by
  cases h : splitField line with
  | none => rw [alignLine_of_splitField_eq_none h, ← kind_trim, trim_indentLine, kind_trim]
  | some field => rw [alignLine_eq_fieldLine h, kind_fieldLine h]

/-! ## Reading undoes writing -/

/-- **Reading undoes writing.**  A line that is taken apart divides into the two parts, and every
line that is written with them, whatever its indentation and its padding are, is taken apart into
the same two and is of the same kind as the line was, in a struct body and outside. -/
theorem splitField_undoes_fieldLine {line name rest : Text}
    (h : splitField line = some (name, rest)) :
    Divides line name rest ∧
      ∀ indent padding : Nat,
        splitField (fieldLine indent padding name rest) = some (name, rest) ∧
          ∀ inStruct : Bool,
            kind inStruct (fieldLine indent padding name rest) = kind inStruct line := by
  refine ⟨(splitField_eq_some_iff.mp h).2, fun indent padding => ⟨?_, fun inStruct => ?_⟩⟩
  · exact splitField_fieldLine h indent padding
  · exact kind_fieldLine h indent padding inStruct

/-- Stray colons and blanks of any script go, and the colons of a path stay. -/
theorem splitField_undoes_fieldLine_path :
    let line := ofString "\u00A0owner\u2003: : ::std::Key, "
    let name := ofString "owner"
    let rest := ofString "::std::Key,"
    splitField line = some (name, rest) ∧ Divides line name rest ∧
      fieldLine 4 2 name rest = ofString "    owner  : ::std::Key," ∧
      splitField (fieldLine 4 2 name rest) = some (name, rest) ∧
      kind true (fieldLine 4 2 name rest) = kind true line ∧ kind true line = .field := by
  intro line name rest
  have h : splitField line = some (name, rest) := by decide
  have hwritten : fieldLine 4 2 name rest = ofString "    owner  : ::std::Key," := rfl
  have hkind : kind true line = .field := rfl
  obtain ⟨hdivides, hread⟩ := splitField_undoes_fieldLine h
  exact ⟨h, hdivides, hwritten, (hread 4 2).1, (hread 4 2).2 true, hkind⟩

/-! ## Batches -/

/-- The column of the colons depends on the fields of a batch alone. -/
theorem longestName_congr {ls ls' : List Text} (h : ls.map splitField = ls'.map splitField) :
    longestName ls = longestName ls' := by
  induction ls generalizing ls' with
  | nil =>
    cases ls' with
    | nil => rfl
    | cons l' ls' => cases h
  | cons l ls ih =>
    cases ls' with
    | nil => cases h
    | cons l' ls' =>
      simp only [List.map_cons, List.cons.injEq] at h
      rw [longestName, longestName, h.1, ih h.2]

end SchemaEditor.Format
