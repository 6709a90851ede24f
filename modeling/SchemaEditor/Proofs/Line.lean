import SchemaEditor.Line
import SchemaEditor.Proofs.Text.Word

/-!
# What the kind of a line depends on

The kind of a line is read off its trimmed text (`kind_trim`), and where the line stands
makes a field of it or another line, but no difference else (`kind_eq_ite`).  If the text is a
name, blanks and a colon (`Labels`), then the kind depends on the name alone
(`kind_of_labels`): the markers and keywords that decide it are made of characters
that end where the name ends.  So neither the padding in front of the colon nor
anything behind it can make a line an attribute, a declaration or a closing line.
-/

namespace SchemaEditor.Line
open Text

/-! ## Keywords end at the end of a word -/

/-- A word is found in front of a text only as far as the text is made of word
characters. -/
theorem isPrefixOf_append_of_boundary {word : Text} (hw : ∀ c ∈ word, isWord c = true)
    (name : Text) {t : Text} (ht : ∀ c ∈ t.head?, isWord c = false) :
    word.isPrefixOf (name ++ t) = word.isPrefixOf name := by
  induction word generalizing name with
  | nil => rfl
  | cons a word ih =>
    cases name with
    | nil =>
      cases t with
      | nil => rfl
      | cons c t =>
        have hac : a ≠ c := by
          rintro rfl
          have ha := ht a rfl
          rw [hw a (List.mem_cons_self ..)] at ha
          cases ha
        simp [List.isPrefixOf, hac]
    | cons b name =>
      simp only [List.cons_append, List.isPrefixOf]
      rw [ih (fun c hc => hw c (List.mem_cons_of_mem _ hc))]

theorem after?_eq_some_iff {word t rest : Text} : after? word t = some rest ↔ t = word ++ rest := by
  unfold after?
  constructor
  · intro h
    split at h
    · rename_i hp
      obtain ⟨r, rfl⟩ := List.isPrefixOf_iff_prefix.mp hp
      simpa using h
    · cases h
  · rintro rfl
    simp

theorem after?_append_of_boundary {word : Text} (hw : ∀ c ∈ word, isWord c = true)
    (name : Text) {t : Text} (ht : ∀ c ∈ t.head?, isWord c = false) :
    after? word (name ++ t) = (after? word name).map (· ++ t) := by
  unfold after?
  rw [isPrefixOf_append_of_boundary hw name ht]
  by_cases hp : word.isPrefixOf name = true
  · have hle := (List.isPrefixOf_iff_prefix.mp hp).length_le
    simp [hp, List.drop_append_of_le_length hle]
  · simp [hp]

theorem startsWithWord_append_of_boundary {word : Text} (hw : ∀ c ∈ word, isWord c = true)
    (name : Text) {t : Text} (ht : ∀ c ∈ t.head?, isWord c = false) :
    startsWithWord word (name ++ t) = startsWithWord word name := by
  unfold startsWithWord
  rw [after?_append_of_boundary hw name ht]
  cases h : after? word name with
  | none => rfl
  | some rest =>
    cases rest with
    | cons c rest => rfl
    | nil =>
      cases t with
      | nil => rfl
      | cons c t => simp [ht c rfl]

/-- A keyword starts with a character of a word, so no text that starts otherwise
starts with a keyword. -/
theorem startsWithWord_of_boundary {word : Text} (hne : word ≠ [])
    (hw : ∀ c ∈ word, isWord c = true) {t : Text} (ht : ∀ c ∈ t.head?, isWord c = false) :
    startsWithWord word t = false := by
  have h := startsWithWord_append_of_boundary hw [] ht
  rw [List.nil_append] at h
  obtain ⟨c, rest, rfl⟩ := List.exists_cons_of_ne_nil hne
  simpa [startsWithWord, after?] using h

theorem isWord_of_mem_structWord : ∀ c ∈ structWord, isWord c = true := by decide

theorem isWord_of_mem_enumWord : ∀ c ∈ enumWord, isWord c = true := by decide

theorem isWord_of_mem_pubWord : ∀ c ∈ pubWord, isWord c = true := by decide

/-! ## Labelled texts -/

/-- The text is the name, blanks, a colon, and more. -/
def Labels (name t : Text) : Prop :=
  ∃ gap back, t = name ++ (gap ++ .char ':' :: back) ∧ ∀ c ∈ gap, isBlank c = true

/-- What follows the name belongs to no word. -/
theorem boundary_of_gap {gap : Text} (h : ∀ c ∈ gap, isBlank c = true) (back : Text) :
    ∀ c ∈ (gap ++ CodePoint.char ':' :: back).head?, isWord c = false := by
  cases gap with
  | nil =>
    intro c hc
    obtain rfl : CodePoint.char ':' = c := by simpa using hc
    exact isWord_colon
  | cons d gap =>
    intro c hc
    obtain rfl : d = c := by simpa using hc
    exact isWord_of_isBlank (h d (List.mem_cons_self ..))

/-- A name that ends with `pub` and blanks would end with a blank, so what follows them is
still of the name. -/
theorem afterPub_append {c : CodePoint} (hc : isBlank c = true) {rest : Text}
    (hvis : trimStart rest ≠ []) (t : Text) :
    afterPub (pubWord ++ c :: rest ++ t) = afterPub (pubWord ++ c :: rest) ++ t := by
  have hbefore : after? pubWord (pubWord ++ c :: rest) = some (c :: rest) :=
    after?_eq_some_iff.mpr rfl
  have hwhole : after? pubWord (pubWord ++ c :: rest ++ t) = some (c :: (rest ++ t)) :=
    after?_eq_some_iff.mpr (List.append_assoc ..)
  simp only [afterPub, hbefore, hwhole, hc, if_true, trimStart_append_of_visible hvis]

section AfterPub
variable {word : Text} (hne : word ≠ []) (hw : ∀ c ∈ word, isWord c = true)
  (hpub : startsWithWord word pubWord = false)
include hne hw hpub

/-- If the name is `pub`, then only blanks and the colon follow it, and no keyword starts
with a colon. -/
theorem startsWithWord_afterPub_label {gap : Text} (hgap : ∀ c ∈ gap, isBlank c = true)
    (back : Text) :
    startsWithWord word (afterPub (pubWord ++ (gap ++ .char ':' :: back))) = false := by
  have hafter : after? pubWord (pubWord ++ (gap ++ .char ':' :: back)) =
      some (gap ++ .char ':' :: back) := after?_eq_some_iff.mpr rfl
  unfold afterPub
  rw [hafter]
  cases gap with
  | nil =>
    simp only [List.nil_append, isBlank_colon, Bool.false_eq_true, if_false]
    rw [startsWithWord_append_of_boundary hw pubWord (by simpa using isWord_colon), hpub]
  | cons d gap =>
    have hskip := trimStart_append_of_blank (fun c hc => hgap c (List.mem_cons_of_mem d hc))
      (.char ':' :: back)
    rw [trimStart_cons_of_visible isBlank_colon] at hskip
    simp only [List.cons_append, hgap d (List.mem_cons_self ..), if_true, hskip]
    exact startsWithWord_of_boundary hne hw (by simpa using isWord_colon)

/-- What follows `pub` in a labelled text is the label of what follows it in the
name, or the name was `pub` and nothing but the colon follows. -/
theorem startsWithWord_afterPub_append {name : Text} (hname : trimEnd name = name) {gap : Text}
    (hgap : ∀ c ∈ gap, isBlank c = true) (back : Text) :
    startsWithWord word (afterPub (name ++ (gap ++ .char ':' :: back))) =
      startsWithWord word (afterPub name) := by
  have ht := boundary_of_gap hgap back
  have hrest := startsWithWord_append_of_boundary hw name ht
  have hafter := after?_append_of_boundary isWord_of_mem_pubWord name ht
  cases h : after? pubWord name with
  | none =>
    rw [h] at hafter
    simp only [afterPub, h, hafter, Option.map_none]
    exact hrest
  | some rest =>
    rw [h] at hafter
    obtain rfl := after?_eq_some_iff.mp h
    cases rest with
    | nil =>
      have hname : afterPub pubWord = pubWord := by decide
      rw [List.append_nil, startsWithWord_afterPub_label hne hw hpub hgap, hname, hpub]
    | cons c rest =>
      by_cases hc : isBlank c = true
      · have hvis := trimStart_ne_nil_of_trimEnd hname (List.cons_ne_nil c rest)
        rw [trimStart_cons_of_blank hc] at hvis
        rw [afterPub_append hc hvis, startsWithWord_append_of_boundary hw _ ht]
      · simp only [afterPub, h, hafter, Option.map_some, List.cons_append, hc]
        exact hrest

end AfterPub

/-- Whether a labelled text declares something is settled by its name. -/
theorem declares_of_labels {name t : Text} (h : Labels name t) (hname : trimEnd name = name) :
    declares t = declares name := by
  obtain ⟨gap, back, rfl, hgap⟩ := h
  unfold declares
  rw [startsWithWord_afterPub_append (by decide) isWord_of_mem_structWord (by decide) hname hgap,
    startsWithWord_afterPub_append (by decide) isWord_of_mem_enumWord (by decide) hname hgap]

/-- Whether a labelled text is marked as an attribute is settled by its name. -/
theorem attributeMarker_of_labels {name t : Text} (h : Labels name t) (hne : name ≠ []) :
    attributeMarker.isPrefixOf t = attributeMarker.isPrefixOf name := by
  obtain ⟨gap, back, rfl, hgap⟩ := h
  match name, hne with
  | [c], _ =>
    cases gap with
    | nil => simp [attributeMarker, List.isPrefixOf]
    | cons d gap =>
      have hd : CodePoint.char '[' ≠ d := by
        rintro rfl
        exact absurd (hgap _ (List.mem_cons_self ..)) (by decide)
      simp [attributeMarker, List.isPrefixOf, hd]
  | c :: d :: rest, _ => simp [attributeMarker, List.isPrefixOf]

theorem colon_mem_of_labels {name t : Text} (h : Labels name t) : .char ':' ∈ t := by
  obtain ⟨gap, back, rfl, -⟩ := h
  simp

theorem head?_of_labels {name t : Text} (h : Labels name t) (hne : name ≠ []) :
    t.head? = name.head? := by
  obtain ⟨gap, back, rfl, -⟩ := h
  obtain ⟨c, rest, rfl⟩ := List.exists_cons_of_ne_nil hne
  rfl

/-! ## Kinds -/

@[simp] theorem kind_trim (inStruct : Bool) (line : Text) :
    kind inStruct (trim line) = kind inStruct line := by
  simp only [kind, trim_trim]

@[simp] theorem isAttribute_trim (line : Text) : isAttribute (trim line) = isAttribute line := by
  simp only [isAttribute, trim_trim]

@[simp] theorem isLoneOpen_trim (line : Text) : isLoneOpen (trim line) = isLoneOpen line := by
  simp only [isLoneOpen, trim_trim]

@[simp] theorem opensBlock_trim (line : Text) : opensBlock (trim line) = opensBlock line := by
  simp only [opensBlock, trim_trim]

theorem trim_ne_nil_of_isAttribute {line : Text} (h : isAttribute line = true) :
    trim line ≠ [] := by
  intro hb
  rw [isAttribute, hb] at h
  exact absurd h (by decide)

/-- **The kind of a labelled line depends on its name alone.** -/
theorem kind_of_labels {name line line' : Text} (hne : name ≠ []) (hname : trimEnd name = name)
    (h : Labels name (trim line)) (h' : Labels name (trim line')) (inStruct : Bool) :
    kind inStruct line = kind inStruct line' := by
  have hvis : ∀ {t : Text}, Labels name t → t ≠ [] := by
    rintro t ⟨gap, back, rfl, -⟩
    simp
  simp only [kind, hvis h, hvis h', if_false, attributeMarker_of_labels h hne,
    attributeMarker_of_labels h' hne, declares_of_labels h hname, declares_of_labels h' hname,
    head?_of_labels h hne, head?_of_labels h' hne, colon_mem_of_labels h, colon_mem_of_labels h']

/-- A line is of one kind in a struct body and outside, but for other lines with a colon. -/
theorem kind_eq_ite (inStruct : Bool) (line : Text) :
    kind inStruct line =
      if kind false line = .other ∧ inStruct = true ∧ .char ':' ∈ trim line then .field
      else kind false line := by
  unfold kind
  grind

/-- Only whether a line is a field depends on where it stands. -/
theorem kind_eq_iff_of_ne {line : Text} {k : LineKind} (hfield : k ≠ .field) (hother : k ≠ .other)
    (inStruct : Bool) : kind inStruct line = k ↔ kind false line = k := by
  rw [kind_eq_ite]
  split_ifs with h
  · rw [h.1]
    exact iff_of_false hfield.symm hother.symm
  · exact Iff.rfl

/-- A line is of the attribute kind exactly if it is marked as an attribute. -/
theorem kind_eq_attribute_iff {inStruct : Bool} {line : Text} :
    kind inStruct line = .attribute ↔ isAttribute line = true := by
  by_cases hb : trim line = []
  · simp [kind, isAttribute, hb, attributeMarker]
  · by_cases ha : attributeMarker.isPrefixOf (trim line) = true
    · simp [kind, isAttribute, hb, ha]
    · have hk : kind inStruct line ≠ .attribute := by
        unfold kind
        rw [if_neg hb, if_neg ha]
        split_ifs <;> decide
      simp [hk, isAttribute, ha]

/-- A line is of the blank kind exactly if nothing of it is visible. -/
theorem kind_eq_blank_iff {inStruct : Bool} {line : Text} :
    kind inStruct line = .blank ↔ trim line = [] := by
  by_cases hb : trim line = []
  · simp [kind, hb]
  · have hk : kind inStruct line ≠ .blank := by
      unfold kind
      rw [if_neg hb]
      split_ifs <;> decide
    simp [hk, hb]

/-- A line with a colon is no brace alone. -/
theorem not_isLoneOpen_of_labels {name line : Text} (h : Labels name (trim line)) :
    isLoneOpen line = false := by
  have hc := colon_mem_of_labels h
  unfold isLoneOpen
  by_contra hb
  rw [Bool.not_eq_false, beq_iff_eq] at hb
  rw [hb] at hc
  simp at hc

end SchemaEditor.Line
