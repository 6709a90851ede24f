import SchemaEditor.Proofs.QuickFix.Touch

/-!
# Annotating a struct once

A fix for a missing attribute writes the attribute above the first struct from the anchor of its
diagnostic on.  With that it takes its own ground away.  The line it adds mentions no struct
(`mentionsStruct_attributeLine`), so the struct, one line further down, is still the first one
for every anchor from the old one down to itself.  There the rule looks at the run of
attributes above the struct, and the run now ends with the attribute it was about to write
(`annotatedAbove_concat`).  If the new line has pushed the struct out of the window, then no
struct is found at all.

So the same diagnostic gets no second fix, and neither does one that has moved down with the
text (`attribute_offered_once`).
-/

namespace SchemaEditor
open Text

/-- The range, a number of lines further down. -/
def Range.below (r : Range) (n : Nat) : Range :=
  ⟨⟨r.start.line + n, r.start.column⟩, ⟨r.stop.line + n, r.stop.column⟩, by
    obtain h | ⟨hline, hcolumn⟩ := r.ordered
    · exact Or.inl (Nat.add_lt_add_right h n)
    · exact Or.inr ⟨congrArg (· + n) hline, hcolumn⟩⟩

/-- The diagnostic, a number of lines further down. -/
def Diagnostic.below (d : Diagnostic) (n : Nat) : Diagnostic := { d with range := d.range.below n }

namespace FixRule

/-! ## The line of an attribute -/

/-- The attribute that a message asks for. -/
def wantedAttribute (message : Text) : Text :=
  Line.attributeMarker ++ attributeName message ++ ofString "]"

theorem attributeLine_eq (message line : Text) :
    attributeLine message line = leadingBlanks line ++ wantedAttribute message := by
  simp [attributeLine, wantedAttribute, ofString]

theorem wantedAttribute_congr {message message' : Text}
    (h : attributeName message = attributeName message') :
    wantedAttribute message = wantedAttribute message' := by
  rw [wantedAttribute, h, wantedAttribute]

/-- An attribute is visible at both ends and does not mention a struct. -/
theorem wantedAttribute_plain (message : Text) :
    trim (wantedAttribute message) = wantedAttribute message ∧
      Line.mentionsStruct (wantedAttribute message) = false := by
  have hall : ∀ name ∈ defaultAttribute :: requiredAttributes,
      trim (Line.attributeMarker ++ name ++ ofString "]") =
          Line.attributeMarker ++ name ++ ofString "]" ∧
        Line.mentionsStruct (Line.attributeMarker ++ name ++ ofString "]") = false := by
    decide
  exact hall _ (attributeName_mem message)

theorem blank_of_mem_leadingBlanks {line : Text} {c : CodePoint} (h : c ∈ leadingBlanks line) :
    isBlank c = true := List.mem_takeWhile_imp h

theorem trim_attributeLine (message line : Text) :
    trim (attributeLine message line) = wantedAttribute message := by
  rw [attributeLine_eq, trim, trimStart_append_of_blank fun c => blank_of_mem_leadingBlanks]
  exact (wantedAttribute_plain message).1

theorem mentionsStruct_attributeLine (message line : Text) :
    Line.mentionsStruct (attributeLine message line) = false := by
  have hindent : ∀ c ∈ leadingBlanks line, isWord c = false := fun c hc =>
    isWord_of_isBlank (blank_of_mem_leadingBlanks hc)
  have hword := hasWord_append_of_not_isWord (w := ['t', 'r', 'u', 'c', 't'])
    (by decide : isWord 's' = true) hindent (wantedAttribute message)
  rw [attributeLine_eq]
  exact hword.trans (wantedAttribute_plain message).2

theorem isAttribute_attributeLine (message line : Text) :
    Line.isAttribute (attributeLine message line) = true := by
  rw [Line.isAttribute, trim_attributeLine, List.isPrefixOf_iff_prefix, wantedAttribute,
    List.append_assoc]
  exact List.prefix_append ..

/-- Lines that end with an attribute have it in the run of attributes at their end. -/
theorem annotatedAbove_concat (message line : Text) (ls : List Text) :
    annotatedAbove (wantedAttribute message) (ls ++ [attributeLine message line]).reverse =
      true := by
  rw [List.reverse_concat, annotatedAbove, isAttribute_attributeLine, trim_attributeLine]
  simp

/-! ## The struct that is found -/

variable {lines : List Text} {wanted title : Text} {n : Nat} {p : Patch}

/-- **The rule writes above the first struct from the anchor on**, and only if the attribute is
not in the run above it. -/
theorem isLeast_of_attributeFix? (h : attributeFix? wanted lines n = some (title, p)) :
    IsLeast {i | n ≤ i ∧ ∃ l, lines[i]? = some l ∧ Line.mentionsStruct l = true}
        p.range.start.line ∧
      annotatedAbove wanted (lines.take p.range.start.line).reverse = false := by
  rw [attributeFix?] at h
  split at h
  · cases h
  · rename_i found line hfound
    split_ifs at h with hannotated
    obtain ⟨-, rfl⟩ := Prod.mk.inj (Option.some.inj h)
    obtain ⟨before, between, after, rfl, rfl, rfl, -, hbetween, hstruct⟩ :=
      exists_of_window hfound
    refine ⟨⟨⟨?_, line, ?_, hstruct⟩, ?_⟩, Bool.eq_false_iff.mpr hannotated⟩
    · rw [List.length_append]
      exact Nat.le_add_right ..
    · change (before ++ between ++ line :: after)[(before ++ between).length]? = some line
      simp
    · rintro i ⟨hi, l, hl, hmentions⟩
      by_contra hlt
      -- a line in between would be a struct
      have hlt : i < (before ++ between).length := Nat.lt_of_not_le hlt
      rw [List.getElem?_append_left hlt, List.getElem?_append_right hi] at hl
      rw [hbetween l (List.mem_of_getElem? hl)] at hmentions
      cases hmentions

section Added
variable {above rest : List Text} {line : Text} {message : Text}

/-- The struct is the line below the new one. -/
theorem getElem?_below {added : Text} :
    (above ++ added :: line :: rest)[above.length + 1]? = some line := by
  simp

/-- A struct with the attribute right above it is not the one that a fix is for. -/
theorem line_ne_of_attributeFix?
    (h : attributeFix? (wantedAttribute message) (above ++ attributeLine message line :: rest) n =
      some (title, p)) : p.range.start.line ≠ above.length + 1 := by
  intro hline
  obtain ⟨-, hannotated⟩ := isLeast_of_attributeFix? h
  have htake : (above ++ attributeLine message line :: rest).take (above.length + 1) =
      above ++ [attributeLine message line] := by
    rw [List.take_append, List.take_of_length_le (Nat.le_succ _), Nat.add_sub_cancel_left,
      List.take_succ_cons, List.take_zero]
  rw [hline, htake, annotatedAbove_concat] at hannotated
  cases hannotated

/-- No fix is offered from an anchor from which that struct is the first. -/
theorem attributeFix?_eq_none (hstruct : Line.mentionsStruct line = true)
    (hfirst : ∀ i l, n ≤ i → i < above.length → above[i]? = some l →
      Line.mentionsStruct l = false) (hn : n ≤ above.length + 1) :
    attributeFix? (wantedAttribute message)
      (above ++ attributeLine message line :: line :: rest) n = none := by
  rw [Option.eq_none_iff_forall_ne_some]
  rintro ⟨title, p⟩ h
  obtain ⟨⟨⟨hanchor, l, hl, hmentions⟩, hleast⟩, -⟩ := isLeast_of_attributeFix? h
  have hle : p.range.start.line ≤ above.length + 1 := hleast ⟨hn, line, getElem?_below, hstruct⟩
  have hne := line_ne_of_attributeFix? h
  generalize p.range.start.line = found at hanchor hl hle hne
  -- the lines above the struct, the new one included, mention none
  by_cases hnew : found = above.length
  · subst hnew
    rw [List.getElem?_append_right (Nat.le_refl _), Nat.sub_self] at hl
    obtain rfl := Option.some.inj hl
    rw [mentionsStruct_attributeLine] at hmentions
    cases hmentions
  · have hlt : found < above.length := by omega
    rw [List.getElem?_append_left hlt] at hl
    rw [hfirst found l hanchor hlt hl] at hmentions
    cases hmentions

end Added

/-! ## The document with the attribute -/

/-- **An attribute is offered once.**  On the lines that a fix for an attribute leaves the rule
has no fix, neither for the same diagnostic nor for the diagnostic one line further down, nor for
any other one that asks for the attribute and is anchored in between or at the struct.  From
whatever anchor, it is not offered again for that struct, which is the next line now. -/
theorem attribute_offered_once {doc : Document}
    (heol : doc.eol = Document.lf ∨ doc.eol = Document.crlf)
    (hlines : ∀ l ∈ doc.lines, .char '\n' ∉ l ∧ .char '\r' ∉ l) {d : Diagnostic}
    (h : insertAttribute.build? doc.lines d = some (title, p)) :
    insertAttribute.build? (doc.apply p).lines d = none ∧
      insertAttribute.build? (doc.apply p).lines (d.below 1) = none ∧
      (doc.apply p).lines[p.range.start.line + 1]? = doc.lines[p.range.start.line]? ∧
      ∀ d' : Diagnostic, attributeName d'.message = attributeName d.message →
        (d.line ≤ d'.line → d'.line ≤ p.range.start.line + 1 →
            insertAttribute.build? (doc.apply p).lines d' = none) ∧
          ∀ title' p', insertAttribute.build? (doc.apply p).lines d' = some (title', p') →
            p'.range.start.line ≠ p.range.start.line + 1 := by
  have hfeed : ∀ l ∈ doc.lines, .char '\n' ∉ l := fun l hl => (hlines l hl).1
  have hreturn : ∀ l ∈ doc.lines, .char '\r' ∉ l := fun l hl => (hlines l hl).2
  have hafter := congrArg Document.lines
    ((attribute_builds hfeed hreturn h).apply_eq heol hfeed hreturn)
  obtain ⟨before, between, after, line, hbefore, hanchor, -, hbetween, hstruct, rfl, hspliced⟩ :=
    exists_of_attribute_build? hfeed h
  replace hafter := hafter.trans hspliced
  rw [hafter, hbefore]
  -- between the anchor and the struct nothing mentions one
  have hfirst : ∀ i l, d.line ≤ i → i < (before ++ between).length →
      (before ++ between)[i]? = some l → Line.mentionsStruct l = false := by
    intro i l hi hlt hl
    rw [← hanchor] at hi
    rw [List.getElem?_append_right hi] at hl
    exact hbetween l (List.mem_of_getElem? hl)
  have hnone : ∀ d' : Diagnostic, attributeName d'.message = attributeName d.message →
      d.line ≤ d'.line → d'.line ≤ (before ++ between).length + 1 →
        insertAttribute.build?
          (before ++ between ++ attributeLine d.message line :: line :: after) d' = none := by
    intro d' hname hbelow hupto
    change attributeFix? (wantedAttribute d'.message) _ _ = none
    rw [wantedAttribute_congr hname]
    exact attributeFix?_eq_none hstruct (fun i l hi => hfirst i l (hbelow.trans hi)) hupto
  have hanchor' : d.line ≤ (before ++ between).length := by
    rw [← hanchor, List.length_append]
    exact Nat.le_add_right ..
  refine ⟨hnone d rfl (Nat.le_refl _) (Nat.le_succ_of_le hanchor'),
    hnone (d.below 1) rfl (Nat.le_succ _) (Nat.succ_le_succ hanchor'), ?_, fun d' hname =>
      ⟨hnone d' hname, fun title' p' hfix => ?_⟩⟩
  · have hstruct' : (before ++ between ++ line :: after)[(before ++ between).length]? = some line :=
      by simp
    exact getElem?_below.trans hstruct'.symm
  · change attributeFix? (wantedAttribute d'.message) _ _ = some (title', p') at hfix
    rw [wantedAttribute_congr hname] at hfix
    exact line_ne_of_attributeFix? hfix

/-- A struct at the end of the window, which the attribute pushes out of it, and an attribute
that another one is put below. -/
theorem attribute_offered_once_far :
    let doc : Document := ⟨[ofString "a", ofString "", ofString "", ofString "  #[solana]",
      ofString "  struct A \x7b"], Document.crlf, none, by simp⟩
    let d : Diagnostic :=
      ⟨Range.point 0 0, ofString "account attribute", .error, Diagnostic.ownSource⟩
    let p : Patch := ⟨Range.point 4 0, ofString "  #[account]\n"⟩
    doc.eol = Document.crlf ∧ (∀ l ∈ doc.lines, .char '\n' ∉ l ∧ .char '\r' ∉ l) ∧
      insertAttribute.build? doc.lines d = some (ofString "Add #[account] attribute", p) ∧
      (doc.apply p).lines = [ofString "a", ofString "", ofString "", ofString "  #[solana]",
        ofString "  #[account]", ofString "  struct A \x7b"] ∧
      insertAttribute.build? (doc.apply p).lines d = none ∧
      insertAttribute.build? (doc.apply p).lines (d.below 1) = none := by
  intro doc d p
  have hlines : ∀ l ∈ doc.lines, .char '\n' ∉ l ∧ .char '\r' ∉ l := by decide
  have hbuild : insertAttribute.build? doc.lines d =
      some (ofString "Add #[account] attribute", p) := by decide
  obtain ⟨hsame, hbelow, -, -⟩ := attribute_offered_once (Or.inr rfl) hlines hbuild
  exact ⟨rfl, hlines, hbuild, by decide, hsame, hbelow⟩

end FixRule

end SchemaEditor
