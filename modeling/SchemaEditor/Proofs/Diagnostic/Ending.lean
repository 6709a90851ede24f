import SchemaEditor.Diagnostic.Locate
import SchemaEditor.Proofs.Diagnostic.Message

/-!
# Blanks at the end of an output

Blanks at the end of an output stay behind the first marker, behind the words in front of a cause
and at the end of the line that is read, where they are trimmed.  So they are of no account, but
for one kind of output: one that breaks off behind the words in front of a cause
(`BreaksOff`).  With no line behind them the words are read as the message.  Any other blank than
a line feed makes a line behind the words, the words are skipped for it, and since it is blank
the message is looked for behind the first marker of an error instead.

`extract?_append` says this of every output, and `blank_behind_words` is about an output of the
exceptional kind.
-/

namespace SchemaEditor.Message
open Text

variable {t w after rest : Text}

/-- What follows the words in front of the first cause. -/
def behindWords? (t : Text) : Option Text :=
  (firstAfter? causeMarker t).bind fun after => afterFold? parsingMarker (trimStart after)

/-- The output ends with the words in front of a cause, and with line feeds at most behind them. -/
def BreaksOff (t : Text) : Prop := ∃ rest ∈ behindWords? t, ∀ c ∈ rest, c = .char '\n'

instance : DecidablePred BreaksOff := fun t =>
  inferInstanceAs (Decidable (∃ rest ∈ behindWords? t, ∀ c ∈ rest, c = .char '\n'))

theorem breaksOff_of_feeds (hafter : firstAfter? causeMarker t = some after)
    (hwords : afterFold? parsingMarker (trimStart after) = some rest)
    (hfeeds : ∀ c ∈ rest, c = .char '\n') : BreaksOff t :=
  ⟨rest, Option.bind_eq_some_iff.mpr ⟨after, hafter, hwords⟩, hfeeds⟩

theorem BreaksOff.exists_words (h : BreaksOff t) :
    ∃ after rest, firstAfter? causeMarker t = some after ∧
      afterFold? parsingMarker (trimStart after) = some rest ∧ ∀ c ∈ rest, c = .char '\n' := by
  obtain ⟨rest, hrest, hfeeds⟩ := h
  obtain ⟨after, hafter, hwords⟩ := Option.bind_eq_some_iff.mp hrest
  exact ⟨after, rest, hafter, hwords, hfeeds⟩

/-! ## What is read of a text with blanks at its end -/

section Blanks
variable (hw : ∀ c ∈ w, isBlank c = true)
include hw

theorem trimStart_append (t : Text) :
    trimStart (t ++ w) = if trimStart t = [] then [] else trimStart t ++ w := by
  split_ifs with h
  · refine trimStart_eq_nil_iff.mpr fun c hc => ?_
    exact (List.mem_append.mp hc).elim (trimStart_eq_nil_iff.mp h c) (hw c)
  · exact trimStart_append_of_visible h w

theorem trim_firstLine_append (t : Text) : trim (firstLine (t ++ w)) = trim (firstLine t) := by
  unfold firstLine
  rw [List.takeWhile_append]
  split_ifs with hwhole
  · have ht : t.takeWhile (· ≠ .char '\n') = t := (List.takeWhile_prefix _).eq_of_length hwhole
    rw [ht]
    exact trim_append_of_blank _ fun c hc => hw c ((List.takeWhile_prefix _).subset hc)
  · rfl

/-- The words in front of a cause have the blanks behind them too. -/
theorem afterFold?_trimStart_append
    (hwords : afterFold? parsingMarker (trimStart after) = some rest) :
    afterFold? parsingMarker (trimStart (after ++ w)) = some (rest ++ w) := by
  have hvisible : trimStart after ≠ [] := by
    intro hblank
    rw [hblank] at hwords
    exact absurd (length_le_of_afterFold? hwords) (by decide)
  rw [trimStart_append_of_visible hvisible, afterFold?_append_of_blank (by decide) hw, hwords]
  rfl

theorem cause_append (after : Text) :
    cause (after ++ w) = if cause after = [] then [] else cause after ++ w := by
  by_cases hblank : trimStart after = []
  · have hnone : cause after = [] := by
      by_contra h
      exact trimStart_ne_nil_of_cause h hblank
    rw [if_pos hnone, cause, trimStart_append hw, if_pos hblank]
    decide
  · cases hwords : afterFold? parsingMarker (trimStart after) with
    | none =>
      have hwords' : afterFold? parsingMarker (trimStart (after ++ w)) = none := by
        rw [trimStart_append_of_visible hblank, afterFold?_append_of_blank (by decide) hw, hwords]
        rfl
      rw [cause_of_none hwords, cause_of_none hwords', if_neg hblank,
        trimStart_append_of_visible hblank]
    | some rest =>
      rw [cause_of_some hwords, cause_of_some (afterFold?_trimStart_append hw hwords),
        trimStart_append hw]

theorem messageOf?_append (t : Text) : messageOf? (t ++ w) = messageOf? t := by
  unfold messageOf?
  rw [trimStart_append hw]
  by_cases h : trimStart t = []
  · simp only [h, if_true]
  · simp only [h, if_false, List.append_eq_nil_iff, false_and, trim_firstLine_append hw]

theorem errorMessage?_append (t : Text) : errorMessage? (t ++ w) = errorMessage? t := by
  unfold errorMessage?
  rw [firstAfter?_append_of_blank (by decide) hw]
  cases firstAfter? errorMarker t with
  | none => rfl
  | some after => exact messageOf?_append hw after

end Blanks

/-! ## The words alone -/

/-- The words in front of a cause are a line of their own, without blanks at the ends. -/
theorem trim_firstLine_of_words {words : Text} (hfold : fold words = parsingMarker) :
    trim (firstLine words) = words := by
  have hfeed : ∀ c ∈ words, c ≠ .char '\n' := by
    rintro c hc rfl
    have hmem := List.mem_map_of_mem (f := foldPoint) hc
    rw [← fold, hfold] at hmem
    exact absurd hmem (by decide)
  have hline : firstLine words = words := by
    refine List.takeWhile_eq_self_iff.mpr fun c hc => ?_
    simpa using hfeed c hc
  obtain ⟨c, back, rfl⟩ : ∃ c back, words = c :: back := by
    refine List.exists_cons_of_ne_nil ?_
    rintro rfl
    exact absurd hfold (by decide)
  have hvisible : isBlank c = false := by
    refine Bool.eq_false_iff.mpr fun hblank => ?_
    have hhead := congrArg List.head? hfold
    rw [fold, List.map_cons, List.head?_cons, foldPoint_of_blank hblank] at hhead
    obtain rfl : c = .char 's' := Option.some.inj hhead
    exact absurd hblank (by decide)
  have hlast : (c :: back).getLast? = some (.char ':') := by
    have hcolon := congrArg List.getLast? hfold
    rw [fold, List.getLast?_map] at hcolon
    obtain ⟨x, hx, hfoldx⟩ := Option.map_eq_some_iff.mp
      (hcolon.trans (by decide : parsingMarker.getLast? = some (.char ':')))
    rw [hx, eq_colon_of_foldPoint hfoldx]
  obtain ⟨front, hfront⟩ := List.getLast?_eq_some_iff.mp hlast
  rw [hline, trim_cons_of_visible hvisible, ← trimEnd_cons_of_visible hvisible, hfront]
  exact trimEnd_concat_of_visible isBlank_colon front

/-- An output that breaks off has the words in front of a cause as its message. -/
theorem BreaksOff.extract?_eq (h : BreaksOff t) :
    ∃ message, extract? t = some message ∧ fold message = parsingMarker := by
  obtain ⟨after, rest, hafter, hwords, hfeeds⟩ := h.exists_words
  have hblank : ∀ c ∈ rest, isBlank c = true := fun c hc => hfeeds c hc ▸ by decide
  refine ⟨_, (extract?_of_no_line hafter hwords hblank).trans (if_pos hfeeds), ?_⟩
  unfold afterFold? at hwords
  split_ifs at hwords with hfold
  rw [← List.take_append_drop parsingMarker.length (trimStart after), Option.some.inj hwords,
    trim_firstLine_append hblank, trim_firstLine_of_words hfold, hfold]

/-! ## Blanks at the end -/

/-- Behind a marker of a cause blanks at the end are of no account, if they do not make a line
behind the words in front of a cause. -/
theorem bind_causeLine?_append (hw : ∀ c ∈ w, isBlank c = true)
    (h : ∀ rest, afterFold? parsingMarker (trimStart after) = some rest →
      (∀ c ∈ rest, c = .char '\n') → ∀ c ∈ w, c = .char '\n') :
    (causeLine? (after ++ w)).bind nonBlank? = (causeLine? after).bind nonBlank? := by
  by_cases hcause : cause after = []
  · by_cases hblank : trimStart after = []
    · -- blanks only
      have hlonger : trimStart (after ++ w) = [] := by rw [trimStart_append hw, if_pos hblank]
      rw [skipsBlanks_causeLine?.nonBlank?_of_blank (trimStart_eq_nil_iff.mp hblank),
        skipsBlanks_causeLine?.nonBlank?_of_blank (trimStart_eq_nil_iff.mp hlonger)]
    · -- the words in front of a cause, and blanks
      obtain ⟨rest, hwords⟩ : ∃ rest, afterFold? parsingMarker (trimStart after) = some rest := by
        refine Option.ne_none_iff_exists'.mp fun hnone => hblank ?_
        rw [← cause_of_none hnone, hcause]
      have hrest := trimStart_eq_nil_iff.mp ((cause_of_some hwords).symm.trans hcause)
      have hlonger := afterFold?_trimStart_append hw hwords
      have hfeeds : (∀ c ∈ rest ++ w, c = .char '\n') ↔ ∀ c ∈ rest, c = .char '\n' := by
        rw [List.forall_mem_append]
        exact and_iff_left_of_imp (h rest hwords)
      rw [bind_causeLine?_of_words hlonger (List.forall_mem_append.mpr ⟨hrest, hw⟩),
        bind_causeLine?_of_words hwords hrest, trimStart_append_of_visible hblank,
        trim_firstLine_append hw]
      simp only [hfeeds]
  · -- a cause, whose first line has more blanks at its end at most
    have hlonger : cause (after ++ w) = cause after ++ w := by rw [cause_append hw, if_neg hcause]
    have hcause' : cause (after ++ w) ≠ [] := by
      rw [hlonger]
      exact List.append_ne_nil_of_left_ne_nil hcause w
    rw [bind_causeLine?_of_cause hcause, bind_causeLine?_of_cause hcause', hlonger,
      trim_firstLine_append hw]

theorem extract?_append_of_not_breaksOff (hw : ∀ c ∈ w, isBlank c = true)
    (h : BreaksOff t → ∀ c ∈ w, c = .char '\n') : extract? (t ++ w) = extract? t := by
  rw [extract?_eq, extract?_eq, errorMessage?_append hw, firstAfter?_append_of_blank (by decide) hw]
  cases hafter : firstAfter? causeMarker t with
  | none => rfl
  | some after =>
    rw [Option.map_some, Option.bind_some, Option.bind_some,
      bind_causeLine?_append hw fun rest hwords hfeeds =>
        h (breaksOff_of_feeds hafter hwords hfeeds)]

/-- A blank line behind the words in front of a cause hides them. -/
theorem BreaksOff.extract?_of_line (h : BreaksOff t) (hw : ∀ c ∈ w, isBlank c = true)
    (hline : ∃ c ∈ w, c ≠ .char '\n') : extract? (t ++ w) = errorMessage? t := by
  obtain ⟨after, rest, hafter, hwords, hfeeds⟩ := h.exists_words
  have hfirst : firstAfter? causeMarker (t ++ w) = some (after ++ w) := by
    rw [firstAfter?_append_of_blank (by decide) hw, hafter, Option.map_some]
  have hblank : ∀ c ∈ rest ++ w, isBlank c = true :=
    List.forall_mem_append.mpr ⟨fun c hc => hfeeds c hc ▸ by decide, hw⟩
  have hmore : ¬ ∀ c ∈ rest ++ w, c = .char '\n' := by
    obtain ⟨c, hc, hne⟩ := hline
    exact fun hall => hne (hall c (List.mem_append_right rest hc))
  rw [extract?_of_no_line hfirst (afterFold?_trimStart_append hw hwords) hblank, if_neg hmore,
    errorMessage?_append hw]

/-- **Blanks at the end of an output change neither its message nor its diagnostics**, unless the
output breaks off behind the words in front of a cause and one of the blanks is no line feed.
Then the words are the message without the blanks, and with them the message is looked for behind
the first marker of an error. -/
theorem extract?_append (hw : ∀ c ∈ w, isBlank c = true) (t : Text) :
    ((BreaksOff t → ∀ c ∈ w, c = .char '\n') →
        extract? (t ++ w) = extract? t ∧
          ∀ lines, diagnose (some (t ++ w)) lines = diagnose (some t) lines) ∧
      (BreaksOff t → (∃ c ∈ w, c ≠ .char '\n') →
        extract? (t ++ w) = errorMessage? t ∧
          ∃ message, extract? t = some message ∧ fold message = parsingMarker) := by
  refine ⟨fun h => ?_, fun h hline => ⟨h.extract?_of_line hw hline, h.extract?_eq⟩⟩
  have hsame := extract?_append_of_not_breaksOff hw h
  exact ⟨hsame, fun lines => by simp only [diagnose, Option.bind_some, hsame]⟩

/-- Blanks behind a complete cause, and behind the words in front of one. -/
theorem extract?_append_outputs :
    let t := ofString "Error: outer\nCaused by:\n  Schema parsing error: missing colon"
    let u := ofString "Error: outer\nCaused by:\n  Schema parsing error:"
    let w := ofString " \n\t"
    (∀ c ∈ w, isBlank c = true) ∧ ¬ BreaksOff t ∧ BreaksOff u ∧
      extract? (t ++ w) = some (ofString "missing colon") ∧
      diagnose (some (t ++ w)) [] = diagnose (some t) [] ∧
      extract? u = some (ofString "Schema parsing error:") ∧
      extract? (u ++ w) = some (ofString "outer") := by
  intro t u w
  have hw : ∀ c ∈ w, isBlank c = true := by decide
  have hcomplete : ¬ BreaksOff t := by decide
  have hwords : BreaksOff u := by decide
  obtain ⟨hmessage, hdiagnoses⟩ := (extract?_append hw t).1 fun h => absurd h hcomplete
  obtain ⟨herror, -⟩ := (extract?_append hw u).2 hwords (by decide)
  refine ⟨hw, hcomplete, hwords, hmessage.trans ?_, hdiagnoses [], ?_, herror.trans ?_⟩
  · decide
  · decide
  · decide

/-- With a blank at its end the output has another message. -/
theorem blank_behind_words :
    ¬ ∀ t w : Text, (∀ c ∈ w, isBlank c = true) → extract? (t ++ w) = extract? t := by
  intro h
  have hblank := h (ofString "Error: outer\nCaused by: Schema parsing error:") [' '] (by decide)
  exact absurd hblank (by decide)

end SchemaEditor.Message
