import SchemaEditor.Proofs.Diagnostic.Marker

/-!
# The message by a direct look

`Message.extract?` finds its message by trial.  A reader of lines skips as many blanks as it can
and gives some of them back if nothing else is left, the words in front of a cause are skipped
only if a line follows them, and a marker behind which no line is found is passed over.

The same message is found without any trial.  Take what stands behind the first marker of a
cause, without blanks in front of it, and cut off the words in front of a cause with the blanks
behind them (`cause`).  If anything is left, then its first line is the message
(`extract?_of_cause`).  If only blanks follow that marker, or there is none, then the message is
the first line behind the first marker of an error (`extract?_of_no_cause`).

In between lies an output that ends with the words in front of a cause and blanks behind them.
There the trial shows: without a line behind them the words are the message themselves, but
blanks other than line feeds are taken for such a line (`extract?_of_no_line`).
-/

namespace SchemaEditor.Message
open Text

variable {t after rest : Text}

/-! ## Lines -/

/-- The message in the first line of a text, blanks in front of it aside. -/
def messageOf? (t : Text) : Option Text :=
  if trimStart t = [] then none else some (trim (firstLine (trimStart t)))

theorem exists_visible (h : trimStart t ≠ []) :
    ∃ c rest, trimStart t = c :: rest ∧ isBlank c = false := by
  obtain ⟨c, rest, hrest⟩ := List.exists_cons_of_ne_nil h
  have hhead := List.head_dropWhile_not isBlank h
  refine ⟨c, rest, hrest, ?_⟩
  have hc : (trimStart t).head h = c := by simp [hrest]
  rwa [← hc]

/-- A line that starts visibly is not blank. -/
theorem nonBlank?_firstLine (h : trimStart t ≠ []) :
    nonBlank? (firstLine (trimStart t)) = some (trim (firstLine (trimStart t))) := by
  obtain ⟨c, rest, hrest, hc⟩ := exists_visible h
  refine if_neg ?_
  rw [hrest, firstLine_cons_of_visible hc, trim_cons_of_visible hc]
  exact List.cons_ne_nil _ _

theorem lineAfterBlanks?_of_visible (h : trimStart t ≠ []) :
    lineAfterBlanks? t = some (firstLine (trimStart t)) := by
  rw [(skipsBlanks_lineAfterBlanks?.read_eq h).1]
  obtain ⟨c, rest, hrest, hc⟩ := exists_visible h
  rw [hrest, lineAfterBlanks?, if_neg (Bool.eq_false_iff.mp hc), lineHere?_of_visible hc]

theorem bind_lineAfterBlanks? (t : Text) :
    (lineAfterBlanks? t).bind nonBlank? = messageOf? t := by
  unfold messageOf?
  split_ifs with h
  · exact skipsBlanks_lineAfterBlanks?.nonBlank?_of_blank (trimStart_eq_nil_iff.mp h)
  · rw [lineAfterBlanks?_of_visible h, Option.bind_some, nonBlank?_firstLine h]

/-- No line is found where nothing but line feeds is left. -/
theorem lineAfterBlanks?_eq_none_iff :
    lineAfterBlanks? t = none ↔ ∀ c ∈ t, c = .char '\n' := by
  induction t with
  | nil => simp [lineAfterBlanks?]
  | cons c t ih =>
    have hhere : lineHere? (c :: t) = none ↔ c = .char '\n' := by
      by_cases hc : c = .char '\n' <;> simp [lineHere?, hc]
    rw [lineAfterBlanks?, List.forall_mem_cons]
    split_ifs with hc
    · rw [Option.or_eq_none_iff, ih, hhere, and_comm]
    · rw [hhere]
      refine ⟨fun hfeed => ?_, And.left⟩
      rw [hfeed] at hc
      exact absurd (by decide) hc

/-! ## Causes -/

/-- A text without the words in front of a cause and the blanks behind them. -/
def withoutPrefix (t : Text) : Text := ((afterFold? parsingMarker t).map trimStart).getD t

/-- The cause that the text behind a marker gives. -/
def cause (after : Text) : Text := withoutPrefix (trimStart after)

theorem cause_of_none (h : afterFold? parsingMarker (trimStart after) = none) :
    cause after = trimStart after := by
  rw [cause, withoutPrefix, h]
  rfl

theorem cause_of_some (h : afterFold? parsingMarker (trimStart after) = some rest) :
    cause after = trimStart rest := by
  rw [cause, withoutPrefix, h]
  rfl

/-- Something follows the marker if a cause does. -/
theorem trimStart_ne_nil_of_cause (h : cause after ≠ []) : trimStart after ≠ [] := by
  intro hblank
  rw [cause, hblank] at h
  exact h (by decide)

/-- What the reader of causes finds at something visible. -/
theorem causeLine?_of_visible (h : trimStart after ≠ []) :
    causeLine? after =
      ((afterFold? parsingMarker (trimStart after)).bind lineAfterBlanks?).or
        (some (firstLine (trimStart after))) := by
  rw [(skipsBlanks_causeLine?.read_eq h).1]
  obtain ⟨c, rest, hrest, hc⟩ := exists_visible h
  rw [hrest, causeLine?, if_neg (Bool.eq_false_iff.mp hc), lineHere?_of_visible hc]

theorem bind_causeLine?_of_cause (h : cause after ≠ []) :
    (causeLine? after).bind nonBlank? = some (trim (firstLine (cause after))) := by
  have hvisible := trimStart_ne_nil_of_cause h
  rw [causeLine?_of_visible hvisible]
  cases hwords : afterFold? parsingMarker (trimStart after) with
  | none =>
    rw [cause_of_none hwords, Option.bind_none, Option.none_or, Option.bind_some,
      nonBlank?_firstLine hvisible]
  | some rest =>
    rw [cause_of_some hwords] at h ⊢
    rw [Option.bind_some, lineAfterBlanks?_of_visible h, Option.some_or, Option.bind_some,
      nonBlank?_firstLine h]

/-- The words in front of a cause stand alone: they are the message if no line follows them, and
a blank line behind them is none. -/
theorem bind_causeLine?_of_words (hwords : afterFold? parsingMarker (trimStart after) = some rest)
    (hrest : ∀ c ∈ rest, isBlank c = true) :
    (causeLine? after).bind nonBlank? =
      if ∀ c ∈ rest, c = .char '\n' then some (trim (firstLine (trimStart after))) else none := by
  have hvisible : trimStart after ≠ [] := by
    intro hblank
    rw [hblank] at hwords
    exact absurd (length_le_of_afterFold? hwords) (by decide)
  rw [causeLine?_of_visible hvisible, hwords, Option.bind_some]
  split_ifs with hfeeds
  · rw [lineAfterBlanks?_eq_none_iff.mpr hfeeds, Option.none_or, Option.bind_some,
      nonBlank?_firstLine hvisible]
  · have hsome : (lineAfterBlanks? rest).isSome := by
      rw [Option.isSome_iff_ne_none, Ne, lineAfterBlanks?_eq_none_iff]
      exact hfeeds
    rw [Option.or_of_isSome hsome]
    exact skipsBlanks_lineAfterBlanks?.nonBlank?_of_blank hrest

/-! ## The message -/

/-- The message behind the first marker of an error. -/
def errorMessage? (t : Text) : Option Text := (firstAfter? errorMarker t).bind messageOf?

theorem extract?_eq (t : Text) :
    extract? t =
      ((firstAfter? causeMarker t).bind fun after => (causeLine? after).bind nonBlank?).or
        (errorMessage? t) := by
  have hcause : search causeMarker causeLine? t = (firstAfter? causeMarker t).bind causeLine? :=
    skipsBlanks_causeLine?.search_eq (by decide) t
  have herror : search errorMarker lineAfterBlanks? t =
      (firstAfter? errorMarker t).bind lineAfterBlanks? :=
    skipsBlanks_lineAfterBlanks?.search_eq (by decide) t
  rw [extract?, hcause, herror, Option.bind_assoc, Option.bind_assoc, errorMessage?]
  simp only [bind_lineAfterBlanks?]

theorem extract?_of_cause (hafter : firstAfter? causeMarker t = some after)
    (h : cause after ≠ []) : extract? t = some (trim (firstLine (cause after))) := by
  rw [extract?_eq, hafter, Option.bind_some, bind_causeLine?_of_cause h, Option.some_or]

theorem extract?_of_no_cause
    (h : ∀ after, firstAfter? causeMarker t = some after → trimStart after = []) :
    extract? t = errorMessage? t := by
  rw [extract?_eq]
  cases hafter : firstAfter? causeMarker t with
  | none => rfl
  | some after =>
    have hblank := trimStart_eq_nil_iff.mp (h after hafter)
    rw [Option.bind_some, skipsBlanks_causeLine?.nonBlank?_of_blank hblank, Option.none_or]

theorem extract?_of_no_line (hafter : firstAfter? causeMarker t = some after)
    (hwords : afterFold? parsingMarker (trimStart after) = some rest)
    (hrest : ∀ c ∈ rest, isBlank c = true) :
    extract? t =
      if ∀ c ∈ rest, c = .char '\n' then some (trim (firstLine (trimStart after)))
      else errorMessage? t := by
  rw [extract?_eq, hafter, Option.bind_some, bind_causeLine?_of_words hwords hrest]
  split_ifs <;> rfl

/-- No message is found where nothing is visible. -/
theorem extract?_of_blank (h : ∀ c ∈ t, isBlank c = true) : extract? t = none := by
  rw [extract?_eq, errorMessage?, firstAfter?_of_blank (by decide) h,
    firstAfter?_of_blank (by decide) h]
  rfl

/-- A message is a line with something visible at both ends. -/
theorem extract?_trimmed {message : Text} (h : extract? t = some message) :
    message ≠ [] ∧ .char '\n' ∉ message ∧ trim message = message := by
  rcases Option.or_eq_some_iff.mp h with h | ⟨-, h⟩
  · exact skipsBlanks_causeLine?.message_trimmed (by decide) h
  · exact skipsBlanks_lineAfterBlanks?.message_trimmed (by decide) h

/-- **The message is found by a direct look.**  If a cause stands behind the first marker of a
cause, its first line is the message.  If only blanks follow that marker, or there is none, then
the message is the first line behind the first marker of an error, and there is no message if
only blanks follow that one, or there is none either.  A message is never empty, is a single
line, and has no blanks at its ends. -/
theorem extract?_direct (t : Text) :
    (∀ after, firstAfter? causeMarker t = some after → cause after ≠ [] →
        extract? t = some (trim (firstLine (cause after)))) ∧
      ((∀ after, firstAfter? causeMarker t = some after → trimStart after = []) →
        (∀ after, firstAfter? errorMarker t = some after → trimStart after ≠ [] →
            extract? t = some (trim (firstLine (trimStart after)))) ∧
          ((∀ after, firstAfter? errorMarker t = some after → trimStart after = []) →
            extract? t = none)) ∧
      ∀ message, extract? t = some message →
        message ≠ [] ∧ .char '\n' ∉ message ∧ trim message = message := by
  refine ⟨fun after hafter hcause => extract?_of_cause hafter hcause, fun hno => ⟨?_, ?_⟩,
    fun message hmessage => extract?_trimmed hmessage⟩
  · intro after hafter hvisible
    rw [extract?_of_no_cause hno, errorMessage?, hafter, Option.bind_some, messageOf?,
      if_neg hvisible]
  · intro hblank
    rw [extract?_of_no_cause hno, errorMessage?]
    cases hafter : firstAfter? errorMarker t with
    | none => rfl
    | some after => rw [Option.bind_some, messageOf?, if_pos (hblank after hafter)]

end SchemaEditor.Message
