import SchemaEditor.Validator
import SchemaEditor.Diagnostic.Locate
import SchemaEditor.Proofs.Diagnostic.Message

/-!
# Reports of runs that were stopped

A validator that ends with a failure reports its error stream if something is visible on it, and
its other output otherwise.  One that is stopped should report the same, as far as it got, and if
nothing visible was captured it should say that the time was over.

For a run that was stopped, though, a stream counts if there is anything on it.  So all hangs on
the first stream that is not empty.  If something is visible on it, or if there is none, then
the report is the right one.  If it holds blanks only (`BlankFirst`), then those blanks are
reported, whatever the other stream has, and no diagnostic comes of them (`report_timeout`).

The report that the time was over does lead to a diagnostic (`extract?_timeoutText`).  Its
number is written without blanks and colons (`Layout.plain_of_mem_write`), so that no marker
stands in it and the line does not end there.
-/

namespace SchemaEditor
open Text

/-! ## The characters of numbers -/

/-- Neither a blank nor a colon. -/
def CodePoint.Plain (c : CodePoint) : Prop := isBlank c = false ∧ c ≠ .char ':'

instance : DecidablePred CodePoint.Plain := fun c =>
  inferInstanceAs (Decidable (isBlank c = false ∧ c ≠ .char ':'))

namespace Layout
open CodePoint (Plain)

theorem plain_of_mem_ofNat (n : Nat) : ∀ c ∈ Text.ofNat n, Plain c := by
  intro c hc
  obtain ⟨digit, hdigit, rfl⟩ := List.mem_map.mp hc
  have hrange : 48 ≤ digit.toNat ∧ digit.toNat ≤ 57 := by
    simpa [Char.isDigit, UInt32.le_iff_toNat_le] using
      Nat.isDigit_of_mem_toDigits (by omega) (Nat.le_refl 10) hdigit
  constructor
  · rw [isBlank, decide_eq_false_iff_not, CodePoint.toNat_char]
    omega
  · rintro hcolon
    rw [CodePoint.char.inj hcolon] at hrange
    exact absurd hrange (by decide)

theorem plain_of_mem_zeros (n : Nat) : ∀ c ∈ zeros n, Plain c := by
  intro c hc
  rw [List.eq_of_mem_replicate hc]
  decide

theorem plain_of_mem_sign (negative : Bool) : ∀ c ∈ sign negative, Plain c := by
  cases negative <;> decide

variable {l : Layout} {digits : Text} {place : Int}

theorem plain_of_mem_positional (h : ∀ c ∈ digits, Plain c) :
    ∀ c ∈ l.positional digits place, Plain c := by
  have hpoint : ∀ c ∈ Text.ofString ".", Plain c := by decide
  have hzero : ∀ c ∈ Text.ofString "0.", Plain c := by decide
  have hend : ∀ c ∈ (if l.keepPoint then Text.ofString ".0" else []), Plain c := by
    split_ifs <;> decide
  unfold positional
  by_cases hsmall : place ≤ 0
  · rw [if_pos hsmall]
    simp only [List.forall_mem_append]
    exact ⟨⟨hzero, plain_of_mem_zeros _⟩, h⟩
  · rw [if_neg hsmall]
    by_cases hwhole : (digits.length : Int) ≤ place
    · rw [if_pos hwhole]
      simp only [List.forall_mem_append]
      exact ⟨⟨h, plain_of_mem_zeros _⟩, hend⟩
    · rw [if_neg hwhole]
      simp only [List.forall_mem_append]
      exact ⟨⟨fun c hc => h c (List.mem_of_mem_take hc), hpoint⟩,
        fun c hc => h c (List.mem_of_mem_drop hc)⟩

theorem plain_of_mem_scientific (h : ∀ c ∈ digits, Plain c) :
    ∀ c ∈ scientific digits place, Plain c := by
  have hpower : ∀ c ∈ Text.ofString (if place - 1 < 0 then "e-" else "e+"), Plain c := by
    split_ifs <;> decide
  have hrest : ∀ c ∈ (if digits.length ≤ 1 then [] else Text.ofString "." ++ digits.drop 1),
      Plain c := by
    split_ifs
    · simp
    · exact List.forall_mem_append.mpr ⟨by decide, fun c hc => h c (List.mem_of_mem_drop hc)⟩
  unfold scientific
  simp only [List.forall_mem_append]
  exact ⟨⟨⟨⟨fun c hc => h c (List.mem_of_mem_take hc), hrest⟩, hpower⟩, plain_of_mem_zeros _⟩,
    plain_of_mem_ofNat _⟩

/-- **Numbers are written without blanks and colons.** -/
theorem plain_of_mem_write (l : Layout) (x : Binary64) : ∀ c ∈ l.write x, Plain c := by
  cases x with
  | nan =>
    rw [write]
    decide
  | infinite negative =>
    rw [write, List.forall_mem_append]
    exact ⟨plain_of_mem_sign negative, by decide⟩
  | finite negative mantissa exponent =>
    rw [write, List.forall_mem_append]
    refine ⟨plain_of_mem_sign negative, ?_⟩
    split_ifs
    · decide
    · decide
    · unfold writeDecimal
      dsimp only
      split_ifs
      · exact plain_of_mem_positional (plain_of_mem_ofNat _)
      · exact plain_of_mem_scientific (plain_of_mem_ofNat _)

end Layout

namespace Validator
variable (v : Validator)

/-! ## The message of a run that was stopped -/

/-- What is said of a run that was stopped with nothing captured. -/
def timeoutMessage : Text :=
  ofString "validation timed out after " ++ Layout.brief.write v.timeout ++ ofString " seconds"

theorem timeoutText_eq : v.timeoutText = ofString "Error:" ++ .char ' ' :: v.timeoutMessage := by
  simp [timeoutText, timeoutMessage, ofString]

theorem firstLine_timeoutMessage : Message.firstLine v.timeoutMessage = v.timeoutMessage := by
  have hnumber : ∀ c ∈ Layout.brief.write v.timeout, c ≠ .char '\n' := by
    rintro c hc rfl
    exact absurd (Layout.plain_of_mem_write _ _ _ hc).1 (by decide)
  have hfeed : ∀ c ∈ v.timeoutMessage, c ≠ .char '\n' := by
    unfold timeoutMessage
    simp only [List.forall_mem_append]
    exact ⟨⟨by decide, hnumber⟩, by decide⟩
  refine List.takeWhile_eq_self_iff.mpr fun c hc => ?_
  simpa using hfeed c hc

/-- The message starts with a letter and ends with one. -/
theorem trim_timeoutMessage : trim v.timeoutMessage = v.timeoutMessage := by
  have hfirst : v.timeoutMessage.head? = some (.char 'v') := rfl
  have hlast : v.timeoutMessage =
      (ofString "validation timed out after " ++ Layout.brief.write v.timeout ++
        ofString " second") ++ [.char 's'] := by
    simp [timeoutMessage, ofString]
  refine trim_eq_self_iff.mpr ⟨?_, ?_⟩
  · intro c hc
    rw [hfirst, Option.mem_some_iff] at hc
    rw [← hc]
    decide
  · rw [hlast]
    exact trimEnd_concat_of_visible (by decide) _

theorem not_mem_timeoutMessage : .char ':' ∉ v.timeoutMessage := by
  have hnumber : .char ':' ∉ Layout.brief.write v.timeout := fun hcolon =>
    (Layout.plain_of_mem_write _ _ _ hcolon).2 rfl
  have hfront : .char ':' ∉ ofString "validation timed out after " := by decide
  have hback : .char ':' ∉ ofString " seconds" := by decide
  simp only [timeoutMessage, List.mem_append, not_or]
  exact ⟨⟨hfront, hnumber⟩, hback⟩

/-- **The time that was over is the message of its report.** -/
theorem extract?_timeoutText : Message.extract? v.timeoutText = some v.timeoutMessage := by
  have hcause : firstAfter? Message.causeMarker v.timeoutText = none := by
    rw [timeoutText_eq, firstAfter?_append_of_apart (by decide) (by decide)]
    refine firstAfter?_of_not_mem (by decide) ?_
    rw [List.mem_cons, not_or]
    exact ⟨by decide, v.not_mem_timeoutMessage⟩
  have herror : firstAfter? Message.errorMarker v.timeoutText =
      some (.char ' ' :: v.timeoutMessage) := by
    rw [timeoutText_eq]
    exact firstAfter?_append_of_fold (by decide) (by decide) _
  have hstart : trimStart (.char ' ' :: v.timeoutMessage) = v.timeoutMessage := by
    rw [trimStart_cons_of_blank isBlank_space]
    exact trimStart_cons_of_visible (by decide) _
  have hne : v.timeoutMessage ≠ [] := List.cons_ne_nil _ _
  rw [Message.extract?_of_no_cause (by simp [hcause]), Message.errorMessage?, herror,
    Option.bind_some, Message.messageOf?, hstart, if_neg hne, firstLine_timeoutMessage,
    trim_timeoutMessage]

theorem diagnose_timeoutText (lines : List Text) :
    diagnose (some v.timeoutText) lines =
      [⟨locate v.timeoutMessage lines, v.timeoutMessage, .error, Diagnostic.ownSource⟩] := by
  rw [diagnose, Option.bind_some, extract?_timeoutText]

/-! ## What counts of the captured output -/

/-- The first stream that is not empty, the error stream before the other one. -/
def firstStream (stdout stderr : Captured) : Text := firstNonEmpty stderr.toText stdout.toText

/-- The first stream that is not empty holds blanks only. -/
def BlankFirst (stdout stderr : Captured) : Prop :=
  firstStream stdout stderr ≠ [] ∧ isBlankText (firstStream stdout stderr) = true

instance (stdout stderr : Captured) : Decidable (BlankFirst stdout stderr) :=
  inferInstanceAs (Decidable (_ ∧ _))

/-- Nothing visible was captured on either stream. -/
def Unseen (stdout stderr : Captured) : Prop :=
  isBlankText stderr.toText = true ∧ isBlankText stdout.toText = true

instance (stdout stderr : Captured) : Decidable (Unseen stdout stderr) :=
  inferInstanceAs (Decidable (_ ∧ _))

variable {stdout stderr : Captured}

theorem report_timeout_of_captured (h : firstStream stdout stderr ≠ []) :
    v.report (.timeout stdout stderr) = .ok (some (firstStream stdout stderr)) := by
  rw [report, ← firstStream, firstNonEmpty, if_neg h]

theorem report_timeout_of_nothing (h : firstStream stdout stderr = []) :
    v.report (.timeout stdout stderr) = .ok (some v.timeoutText) := by
  rw [report, ← firstStream, firstNonEmpty, if_pos h]

theorem report_exit {code : Int} (hcode : code ≠ 0) (stdout stderr : Captured) :
    v.report (.exit code stdout stderr) =
      .ok (some (if isBlankText stderr.toText then stdout.toText else stderr.toText)) := by
  have hfailed : ¬ (code = 0 ∧ isBlankText stderr.toText = true) := fun h => hcode h.1
  rw [report, if_neg hfailed]
  split_ifs <;> rfl

/-- The streams agree with what is visible on them unless a blank one comes first. -/
theorem firstStream_eq_iff (h : ¬ Unseen stdout stderr) :
    firstStream stdout stderr =
        (if isBlankText stderr.toText then stdout.toText else stderr.toText) ↔
      ¬ BlankFirst stdout stderr := by
  unfold BlankFirst firstStream firstNonEmpty
  unfold Unseen at h
  by_cases hempty : stderr.toText = []
  · have hblank : isBlankText ([] : Text) = true := rfl
    rw [hempty] at h ⊢
    rw [if_pos rfl, if_pos hblank]
    exact iff_of_true rfl fun hfirst => h ⟨hblank, hfirst.2⟩
  · rw [if_neg hempty]
    by_cases hblank : isBlankText stderr.toText = true
    · rw [if_pos hblank]
      refine iff_of_false ?_ (not_not_intro ⟨hempty, hblank⟩)
      intro hsame
      exact h ⟨hblank, hsame ▸ hblank⟩
    · rw [if_neg hblank]
      exact iff_of_true rfl fun hfirst => hblank hfirst.2

theorem isBlankText_firstStream (h : Unseen stdout stderr) :
    isBlankText (firstStream stdout stderr) = true := by
  unfold firstStream firstNonEmpty
  split_ifs
  · exact h.2
  · exact h.1

theorem unseen_of_nothing (h : firstStream stdout stderr = []) : Unseen stdout stderr := by
  unfold firstStream firstNonEmpty at h
  split_ifs at h with hempty
  · rw [Unseen, hempty, h]
    exact ⟨rfl, rfl⟩
  · exact absurd h hempty

/-- Where nothing is visible, nothing at all was captured unless a blank stream comes first. -/
theorem firstStream_eq_nil_iff (h : Unseen stdout stderr) :
    firstStream stdout stderr = [] ↔ ¬ BlankFirst stdout stderr := by
  constructor
  · intro hnothing hfirst
    exact hfirst.1 hnothing
  · intro hnot
    by_contra hcaptured
    exact hnot ⟨hcaptured, isBlankText_firstStream h⟩

/-- **A run that was stopped is reported like one that failed unless a blank stream comes
first.**  If something visible was captured, then the two reports are the same, and if nothing
visible was, then the report says that the time was over, which is a diagnostic.  But if the
first stream that is not empty holds blanks only, then neither holds: those blanks are reported,
and there is no diagnostic. -/
theorem report_timeout {code : Int} (hcode : code ≠ 0) (stdout stderr : Captured) :
    (¬ Unseen stdout stderr →
        (v.report (.timeout stdout stderr) = v.report (.exit code stdout stderr) ↔
          ¬ BlankFirst stdout stderr)) ∧
      (Unseen stdout stderr →
        (v.report (.timeout stdout stderr) = .ok (some v.timeoutText) ↔
          ¬ BlankFirst stdout stderr)) ∧
      (∀ lines, diagnose (some v.timeoutText) lines =
        [⟨locate v.timeoutMessage lines, v.timeoutMessage, .error, Diagnostic.ownSource⟩]) ∧
      (BlankFirst stdout stderr →
        v.report (.timeout stdout stderr) = .ok (some (firstStream stdout stderr)) ∧
          ∀ lines, diagnose (some (firstStream stdout stderr)) lines = []) := by
  refine ⟨fun hseen => ?_, fun hunseen => ?_, v.diagnose_timeoutText, fun hfirst => ?_⟩
  · have hcaptured : firstStream stdout stderr ≠ [] := fun hnothing =>
      hseen (unseen_of_nothing hnothing)
    rw [report_timeout_of_captured v hcaptured, report_exit v hcode, Except.ok.injEq,
      Option.some.injEq]
    exact firstStream_eq_iff hseen
  · rw [← firstStream_eq_nil_iff hunseen]
    constructor
    · intro hreport
      by_contra hcaptured
      rw [report_timeout_of_captured v hcaptured, Except.ok.injEq, Option.some.injEq] at hreport
      have hblank := isBlankText_firstStream hunseen
      rw [hreport] at hblank
      -- the report has a message, so that something is visible in it
      have hmessage := v.extract?_timeoutText
      rw [Message.extract?_of_blank (List.all_eq_true.mp hblank)] at hmessage
      cases hmessage
    · exact report_timeout_of_nothing v
  · refine ⟨report_timeout_of_captured v hfirst.1, fun lines => ?_⟩
    rw [diagnose, Option.bind_some, Message.extract?_of_blank (List.all_eq_true.mp hfirst.2)]

/-- A run with octets on its other stream, one with no output, and one whose error stream starts
with a blank line before its other stream has the error. -/
theorem report_timeout_runs :
    let v : Validator := ⟨standardCommand, standardTimeout⟩
    let octets : Captured := .octets (Utf8.encode (ofString "Error: boom"))
    v.report (.timeout octets .nothing) = v.report (.exit 1 octets .nothing) ∧
      v.report (.timeout .nothing (.text [])) = .ok (some v.timeoutText) ∧
      v.report (.timeout octets (.text ['\n'])) = .ok (some ['\n']) ∧
      diagnose (some ['\n']) [] = [] := by
  intro v octets
  have hcode : (1 : Int) ≠ 0 := by decide
  have hseen := (v.report_timeout hcode octets .nothing).1
  have hunseen := (v.report_timeout hcode .nothing (.text [])).2.1
  have hfirst := (v.report_timeout hcode octets (.text ['\n'])).2.2.2 (by decide)
  exact ⟨(hseen (by decide)).mpr (by decide), (hunseen (by decide)).mpr (by decide), hfirst.1,
    hfirst.2 []⟩

/-- A blank line on the error stream hides the error on the other one. -/
theorem blank_line_hides_error :
    let v : Validator := ⟨standardCommand, standardTimeout⟩
    let stdout : Captured := .text (ofString "Error: boom")
    let stderr : Captured := .text ['\n']
    ¬ Unseen stdout stderr ∧
      v.report (.exit 1 stdout stderr) = .ok (some (ofString "Error: boom")) ∧
      v.report (.timeout stdout stderr) ≠ v.report (.exit 1 stdout stderr) ∧
      diagnose (some (ofString "Error: boom")) [] ≠ [] := by
  decide

end Validator

end SchemaEditor
