import Mathlib.Order.Bounds.Basic
import SchemaEditor.Diagnostic.Locate
import SchemaEditor.Proofs.Line

/-!
# The place of a message

A message is located by scans that look for shapes of lines and count columns from different
views of a line: its trimmed text, its leading blanks, its length.  This module says what the
scans look for without scanning (`Complaint.Candidate`, `Complaint.fits_iff`), and that the
columns they count are always in order and inside the line, whether they are checked or not
(`ofColumns?_columns`).

So every message has a place in every document (`locate_first_candidate`).  The first complaint
that the message shows decides about it alone: the place is the first candidate line of that
complaint, and the start of the document if there is none.
-/

namespace SchemaEditor
open Text Locate

/-! ## Shapes of lines -/

namespace Locate

/-- Two words with blanks between them and nothing else. -/
def TwoWords (t : Text) : Prop :=
  ∃ first gap second, t = first ++ (gap ++ second) ∧ first ≠ [] ∧ gap ≠ [] ∧ second ≠ [] ∧
    (∀ c ∈ first, isWord c = true) ∧ (∀ c ∈ gap, isBlank c = true) ∧ ∀ c ∈ second, isWord c = true

/-- The letters of the keyword, blanks, and a word, anywhere in the line. -/
def NamesStruct (t : Text) : Prop :=
  ∃ front back, t = front ++ (Line.structWord ++ back) ∧ GapThenWord back

theorem startsNamed_iff {t : Text} :
    namesStruct.startsNamed (after? Line.structWord t) = true ↔
      ∃ back, t = Line.structWord ++ back ∧ GapThenWord back := by
  cases hafter : after? Line.structWord t with
  | none =>
    have hno : ∀ back, t ≠ Line.structWord ++ back := by
      intro back hback
      rw [Line.after?_eq_some_iff.mpr hback] at hafter
      cases hafter
    simp [namesStruct.startsNamed, hno]
  | some back =>
    obtain rfl := Line.after?_eq_some_iff.mp hafter
    cases back with
    | nil => simp [namesStruct.startsNamed, not_gapThenWord_nil]
    | cons c rest => simp [namesStruct.startsNamed, gapThenWord_cons_iff]

theorem namesStruct_iff {t : Text} : namesStruct t = true ↔ NamesStruct t := by
  induction t with
  | nil => simp [namesStruct, NamesStruct, Line.structWord]
  | cons c rest ih =>
    rw [namesStruct, Bool.or_eq_true, startsNamed_iff, ih]
    constructor
    · rintro (⟨back, hback, hword⟩ | ⟨front, back, rfl, hword⟩)
      · exact ⟨[], back, hback, hword⟩
      · exact ⟨c :: front, back, rfl, hword⟩
    · rintro ⟨front, back, hsplit, hword⟩
      cases front with
      | nil => exact Or.inl ⟨back, hsplit, hword⟩
      | cons d front =>
        rw [List.cons_append, List.cons.injEq] at hsplit
        exact Or.inr ⟨front, back, hsplit.2, hword⟩

theorem isTwoWords_iff {t : Text} : isTwoWords t = true ↔ TwoWords t := by
  unfold isTwoWords
  constructor
  · intro h
    split at h
    · rename_i x word c rest hword hrest
      rw [Bool.and_eq_true, Bool.and_eq_true] at h
      obtain ⟨hblank, hvisible, hall⟩ := h
      refine ⟨x :: word, c :: leadingBlanks rest, trimStart rest, ?_, by simp, by simp, ?_,
        fun y hy => List.mem_takeWhile_imp (hword ▸ hy), ?_, List.all_eq_true.mp hall⟩
      · have hskip : c :: leadingBlanks rest ++ trimStart rest = c :: rest := by
          rw [List.cons_append, leadingBlanks_append_trimStart]
        rw [hskip, ← hword, ← hrest, List.takeWhile_append_dropWhile]
      · simpa using hvisible
      · exact List.forall_mem_cons.mpr ⟨hblank, fun b hb => List.mem_takeWhile_imp hb⟩
    · cases h
  · rintro ⟨first, gap, second, rfl, hfirst, hgap, hsecond, hword, hblank, hall⟩
    obtain ⟨x, first, rfl⟩ := List.exists_cons_of_ne_nil hfirst
    obtain ⟨c, gap, rfl⟩ := List.exists_cons_of_ne_nil hgap
    obtain ⟨y, second, rfl⟩ := List.exists_cons_of_ne_nil hsecond
    have hc : isBlank c = true := hblank c (List.mem_cons_self ..)
    have hstop : ∀ x ∈ (c :: (gap ++ y :: second)).head?, isWord x = false := by
      simpa using isWord_of_isBlank hc
    have hskip : trimStart (gap ++ y :: second) = y :: second :=
      trimStart_append_word (fun b hb => hblank b (List.mem_cons_of_mem _ hb))
        ⟨y, rfl, hall y (List.mem_cons_self ..)⟩
    have hcons : c :: gap ++ y :: second = c :: (gap ++ y :: second) := List.cons_append
    rw [hcons, takeWhile_isWord hword hstop, dropWhile_isWord hword hstop]
    simp only [hskip, hc, Bool.true_and, Bool.and_eq_true]
    exact ⟨rfl, List.all_eq_true.mpr hall⟩

/-! ## The first line that meets a condition -/

variable {condition : Text → Bool} {n found : Nat} {ls : List Text} {line : Text}

theorem firstLine?_append_cons {before : List Text} (hbefore : ∀ l ∈ before, condition l = false)
    (hline : condition line = true) (n : Nat) (after : List Text) :
    firstLine? condition n (before ++ line :: after) = some (n + before.length, line) := by
  induction before generalizing n with
  | nil => simp [firstLine?, hline]
  | cons l before ih =>
    have hl : condition l = false := hbefore l (List.mem_cons_self ..)
    rw [List.cons_append, firstLine?, hl, if_neg (by simp),
      ih (fun k hk => hbefore k (List.mem_cons_of_mem _ hk)), List.length_cons]
    congr 2
    omega

theorem exists_of_firstLine? (h : firstLine? condition n ls = some (found, line)) :
    ∃ before after, ls = before ++ line :: after ∧ found = n + before.length ∧
      (∀ l ∈ before, condition l = false) ∧ condition line = true := by
  induction ls generalizing n with
  | nil => cases h
  | cons l rest ih =>
    rw [firstLine?] at h
    split_ifs at h with hl
    · obtain ⟨rfl, rfl⟩ := Prod.mk.inj (Option.some.inj h)
      exact ⟨[], rest, rfl, rfl, by simp, hl⟩
    · obtain ⟨before, after, rfl, rfl, hbefore, hline⟩ := ih h
      refine ⟨l :: before, after, rfl, ?_, ?_, hline⟩
      · rw [List.length_cons]
        omega
      · exact List.forall_mem_cons.mpr ⟨Bool.eq_false_iff.mpr hl, hbefore⟩

theorem firstLine?_eq_none_iff :
    firstLine? condition n ls = none ↔ ∀ l ∈ ls, condition l = false := by
  induction ls generalizing n with
  | nil => simp [firstLine?]
  | cons l rest ih =>
    rw [firstLine?, List.forall_mem_cons]
    by_cases hl : condition l = true
    · simp [hl]
    · simp [hl, ih]

/-- Counted from 0, the line that is found stands at the least number of a line that meets the
condition. -/
theorem firstLine?_eq_some_iff :
    firstLine? condition 0 ls = some (found, line) ↔
      IsLeast {i | ∃ l, ls[i]? = some l ∧ condition l = true} found ∧ ls[found]? = some line := by
  constructor
  · intro h
    obtain ⟨before, after, rfl, rfl, hbefore, hline⟩ := exists_of_firstLine? h
    have hat : (before ++ line :: after)[0 + before.length]? = some line := by simp
    refine ⟨⟨⟨line, hat, hline⟩, ?_⟩, hat⟩
    rintro i ⟨l, hl, hcondition⟩
    by_contra hlt
    rw [List.getElem?_append_left (by omega)] at hl
    rw [hbefore l (List.mem_of_getElem? hl)] at hcondition
    cases hcondition
  · rintro ⟨⟨⟨l, hl, hcondition⟩, hleast⟩, hline⟩
    obtain rfl : l = line := Option.some.inj (hl.symm.trans hline)
    have hlt : found < ls.length := (List.getElem?_eq_some_iff.mp hl).1
    have hbefore : ∀ k ∈ ls.take found, condition k = false := by
      intro k hk
      obtain ⟨i, hi, rfl⟩ := List.mem_take_iff_getElem.mp hk
      refine Bool.eq_false_iff.mpr fun hcontra => ?_
      have hge : found ≤ i := hleast ⟨_, List.getElem?_eq_getElem (by omega), hcontra⟩
      omega
    have hsplit : ls = ls.take found ++ l :: ls.drop (found + 1) := by
      rw [← (List.getElem?_eq_some_iff.mp hl).2, List.getElem_cons_drop, List.take_append_drop]
    rw [hsplit, firstLine?_append_cons hbefore hcondition, List.length_take_of_le hlt.le,
      Nat.zero_add]

end Locate

/-! ## Checked columns -/

/-- The range of one line between two columns, if they are columns and in order. -/
def Range.ofColumns? (line start stop : Int) : Except RangeError Range := do
  let first ← Position.ofInts? line start
  let last ← Position.ofInts? line stop
  Range.ofPositions? first last

theorem Position.ofInts?_natCast (line column : Nat) :
    Position.ofInts? line column = .ok ⟨line, column⟩ := by
  have hnot : ¬ ((line : Int) < 0 ∨ (column : Int) < 0) := by omega
  rw [Position.ofInts?, if_neg hnot, Int.toNat_natCast, Int.toNat_natCast]

theorem Range.ofColumns?_natCast (line column width : Nat) :
    Range.ofColumns? line column (column + width) = .ok (Range.onLine line column width) := by
  rw [Range.ofColumns?, ← Int.natCast_add, Position.ofInts?_natCast, Position.ofInts?_natCast]
  exact dif_pos (Position.le_of_column_le line (Nat.le_add_right column width))

namespace Complaint

/-- The columns between which a complaint points at a line, as they are counted: how far the
line is longer than its trimmed text, or back from its end. -/
def columns (c : Complaint) (line : Text) : Int × Int :=
  match c with
  | .missingColon =>
      let column := (line.length : Int) - (trimStart line).length
      (column, column + 1)
  | .missingSemicolon | .missingBrace => (max ((line.length : Int) - 1) 0, line.length)

theorem columns_firstVisible (line : Text) :
    (line.length : Int) - (trimStart line).length = (leadingBlanks line).length := by
  have hlength := congrArg List.length (leadingBlanks_append_trimStart line)
  rw [List.length_append] at hlength
  omega

/-- **The counted columns pass every check**, on every line. -/
theorem ofColumns?_columns (c : Complaint) (n : Nat) (line : Text) :
    Range.ofColumns? n (c.columns line).1 (c.columns line).2 = .ok (c.mark n line) := by
  have hlast : Range.ofColumns? n (max ((line.length : Int) - 1) 0) line.length =
      .ok (lastCharacter n line) := by
    have hstart : max ((line.length : Int) - 1) 0 = (line.length - 1 : Nat) := by omega
    have hstop : (line.length : Int) = (line.length - 1 : Nat) + (min 1 line.length : Nat) := by
      omega
    rw [hstart, hstop]
    exact Range.ofColumns?_natCast n (line.length - 1) (min 1 line.length)
  cases c with
  | missingColon =>
    simp only [columns, columns_firstVisible]
    exact Range.ofColumns?_natCast n _ 1
  | missingSemicolon => exact hlast
  | missingBrace => exact hlast

/-! ## Candidates -/

/-- The shape of a line that could have caused the complaint. -/
def Candidate : Complaint → Text → Prop
  | .missingColon, line =>
      .char ':' ∉ trim line ∧ TwoWords (trim line) ∧ Line.kind false (trim line) ≠ .declaration
  | .missingSemicolon, line =>
      .char ':' ∈ line ∧ (trim line).getLast? ≠ some (.char ';') ∧
        (trim line).getLast? ≠ some (.char '{')
  | .missingBrace, line => NamesStruct line ∧ .char '{' ∉ line

theorem fits_iff {c : Complaint} {line : Text} : c.fits line = true ↔ c.Candidate line := by
  cases c with
  | missingColon => simp [fits, lacksColon, Candidate, isTwoWords_iff, and_assoc]
  | missingSemicolon => simp [fits, lacksSemicolon, Candidate, and_assoc]
  | missingBrace => simp [fits, lacksBrace, Candidate, namesStruct_iff]

/-- The numbers of the lines that could have caused the complaint. -/
def candidates (c : Complaint) (lines : List Text) : Set Nat :=
  {n | ∃ line, lines[n]? = some line ∧ c.Candidate line}

/-- Every candidate has something visible. -/
theorem Candidate.visible {c : Complaint} {line : Text} (h : c.Candidate line) :
    trimStart line ≠ [] := by
  have hmem : ∀ {x : CodePoint}, isBlank x = false → x ∈ line → trimStart line ≠ [] := by
    intro x hx hxline hblank
    rw [trimStart_eq_nil_iff.mp hblank x hxline] at hx
    cases hx
  cases c with
  | missingColon =>
    obtain ⟨-, ⟨first, back, second, hsplit, hfirst, -, -, hword, -⟩, -⟩ := h
    obtain ⟨x, first, rfl⟩ := List.exists_cons_of_ne_nil hfirst
    refine hmem (isBlank_of_isWord (hword x (List.mem_cons_self ..))) (mem_of_mem_trim ?_)
    simp [hsplit]
  | missingSemicolon => exact hmem (by decide) h.1
  | missingBrace =>
    obtain ⟨⟨front, back, rfl, -⟩, -⟩ := h
    exact hmem (x := .char 's') (by decide) (by simp [Line.structWord])

/-- The lower-cased message has a marker of the complaint in it. -/
def Shows (c : Complaint) (message : Text) : Prop := ∃ marker ∈ c.markers, marker <:+: lower message

theorem isIn_iff {c : Complaint} {message : Text} :
    c.isIn (lower message) = true ↔ c.Shows message := by
  simp only [isIn, hasAnyPart, Shows, List.any_eq_true, hasPart_iff_isInfix]

/-- The complaint is the first that the message shows. -/
def Decides (c : Complaint) (message : Text) : Prop :=
  ∃ before after, Complaint.all = before ++ c :: after ∧ c.Shows message ∧
    ∀ earlier ∈ before, ¬ earlier.Shows message

theorem ofMessage?_eq_some_iff {c : Complaint} {message : Text} :
    ofMessage? message = some c ↔ c.Decides message := by
  rw [ofMessage?, List.find?_eq_some_iff_append, isIn_iff]
  simp only [Bool.not_eq_true', ← Bool.not_eq_true, isIn_iff]
  constructor
  · rintro ⟨hshows, before, after, hall, hbefore⟩
    exact ⟨before, after, hall, hshows, hbefore⟩
  · rintro ⟨before, after, hall, hshows, hbefore⟩
    exact ⟨hshows, before, after, hall, hbefore⟩

theorem ofMessage?_eq_none_iff {message : Text} :
    ofMessage? message = none ↔ ∀ c : Complaint, ¬ c.Shows message := by
  simp only [ofMessage?, List.find?_eq_none, isIn_iff]
  exact ⟨fun h c => h c (by cases c <;> decide), fun h c _ => h c⟩

theorem place?_eq_some_iff {c : Complaint} {lines : List Text} {r : Range} :
    c.place? lines = some r ↔
      ∃ n line, IsLeast (c.candidates lines) n ∧ lines[n]? = some line ∧ c.mark n line = r := by
  simp only [place?, Option.map_eq_some_iff, Prod.exists, firstLine?_eq_some_iff, fits_iff,
    candidates, and_assoc]

theorem place?_eq_none_iff {c : Complaint} {lines : List Text} :
    c.place? lines = none ↔ ∀ line ∈ lines, ¬ c.Candidate line := by
  simp only [place?, Option.map_eq_none_iff, firstLine?_eq_none_iff, ← Bool.not_eq_true, fits_iff]

end Complaint

/-! ## Inside the document -/

/-- The range lies on one line of the document, with its columns in order and none behind the
end of the line. -/
structure Range.Inside (r : Range) (lines : List Text) : Prop where
  oneLine : r.stop.line = r.start.line
  columns_le : r.start.column ≤ r.stop.column
  exists_line : ∃ line, lines[r.start.line]? = some line ∧ r.stop.column ≤ line.length

theorem Range.inside_onLine {n column width : Nat} {lines : List Text} {line : Text}
    (hline : lines[n]? = some line) (hle : column + width ≤ line.length) :
    (Range.onLine n column width).Inside lines :=
  ⟨rfl, Nat.le_add_right column width, line, hline, hle⟩

theorem Complaint.start_line_mark (c : Complaint) (n : Nat) (line : Text) :
    (c.mark n line).start.line = n := by
  cases c <;> rfl

/-- A complaint points at a character of a line that has something visible. -/
theorem Complaint.mark_inside (c : Complaint) {n : Nat} {lines : List Text} {line : Text}
    (hline : lines[n]? = some line) (hvisible : trimStart line ≠ []) :
    (c.mark n line).Inside lines ∧ (c.mark n line).isEmpty = false := by
  have hlength := congrArg List.length (leadingBlanks_append_trimStart line)
  have hpos := List.length_pos_iff.mpr hvisible
  rw [List.length_append] at hlength
  have hone : Nat.min 1 line.length = 1 := Nat.min_eq_left (by omega)
  have hempty : ∀ column, (Range.onLine n column 1).isEmpty = false := by
    simp [Range.isEmpty, Range.onLine]
  have hlast : (lastCharacter n line).Inside lines ∧ (lastCharacter n line).isEmpty = false := by
    rw [lastCharacter, hone]
    exact ⟨Range.inside_onLine hline (by omega), hempty _⟩
  cases c with
  | missingColon => exact ⟨Range.inside_onLine hline (by omega), hempty _⟩
  | missingSemicolon => exact hlast
  | missingBrace => exact hlast

theorem documentStart_inside (first : Text) (rest : List Text) :
    (documentStart (first :: rest)).Inside (first :: rest) :=
  Range.inside_onLine rfl (by simp)

theorem isEmpty_documentStart_iff {first : Text} {rest : List Text} :
    (documentStart (first :: rest)).isEmpty = true ↔ first = [] := by
  cases first <;> simp [documentStart, Range.isEmpty, Range.onLine]

/-- The columns of the start of the document pass every check. -/
theorem ofColumns?_documentStart (lines : List Text) :
    Range.ofColumns? 0 0 (min 1 ((lines.headD []).length : Int)) = .ok (documentStart lines) := by
  have hstop : min 1 ((lines.headD []).length : Int) =
      (0 : Nat) + (min 1 (lines.headD []).length : Nat) := by omega
  rw [hstop]
  exact Range.ofColumns?_natCast 0 0 (min 1 (lines.headD []).length)

/-- A message points at the mark of a candidate, or at the start of the document. -/
theorem locate_eq (message : Text) (lines : List Text) :
    (∃ (c : Complaint) (n : Nat) (line : Text),
        lines[n]? = some line ∧ c.Candidate line ∧ locate message lines = c.mark n line) ∨
      locate message lines = documentStart lines := by
  unfold locate
  cases Complaint.ofMessage? message with
  | none => exact Or.inr rfl
  | some c =>
    cases hplace : c.place? lines with
    | none => exact Or.inr (by simp [hplace])
    | some r =>
      obtain ⟨n, line, ⟨⟨l, hl, hcandidate⟩, -⟩, hline, rfl⟩ :=
        Complaint.place?_eq_some_iff.mp hplace
      obtain rfl := Option.some.inj (hl.symm.trans hline)
      exact Or.inl ⟨c, n, l, hl, hcandidate, by simp [hplace]⟩

section Place
variable (message : Text) {lines : List Text} (hne : lines ≠ [])
include hne

theorem locate_inside : (locate message lines).Inside lines := by
  rcases locate_eq message lines with ⟨c, n, line, hline, hcandidate, heq⟩ | heq
  · rw [heq]
    exact (c.mark_inside hline hcandidate.visible).1
  · obtain ⟨first, rest, rfl⟩ := List.exists_cons_of_ne_nil hne
    rw [heq]
    exact documentStart_inside first rest

theorem locate_of_isEmpty (h : (locate message lines).isEmpty = true) :
    locate message lines = documentStart lines ∧ lines.head? = some [] := by
  rcases locate_eq message lines with ⟨c, n, line, hline, hcandidate, heq⟩ | heq
  · rw [heq, (c.mark_inside hline hcandidate.visible).2] at h
    cases h
  · obtain ⟨first, rest, rfl⟩ := List.exists_cons_of_ne_nil hne
    rw [heq, isEmpty_documentStart_iff] at h
    exact ⟨heq, by rw [h, List.head?_cons]⟩

end Place

theorem locate_of_decides {c : Complaint} {message : Text} (h : c.Decides message)
    (lines : List Text) : locate message lines = (c.place? lines).getD (documentStart lines) := by
  rw [locate, Complaint.ofMessage?_eq_some_iff.mpr h]

/-- **The place of a message.**  It is inside every document with a line, and it covers a
character unless it is the start of a document whose first line is empty.  The complaint that
decides is followed to the least number of its candidates, and to the start of the document if
it has none, by columns that pass every check.  So an output gives one diagnostic at most, inside
the document. -/
theorem locate_first_candidate (message : Text) {lines : List Text} (hne : lines ≠ []) :
    (locate message lines).Inside lines ∧
      ((locate message lines).isEmpty = true →
        locate message lines = documentStart lines ∧ lines.head? = some []) ∧
      (∀ c : Complaint, c.Decides message →
        (∀ n line, IsLeast (c.candidates lines) n → lines[n]? = some line →
          (locate message lines).start.line = n ∧
            Range.ofColumns? n (c.columns line).1 (c.columns line).2 =
              .ok (locate message lines)) ∧
        ((∀ line ∈ lines, ¬ c.Candidate line) →
          locate message lines = documentStart lines)) ∧
      ((∀ c : Complaint, ¬ c.Shows message) → locate message lines = documentStart lines) ∧
      Range.ofColumns? 0 0 (min 1 ((lines.headD []).length : Int)) = .ok (documentStart lines) ∧
      ∀ output, (diagnose output lines).length ≤ 1 ∧
        ∀ d ∈ diagnose output lines, d.range.Inside lines := by
  refine ⟨locate_inside message hne, locate_of_isEmpty message hne, fun c hc => ⟨?_, ?_⟩, ?_,
    ofColumns?_documentStart lines, fun output => ?_⟩
  · intro n line hleast hline
    have hplace := Complaint.place?_eq_some_iff.mpr ⟨n, line, hleast, hline, rfl⟩
    rw [locate_of_decides hc, hplace, Option.getD_some]
    exact ⟨c.start_line_mark n line, c.ofColumns?_columns n line⟩
  · intro hnone
    rw [locate_of_decides hc, Complaint.place?_eq_none_iff.mpr hnone, Option.getD_none]
  · intro hnone
    rw [locate, Complaint.ofMessage?_eq_none_iff.mpr hnone]
  · unfold diagnose
    cases output.bind Message.extract? with
    | none => simp
    | some found => simpa using locate_inside found hne

/-- A message about a colon, in a document whose second line lacks one. -/
theorem locate_second_line :
    let message := ofString "Missing colon; a semicolon as well"
    let lines := [ofString "struct A \x7b", ofString "  key Text", ofString "\x7d"]
    lines ≠ [] ∧ Complaint.missingColon.Decides message ∧
      IsLeast (Complaint.missingColon.candidates lines) 1 ∧
      (locate message lines).Inside lines ∧ locate message lines = Range.onLine 1 2 1 := by
  intro message lines
  have hne : lines ≠ [] := by simp [lines]
  have hdecides : Complaint.missingColon.Decides message :=
    Complaint.ofMessage?_eq_some_iff.mp (by decide)
  have hplace : Complaint.missingColon.place? lines = some (Range.onLine 1 2 1) := by
    decide
  obtain ⟨n, line, hleast, hline, hmark⟩ := Complaint.place?_eq_some_iff.mp hplace
  obtain rfl : n = 1 := congrArg (fun r : Range => r.start.line) hmark
  obtain ⟨hinside, -, hfirst, -⟩ := locate_first_candidate message hne
  obtain ⟨-, hchecked⟩ := (hfirst .missingColon hdecides).1 1 line hleast hline
  rw [Complaint.ofColumns?_columns, hmark, Except.ok.injEq] at hchecked
  exact ⟨hne, hdecides, hleast, hinside, hchecked.symm⟩

end SchemaEditor
