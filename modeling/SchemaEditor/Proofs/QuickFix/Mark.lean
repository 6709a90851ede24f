import SchemaEditor.Proofs.Diagnostic.Locate
import SchemaEditor.Proofs.Document.Edit
import SchemaEditor.Proofs.Line
import SchemaEditor.QuickFix

/-!
# Missing marks

A message can ask for a colon or for a semicolon (`Mark.isAsked`).  Two functions then look at
the same lines: the complaint picks the first line that may lack the mark
(`Mark.isMissing`), and the rule looks for the place in that line where it belongs.  They
are written apart from each other and agree: a line that the complaint picks has a place
for the mark (`exists_fix`), which is the end of its first word or of its visible text
(`Mark.column`).  With the mark in that place the line lacks it no longer
(`isMissing_insert`).

For the colon this rests on how a picked line is spelled: blanks, a word, a blank, and
later another word (`exists_words_of_lacksColon`).
-/

namespace SchemaEditor
open Text

/-- The marks that a fix can put in. -/
inductive Mark where
  | colon
  | semicolon
  deriving DecidableEq, Repr

namespace Mark

/-- The complaint that the mark is missing. -/
def complaint : Mark → Complaint
  | colon => .missingColon
  | semicolon => .missingSemicolon

/-- The rule that puts the mark in. -/
def rule : Mark → FixRule
  | colon => .insertSeparator
  | semicolon => .insertTerminator

/-- The character of the mark. -/
def sign : Mark → CodePoint
  | colon => ':'
  | semicolon => ';'

theorem sign_ne_feed (mark : Mark) : .char '\n' ∉ [mark.sign] := by
  cases mark <;> decide

theorem sign_ne_return (mark : Mark) : .char '\r' ∉ [mark.sign] := by
  cases mark <;> decide

/-- The message asks for the mark, and for no mark that is tried before it. -/
def isAsked (mark : Mark) (message : Text) : Bool :=
  match mark with
  | colon => Complaint.missingColon.isIn (lower message)
  | semicolon =>
      Complaint.missingSemicolon.isIn (lower message) &&
        !Complaint.missingColon.isIn (lower message)

/-- The line may lack the mark. -/
def isMissing (mark : Mark) (line : Text) : Bool := mark.complaint.fits line

/-- The column at which the mark belongs: the end of the first word, or the end of the
visible text. -/
def column (mark : Mark) (line : Text) : Nat :=
  match mark with
  | colon =>
      (line.takeWhile (!isWord ·)).length +
        ((line.dropWhile (!isWord ·)).takeWhile isWord).length
  | semicolon => (trimEnd line).length

/-- The line with the mark put in. -/
def insert (mark : Mark) (line : Text) : Text :=
  Document.insertAt (mark.column line) [mark.sign] line

/-- The line with the mark put in if it may lack it. -/
def repair (mark : Mark) (line : Text) : Text :=
  if mark.isMissing line then mark.insert line else line

end Mark

/-! ## Two words -/

section Words
open FixRule (separatorColumn?)
open FixRule.separatorColumn? (wordFollows)
variable {lead word rest : Text}

theorem wordFollows_iff {t : Text} : wordFollows t = true ↔ GapThenWord t := by
  cases t with
  | nil => simp [wordFollows, not_gapThenWord_nil]
  | cons c rest => exact gapThenWord_cons_iff.symm

/-- A line that may lack its colon starts with a word, and behind blanks another one
follows. -/
theorem exists_words_of_lacksColon {line : Text} (h : Locate.lacksColon line = true) :
    ∃ lead word rest, line = lead ++ (word ++ rest) ∧ (∀ c ∈ lead, isBlank c = true) ∧
      word ≠ [] ∧ (∀ c ∈ word, isWord c = true) ∧ wordFollows rest = true := by
  rw [Locate.lacksColon, Bool.and_eq_true, Bool.and_eq_true, Locate.isTwoWords_iff] at h
  obtain ⟨first, gap, second, hspell, hfirst, hgap, hsecond, hword, hblank, hall⟩ := h.1.2
  obtain ⟨y, second, rfl⟩ := List.exists_cons_of_ne_nil hsecond
  -- the blanks behind the second word, which are trimmed before the words are counted
  obtain ⟨back, hback, -⟩ := exists_trimEnd_append (trimStart line)
  refine ⟨leadingBlanks line, first, gap ++ (y :: second ++ back), ?_,
    fun c hc => List.mem_takeWhile_imp hc, hfirst, hword, wordFollows_iff.mpr ?_⟩
  · have hsplit : trimStart line = first ++ (gap ++ (y :: second ++ back)) := by
      calc trimStart line = trim line ++ back := hback
        _ = first ++ (gap ++ (y :: second ++ back)) := by
            rw [hspell]
            simp only [List.append_assoc]
    rw [← hsplit, leadingBlanks_append_trimStart]
  · exact ⟨gap, y :: second ++ back, rfl, hgap, hblank, y, rfl, hall y (List.mem_cons_self ..)⟩

/-- What follows a word starts with a blank. -/
theorem head_of_wordFollows (h : wordFollows rest = true) :
    ∃ c back, rest = c :: back ∧ isWord c = false := by
  cases rest with
  | nil => cases h
  | cons c back =>
    rw [wordFollows, Bool.and_eq_true] at h
    exact ⟨c, back, rfl, isWord_of_isBlank h.1⟩

theorem boundary_of_wordFollows (h : wordFollows rest = true) :
    ∀ c ∈ rest.head?, isWord c = false := by
  obtain ⟨c, back, rfl, hc⟩ := head_of_wordFollows h
  simpa using hc

/-- The rule passes over blanks. -/
theorem separatorColumn?_append (hlead : ∀ c ∈ lead, isBlank c = true) (t : Text) :
    separatorColumn? (lead ++ t) = (separatorColumn? t).map (lead.length + ·) := by
  induction lead with
  | nil => simp
  | cons c lead ih =>
    have hc : isWord c = false := isWord_of_isBlank (hlead c (List.mem_cons_self ..))
    have hrest := ih fun x hx => hlead x (List.mem_cons_of_mem _ hx)
    rw [List.cons_append, separatorColumn?, hc, hrest, Bool.false_and, if_neg (by simp),
      Option.map_map]
    congr 1
    funext n
    simp only [Function.comp_apply, List.length_cons]
    omega

/-- The rule stops behind the first word, if another one follows. -/
theorem separatorColumn?_word (hne : word ≠ []) (hword : ∀ c ∈ word, isWord c = true)
    (h : wordFollows rest = true) : separatorColumn? (word ++ rest) = some word.length := by
  obtain ⟨c, word, rfl⟩ := List.exists_cons_of_ne_nil hne
  have htail : ∀ x ∈ word, isWord x = true := fun x hx => hword x (List.mem_cons_of_mem _ hx)
  have hstop := boundary_of_wordFollows h
  rw [List.cons_append, separatorColumn?, dropWhile_isWord htail hstop,
    takeWhile_isWord htail hstop, hword c (List.mem_cons_self ..), h]
  rfl

end Words

namespace Mark
variable {mark : Mark} {line : Text}

/-- Where the first word of a line ends. -/
theorem column_colon {lead word rest : Text} (hlead : ∀ c ∈ lead, isBlank c = true)
    (hne : word ≠ []) (hword : ∀ c ∈ word, isWord c = true)
    (h : FixRule.separatorColumn?.wordFollows rest = true) :
    colon.column (lead ++ (word ++ rest)) = lead.length + word.length := by
  have hpass : ∀ c ∈ lead, (!isWord c) = true := by
    intro c hc
    rw [isWord_of_isBlank (hlead c hc)]
    rfl
  obtain ⟨c, word, rfl⟩ := List.exists_cons_of_ne_nil hne
  have hstop : ¬ (!isWord c) = true := by simp [hword c (List.mem_cons_self ..)]
  rw [column, List.takeWhile_append_of_pos hpass, List.dropWhile_append_of_pos hpass,
    List.cons_append, List.takeWhile_cons_of_neg (p := (!isWord ·)) hstop,
    List.dropWhile_cons_of_neg (p := (!isWord ·)) hstop, ← List.cons_append,
    takeWhile_isWord hword (boundary_of_wordFollows h), List.append_nil]

/-! ## The place of the mark -/

/-- **The rule finds the place** in a line that may lack its colon. -/
theorem separatorColumn?_eq (h : colon.isMissing line = true) :
    FixRule.separatorColumn? line = some (colon.column line) := by
  obtain ⟨lead, word, rest, rfl, hlead, hne, hword, hfollows⟩ := exists_words_of_lacksColon h
  rw [separatorColumn?_append hlead, separatorColumn?_word hne hword hfollows,
    column_colon hlead hne hword hfollows]
  rfl

theorem column_le (h : mark.isMissing line = true) : mark.column line ≤ line.length := by
  cases mark with
  | colon =>
    obtain ⟨lead, word, rest, rfl, hlead, hne, hword, hfollows⟩ := exists_words_of_lacksColon h
    rw [column_colon hlead hne hword hfollows, List.length_append, List.length_append]
    omega
  | semicolon => exact (isPrefix_trimEnd line).length_le

/-- A line that may lack its semicolon has a colon in it. -/
theorem colon_mem_of_isMissing (h : semicolon.isMissing line = true) : .char ':' ∈ line := by
  have hlacks : Locate.lacksSemicolon line = true := h
  rw [Locate.lacksSemicolon, Bool.and_eq_true, Bool.and_eq_true] at hlacks
  exact List.contains_iff_mem.mp hlacks.1.1

/-- **A mark that has been put in is not missing.** -/
theorem isMissing_insert (h : mark.isMissing line = true) :
    mark.isMissing (mark.insert line) = false := by
  cases mark with
  | colon =>
    have hmem : CodePoint.char ':' ∈ trim (colon.insert line) :=
      mem_trim_of_visible isBlank_colon (by simp [insert, Document.insertAt, sign])
    simp [isMissing, complaint, Complaint.fits, Locate.lacksColon, hmem]
  | semicolon =>
    obtain ⟨back, hline, hback⟩ := exists_trimEnd_append line
    have hinsert : semicolon.insert line = trimEnd line ++ .char ';' :: back := by
      refine (congrArg (Document.insertAt (trimEnd line).length [.char ';']) hline).trans ?_
      rw [Document.insertAt_length, List.append_assoc]
      rfl
    have hlast : (trim (semicolon.insert line)).getLast? = some (.char ';') := by
      rw [hinsert]
      exact getLast?_trim_append_cons (by decide) _ hback
    simp [isMissing, complaint, Complaint.fits, Locate.lacksSemicolon, hlast]

theorem isMissing_repair (mark : Mark) (line : Text) :
    mark.isMissing (mark.repair line) = false := by
  unfold repair
  split_ifs with h
  · exact isMissing_insert h
  · simpa using h

/-! ## Messages that ask for a mark -/

variable {message : Text}

/-- The message is taken to complain about the mark it asks for. -/
theorem ofMessage?_eq (h : mark.isAsked message = true) :
    Complaint.ofMessage? message = some mark.complaint := by
  cases mark with
  | colon => exact List.find?_cons_of_pos h
  | semicolon =>
    rw [isAsked, Bool.and_eq_true, Bool.not_eq_true'] at h
    simp [Complaint.ofMessage?, Complaint.all, h, complaint]

/-- The rule for the mark is the first one that the message calls for. -/
theorem exists_rules (h : mark.isAsked message = true) :
    ∃ rules, (FixRule.all.filter fun r => r.triggers (lower message)) = mark.rule :: rules := by
  cases mark with
  | colon =>
    have hcolon : FixRule.insertSeparator.triggers (lower message) = true := h
    rw [FixRule.all, List.filter_cons, if_pos hcolon]
    exact ⟨_, rfl⟩
  | semicolon =>
    rw [isAsked, Bool.and_eq_true, Bool.not_eq_true'] at h
    have hcolon : ¬ FixRule.insertSeparator.triggers (lower message) = true := by
      simp [FixRule.triggers, h.2]
    have hsemicolon : FixRule.insertTerminator.triggers (lower message) = true := h.1
    rw [FixRule.all, List.filter_cons, if_neg hcolon, List.filter_cons, if_pos hsemicolon]
    exact ⟨_, rfl⟩

theorem build?_eq {d : Diagnostic} {lines : List Text} (hline : lines[d.line]? = some line)
    (h : mark.isMissing line = true) :
    ∃ title, mark.rule.build? lines d =
      some (title, ⟨Range.point d.line (mark.column line), [mark.sign]⟩) := by
  cases mark with
  | colon =>
    refine ⟨ofString "Add colon after field name", ?_⟩
    rw [rule, FixRule.build?, hline, Option.bind_some, FixRule.separatorFix?_eq,
      separatorColumn?_eq h]
    rfl
  | semicolon =>
    refine ⟨ofString "Add semicolon at end of line", ?_⟩
    have hvisible : isBlankText line = false := by
      refine Bool.eq_false_iff.mpr fun hblank => ?_
      have hcolon := List.all_eq_true.mp hblank _ (colon_mem_of_isMissing h)
      exact absurd hcolon (by decide)
    rw [rule, FixRule.build?, hline, Option.bind_some, FixRule.terminatorFix?, hvisible]
    rfl

/-- **The first fix for a message that asks for a mark** puts the mark into the line that
the diagnostic is anchored at, if the line may lack it. -/
theorem exists_fix {d : Diagnostic} {lines : List Text}
    (hsource : d.source = Diagnostic.ownSource) (hasked : mark.isAsked d.message = true)
    (hline : lines[d.line]? = some line) (h : mark.isMissing line = true) :
    ∃ title fixes, proposeFixes d lines =
      ⟨title, ⟨Range.point d.line (mark.column line), [mark.sign]⟩, d, true⟩ :: fixes := by
  obtain ⟨rules, hrules⟩ := exists_rules hasked
  obtain ⟨title, hbuilt⟩ := build?_eq hline h
  rw [proposeFixes, proposeFixesBy, if_pos hsource, hrules,
    List.filterMap_cons_some (f := fun r : FixRule => r.build? lines d) hbuilt]
  exact ⟨title, _, rfl⟩

/-! ## The first line that lacks a mark -/

/-- The first line that may lack the mark is given it, and the other lines stay. -/
def RepairsFirst (mark : Mark) (ls ls' : List Text) : Prop :=
  ∃ before line after, ls = before ++ line :: after ∧
    (∀ l ∈ before, mark.isMissing l = false) ∧ mark.isMissing line = true ∧
      ls' = before ++ mark.insert line :: after

theorem exists_first {ls : List Text} (h : ls.countP mark.isMissing ≠ 0) :
    ∃ before line after, ls = before ++ line :: after ∧
      (∀ l ∈ before, mark.isMissing l = false) ∧ mark.isMissing line = true := by
  obtain ⟨candidate, hmem, hcandidate⟩ := List.countP_pos_iff.mp (Nat.pos_of_ne_zero h)
  obtain ⟨line, hfirst⟩ :=
    Option.isSome_iff_exists.mp (List.find?_isSome.mpr ⟨candidate, hmem, hcandidate⟩)
  obtain ⟨hline, before, after, rfl, hbefore⟩ := List.find?_eq_some_iff_append.mp hfirst
  exact ⟨before, line, after, rfl, fun l hl => by simpa using hbefore l hl, hline⟩

/-- **A message that asks for a mark points at the first line that may lack it.** -/
theorem start_line_locate (hasked : mark.isAsked message = true) {before after : List Text}
    (hbefore : ∀ l ∈ before, mark.isMissing l = false) (hline : mark.isMissing line = true) :
    (locate message (before ++ line :: after)).start.line = before.length := by
  have hfirst : Locate.firstLine? mark.complaint.fits 0 (before ++ line :: after) =
      some (0 + before.length, line) := Locate.firstLine?_append_cons hbefore hline 0 after
  rw [locate, ofMessage?_eq hasked]
  simp only [Complaint.place?, hfirst, Option.map_some, Option.getD_some,
    Complaint.start_line_mark, Nat.zero_add]

/-- **An output that asks for a mark gives one diagnostic**, and the first fix for it puts
the mark into the first line that may lack it. -/
theorem exists_diagnostic {output : Text} (hmessage : Message.extract? output = some message)
    (hasked : mark.isAsked message = true) {before : List Text}
    (hbefore : ∀ l ∈ before, mark.isMissing l = false) (hline : mark.isMissing line = true)
    (after : List Text) :
    ∃ diagnostic fix fixes,
      diagnose (some output) (before ++ line :: after) = [diagnostic] ∧
        proposeFixes diagnostic (before ++ line :: after) = fix :: fixes ∧
          fix.patch = ⟨Range.point before.length (mark.column line), [mark.sign]⟩ := by
  let lines := before ++ line :: after
  let diagnostic : Diagnostic := ⟨locate message lines, message, .error, Diagnostic.ownSource⟩
  have hanchor : diagnostic.line = before.length := start_line_locate hasked hbefore hline
  have hdiagnose : diagnose (some output) lines = [diagnostic] := by
    simp only [diagnose, Option.bind_some, hmessage, diagnostic]
  have hat : lines[diagnostic.line]? = some line := by
    rw [hanchor]
    simp [lines]
  obtain ⟨title, fixes, hproposed⟩ := exists_fix (d := diagnostic) rfl hasked hat hline
  exact ⟨diagnostic, _, fixes, hdiagnose, hproposed, by rw [hanchor]⟩

section Repairs
variable {ls ls' : List Text}

theorem RepairsFirst.countP_eq (h : mark.RepairsFirst ls ls') :
    ls.countP mark.isMissing = ls'.countP mark.isMissing + 1 := by
  obtain ⟨before, line, after, rfl, -, hline, rfl⟩ := h
  simp only [List.countP_append, List.countP_cons, hline, isMissing_insert hline, if_true,
    Bool.false_eq_true, if_false]
  omega

/-- What is to be repaired comes to the same before and after. -/
theorem RepairsFirst.map_repair (h : mark.RepairsFirst ls ls') :
    ls'.map mark.repair = ls.map mark.repair := by
  obtain ⟨before, line, after, rfl, -, hline, rfl⟩ := h
  simp [repair, hline, isMissing_insert hline]

/-- A repair brings no carriage return. -/
theorem RepairsFirst.noReturn (h : mark.RepairsFirst ls ls')
    (hreturn : ∀ l ∈ ls, .char '\r' ∉ l) : ∀ l ∈ ls', .char '\r' ∉ l := by
  obtain ⟨before, line, after, rfl, -, -, rfl⟩ := h
  exact Document.forall_mem_insertAt mark.sign_ne_return hreturn

theorem map_repair_of_countP (h : ls.countP mark.isMissing = 0) : ls.map mark.repair = ls := by
  have hsame : ∀ line ∈ ls, mark.repair line = id line := fun line hline =>
    if_neg (List.countP_eq_zero.mp h line hline)
  rw [List.map_congr_left hsame, List.map_id]

end Repairs

end Mark

end SchemaEditor
