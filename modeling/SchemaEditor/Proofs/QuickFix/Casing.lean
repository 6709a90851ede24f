import SchemaEditor.Proofs.QuickFix.Touch
import SchemaEditor.Proofs.Text.Word

/-!
# Spelling type names again

A fix for the casing of a line writes the proper spelling of one table entry in the place of
every word that is the name of the entry in some case (`respelled_respell`).  The new line falls
into runs where the old one does (`runs_respell`), so its words are that spelling and other words
of the line.

What is written can be the name of another entry: `PublicKey`, written for `pubkey`, is
`publickey` in some case.  But then it is the proper spelling of that entry as well
(`proper_eq_of_fold`), so no entry undoes another (`not_misspells_respell`).  The entry of the
next fix stands further down the table, and there are no more fixes than entries
(`casing_converges`).
-/

namespace SchemaEditor

namespace Text

-- `decide` goes down the whole table of ranges for each number
set_option maxRecDepth 2000 in
/-- Only a word character is taken for a letter when case is ignored. -/
theorem isWord_of_foldPoint {c : CodePoint} (h : isAsciiAlpha (foldPoint c) = true) :
    isWord c = true := by
  have hfar : ∀ n ∈ [0x212A, 0x17F, 0x130, 0x131], isWordNumber n = true := by decide
  rw [isWord_eq]
  unfold foldPoint at h
  split_ifs at h with hkelvin hlong hdot
  · exact hfar c.toNat (by simp [hkelvin])
  · exact hfar c.toNat (by simp [hlong])
  · exact hfar c.toNat (by rcases hdot with hdot | hdot <;> simp [hdot])
  · have hletter : (65 ≤ c.toNat ∧ c.toNat ≤ 90) ∨ (97 ≤ c.toNat ∧ c.toNat ≤ 122) := by
      cases c with
      | half n => exact of_decide_eq_true h
      | char c =>
        have hlower := of_decide_eq_true h
        rw [lowerAscii, CodePoint.toNat_char] at hlower
        unfold Char.toLower at hlower
        split_ifs at hlower with hcapital
        · exact Or.inl ⟨hcapital.1, hcapital.2⟩
        · exact hlower
    have hascii : c.toNat < 128 := by omega
    rw [isWordNumber, if_pos hascii, decide_eq_true_eq]
    omega

/-- A text that is made of letters when case is ignored is a word. -/
theorem isWord_of_fold {word : Text} (h : ∀ c ∈ fold word, isAsciiAlpha c = true) :
    ∀ c ∈ word, isWord c = true :=
  fun c hc => isWord_of_foldPoint (h (foldPoint c) (List.mem_map_of_mem hc))

end Text

namespace FixRule
open Text

/-! ## Misspelled words -/

/-- The line has the name as a whole word, in some case, and not in its proper spelling. -/
def Misspells (name proper line : Text) : Prop :=
  ∃ word, HasWhole word line ∧ fold word = name ∧ word ≠ proper

/-- The second text is the first one with the proper spelling in the place of every whole word
that is the name in some case, from left to right, and all else as it was. -/
inductive Respelled (name proper : Text) : Text → Text → Prop
  | rest {t : Text} (h : ∀ word, HasWhole word t → fold word ≠ name) : Respelled name proper t t
  | word {front word back back' : Text} (hfront : ∀ w, HasWhole w front → fold w ≠ name)
      (hstands : StandsBetween front word back) (hword : fold word = name)
      (hback : Respelled name proper back back') :
      Respelled name proper (front ++ (word ++ back)) (front ++ (proper ++ back'))

/-- The name is made of letters, and its proper spelling is a word. -/
structure Spelling (name proper : Text) : Prop where
  letters : ∀ c ∈ name, isAsciiAlpha c = true
  proper_ne : proper ≠ []
  proper_isWord : ∀ c ∈ proper, isWord c = true

theorem spelling_of_mem {entry : Text × Text} (h : entry ∈ properSpellings) :
    Spelling entry.1 entry.2 := by
  have hall : ∀ entry ∈ properSpellings, (∀ c ∈ entry.1, isAsciiAlpha c = true) ∧
      entry.2 ≠ [] ∧ ∀ c ∈ entry.2, isWord c = true := by decide
  obtain ⟨hletters, hne, hword⟩ := hall entry h
  exact ⟨hletters, hne, hword⟩

/-- A proper spelling is the proper spelling of every name that it is in some case. -/
theorem proper_eq_of_fold {entry entry' : Text × Text} (h : entry ∈ properSpellings)
    (h' : entry' ∈ properSpellings) (hfold : fold entry.2 = entry'.1) : entry'.2 = entry.2 := by
  have hall : ∀ entry ∈ properSpellings, ∀ entry' ∈ properSpellings,
      fold entry.2 = entry'.1 → entry'.2 = entry.2 := by decide
  exact hall entry h entry' h' hfold

/-- A run of the line that is spelled again. -/
def spellRun (name proper run : Text) : Text := if fold run = name then proper else run

theorem respell_eq (name proper line : Text) :
    respell name proper line = (runs line).flatMap (spellRun name proper) := rfl

theorem flatMap_spellRun {name proper : Text} {rs : List Text} (h : ∀ run ∈ rs, fold run ≠ name) :
    rs.flatMap (spellRun name proper) = rs.flatten := by
  have hsame : rs.map (spellRun name proper) = rs.map id :=
    List.map_congr_left fun run hrun => if_neg (h run hrun)
  rw [List.flatMap_def, hsame, List.map_id]

namespace Spelling
variable {name proper : Text} (h : Spelling name proper)
include h

theorem isWord_of_name {word : Text} (hword : fold word = name) : ∀ c ∈ word, isWord c = true :=
  isWord_of_fold (hword ▸ h.letters)

theorem misspells_iff {line : Text} :
    misspells name proper line = true ↔ Misspells name proper line := by
  simp only [misspells, List.any_eq_true, Bool.and_eq_true, beq_iff_eq, bne_iff_ne, Misspells]
  constructor
  · rintro ⟨word, hmem, hword, hne⟩
    exact ⟨word, (mem_runs_iff (h.isWord_of_name hword)).mp hmem, hword, hne⟩
  · rintro ⟨word, hwhole, hword, hne⟩
    exact ⟨word, (mem_runs_iff (h.isWord_of_name hword)).mpr hwhole, hword, hne⟩

/-- The runs of a text that is spelled again are its runs, each spelled again. -/
theorem runs_respell (line : Text) :
    runs (respell name proper line) = (runs line).map (spellRun name proper) := by
  rw [respell_eq]
  refine runs_flatMap (fun run hrun => ?_) fun run hrun c hc d hd => ?_
  · unfold spellRun
    split_ifs
    · exact h.proper_ne
    · exact ne_nil_of_mem_runs hrun
  · unfold spellRun at hd
    split_ifs at hd with hname
    · rw [h.proper_isWord d hd, h.isWord_of_name hname c hc]
    · exact isWord_eq_of_mem_runs hrun hd hc

/-- Runs none of which is the name spell a text without it. -/
theorem not_name_of_hasWhole {rs : List Text} (hrs : Alternate rs)
    (hruns : ∀ run ∈ rs, fold run ≠ name) {word : Text} (hwhole : HasWhole word rs.flatten) :
    fold word ≠ name := by
  intro hword
  have hmem := (mem_runs_iff (h.isWord_of_name hword)).mpr hwhole
  rw [hrs.runs_flatten] at hmem
  exact hruns word hmem hword

theorem respelled_of_alternate {rs : List Text} (hrs : Alternate rs) :
    Respelled name proper rs.flatten (rs.flatMap (spellRun name proper)) := by
  induction hlength : rs.length using Nat.strong_induction_on generalizing rs with
  | _ n ih =>
    cases hfirst : rs.find? fun run => decide (fold run = name) with
    | none =>
      have hruns : ∀ run ∈ rs, fold run ≠ name := by simpa using hfirst
      rw [flatMap_spellRun hruns]
      exact .rest fun word => h.not_name_of_hasWhole hrs hruns
    | some word =>
      obtain ⟨hword, before, after, rfl, hbefore⟩ := List.find?_eq_some_iff_append.mp hfirst
      have hword : fold word = name := of_decide_eq_true hword
      have hruns : ∀ run ∈ before, fold run ≠ name := by simpa using hbefore
      have hafter : Alternate after := (List.append_cons before word after ▸ hrs).right
      have hshorter : after.length < n := by
        rw [← hlength, List.length_append, List.length_cons]
        omega
      have hstands := standsBetween_of_runs_eq hrs.runs_flatten (h.isWord_of_name hword)
      rw [List.flatMap_append, List.flatMap_cons, spellRun, if_pos hword, flatMap_spellRun hruns,
        List.flatten_append, List.flatten_cons]
      exact .word (fun w => h.not_name_of_hasWhole hrs.left hruns) hstands hword
        (ih after.length hshorter hafter rfl)

/-- **What the rule writes is the line with the proper spelling in the place of the name.** -/
theorem respelled_respell (line : Text) :
    Respelled name proper line (respell name proper line) := by
  have hrespelled := h.respelled_of_alternate (alternate_runs line)
  rwa [flatten_runs, ← respell_eq] at hrespelled

/-- A word of the line that is spelled again is the proper spelling, or a word of the line that
is not the name. -/
theorem eq_or_of_hasWhole_respell {line word : Text}
    (hwhole : HasWhole word (respell name proper line)) :
    word = proper ∨ HasWhole word line ∧ fold word ≠ name := by
  have hmem := (mem_runs_iff hwhole.forall_isWord).mpr hwhole
  rw [h.runs_respell] at hmem
  obtain ⟨run, hrun, heq⟩ := List.mem_map.mp hmem
  unfold spellRun at heq
  split_ifs at heq with hname
  · exact Or.inl heq.symm
  · subst heq
    exact Or.inr ⟨(mem_runs_iff hwhole.forall_isWord).mp hrun, hname⟩

end Spelling

/-! ## One fix -/

section Step
variable {n : Nat} {line title : Text} {p : Patch}

theorem casingFix?_eq_none_iff : casingFix? n line = none ↔
    ∀ entry ∈ properSpellings, ¬ Misspells entry.1 entry.2 line := by
  rw [casingFix?, Option.map_eq_none_iff, List.find?_eq_none]
  exact forall₂_congr fun entry hentry => not_congr (spelling_of_mem hentry).misspells_iff

/-- The entry that a fix corrects is the first one that the line misspells. -/
theorem exists_entry_of_casingFix? (h : casingFix? n line = some (title, p)) :
    ∃ earlier entry later, properSpellings = earlier ++ entry :: later ∧
      (∀ e ∈ earlier, ¬ Misspells e.1 e.2 line) ∧ Misspells entry.1 entry.2 line ∧
      p = ⟨Range.onLine n 0 line.length, respell entry.1 entry.2 line⟩ := by
  obtain ⟨entry, hfirst, hfix⟩ := Option.map_eq_some_iff.mp h
  obtain ⟨hmisspells, earlier, later, hall, hearlier⟩ := List.find?_eq_some_iff_append.mp hfirst
  have hspelling : ∀ e ∈ earlier ++ entry :: later, Spelling e.1 e.2 :=
    fun e he => spelling_of_mem (hall ▸ he)
  refine ⟨earlier, entry, later, hall, fun e he => ?_, ?_, (Prod.mk.inj hfix).2.symm⟩
  · rw [← (hspelling e (by simp [he])).misspells_iff]
    simpa using hearlier e he
  · exact (hspelling entry (by simp)).misspells_iff.mp (by simpa using hmisspells)

/-- **No entry undoes another**: the line that is spelled again misspells neither the entry nor
any that the line did not misspell. -/
theorem not_misspells_respell {entry e : Text × Text} (hentry : entry ∈ properSpellings)
    (he : e ∈ properSpellings) (h : e = entry ∨ ¬ Misspells e.1 e.2 line) :
    ¬ Misspells e.1 e.2 (respell entry.1 entry.2 line) := by
  rintro ⟨word, hwhole, hword, hne⟩
  rcases (spelling_of_mem hentry).eq_or_of_hasWhole_respell hwhole with rfl | ⟨hline, hother⟩
  · exact hne (proper_eq_of_fold hentry he hword).symm
  · rcases h with rfl | hspelled
    · exact hother hword
    · exact hspelled ⟨word, hline, hword, hne⟩

/-- After the fix for an entry neither it nor any before it is misspelled. -/
theorem forall_not_misspells_respell {earlier later : List (Text × Text)} {entry : Text × Text}
    (hall : properSpellings = earlier ++ entry :: later)
    (hearlier : ∀ e ∈ earlier, ¬ Misspells e.1 e.2 line) :
    ∀ e ∈ earlier ++ [entry], ¬ Misspells e.1 e.2 (respell entry.1 entry.2 line) := by
  have hentry : ∀ e ∈ earlier ++ [entry], e ∈ properSpellings := by
    intro e he
    rw [hall, List.append_cons]
    exact List.mem_append_left later he
  intro e he
  refine not_misspells_respell (hentry entry (by simp)) (hentry e he) ?_
  rcases List.mem_append.mp he with he | he
  · exact Or.inr (hearlier e he)
  · exact Or.inl (List.mem_singleton.mp he)

end Step

/-! ## Fix after fix -/

section Run
variable {σ : Type} {step : σ → σ} {Valid : σ → Prop} {anchor : σ → Text} {n : Nat}
  (hstep : ∀ s, Valid s → ∀ title p, casingFix? n (anchor s) = some (title, p) →
    Valid (step s) ∧
      ∀ e : Text × Text, Misspells e.1 e.2 (anchor (step s)) → Misspells e.1 e.2 p.newText)
include hstep

/-- The entries that may still be misspelled get fewer with every fix. -/
theorem exists_iterate_of_spelled {earlier later : List (Text × Text)}
    (hall : properSpellings = earlier ++ later) {s : σ} (hs : Valid s)
    (hearlier : ∀ e ∈ earlier, ¬ Misspells e.1 e.2 (anchor s)) :
    ∃ m ≤ later.length, Valid (step^[m] s) ∧ casingFix? n (anchor (step^[m] s)) = none := by
  induction hlength : later.length using Nat.strong_induction_on generalizing earlier later s with
  | _ k ih =>
    cases hfix : casingFix? n (anchor s) with
    | none => exact ⟨0, Nat.zero_le k, hs, hfix⟩
    | some built =>
      obtain ⟨earlier', entry, later', hall', hearlier', hmisspells, hp⟩ :=
        exists_entry_of_casingFix? hfix
      obtain ⟨hvalid, hkeeps⟩ := hstep s hs built.1 built.2 hfix
      have hshorter : later'.length < k := by
        rcases List.append_eq_append_iff.mp (hall.symm.trans hall') with
          ⟨between, -, hlater⟩ | ⟨between, hsplit, hlater⟩
        · rw [← hlength, hlater, List.length_append, List.length_cons]
          omega
        · cases between with
          | nil => rw [← hlength, ← List.nil_append later, ← hlater, List.length_cons]; omega
          | cons e between =>
            -- the line misspells no earlier entry
            obtain rfl : entry = e := (List.cons.inj hlater).1
            exact absurd hmisspells (hearlier entry (by simp [hsplit]))
      have hspelled : ∀ e ∈ earlier' ++ [entry], ¬ Misspells e.1 e.2 (anchor (step s)) := by
        intro e he hcontra
        have hnew := hkeeps e hcontra
        rw [hp] at hnew
        exact forall_not_misspells_respell hall' hearlier' e he hnew
      obtain ⟨m, hm, hlast⟩ := ih later'.length hshorter
        (hall'.trans (List.append_cons earlier' entry later')) hvalid hspelled rfl
      exact ⟨m + 1, by omega, hlast⟩

theorem exists_iterate {s : σ} (hs : Valid s) :
    ∃ m ≤ 6, Valid (step^[m] s) ∧ casingFix? n (anchor (step^[m] s)) = none :=
  exists_iterate_of_spelled hstep (List.nil_append properSpellings).symm hs (by simp)

end Run

/-! ## Lists of lines -/

section Anchor
variable {d : Diagnostic} {title line : Text} {p : Patch}

/-- The lines after the casing fix for a diagnostic, if there is one: the new text stands in the
place of the anchor line. -/
def recased (d : Diagnostic) (lines : List Text) : List Text :=
  match correctCasing.build? lines d with
  | some built => lines.set d.line built.2.newText
  | none => lines

/-- The document after the casing fix for a diagnostic, if there is one. -/
def recasedDocument (d : Diagnostic) (doc : Document) : Document :=
  match correctCasing.build? doc.lines d with
  | some built => doc.apply built.2
  | none => doc

theorem build?_correctCasing {lines : List Text} (h : d.line < lines.length) :
    correctCasing.build? lines d = casingFix? d.line (lines.getD d.line []) := by
  rw [build?, List.getElem?_eq_getElem h, Option.bind_some, List.getD_eq_getElem _ _ h]

theorem build?_correctCasing_of_le {lines : List Text} (h : lines.length ≤ d.line) :
    correctCasing.build? lines d = none := by
  rw [build?, List.getElem?_eq_none h, Option.bind_none]

/-- There is no fix exactly if the anchor line misspells no entry. -/
theorem build?_correctCasing_eq_none_iff {lines : List Text} :
    correctCasing.build? lines d = none ↔
      ∀ line, lines[d.line]? = some line →
        ∀ entry ∈ properSpellings, ¬ Misspells entry.1 entry.2 line := by
  simp only [build?, Option.bind_eq_none_iff, casingFix?_eq_none_iff]

/-- **Six fixes are enough for a line.** -/
theorem exists_iterate_recased (d : Diagnostic) (lines : List Text) :
    ∃ m ≤ 6, ((recased d)^[m] lines).length = lines.length ∧
      correctCasing.build? ((recased d)^[m] lines) d = none := by
  by_cases hline : d.line < lines.length
  · have hstep : ∀ ls : List Text, ls.length = lines.length → ∀ title p,
        casingFix? d.line (ls.getD d.line []) = some (title, p) →
        (recased d ls).length = lines.length ∧ ∀ e : Text × Text,
          Misspells e.1 e.2 ((recased d ls).getD d.line []) → Misspells e.1 e.2 p.newText := by
      intro ls hlength title p hfix
      have hat : d.line < ls.length := hlength ▸ hline
      have hset : recased d ls = ls.set d.line p.newText := by
        rw [recased, build?_correctCasing hat, hfix]
      refine ⟨by rw [hset, List.length_set, hlength], fun e he => ?_⟩
      rwa [hset, List.getD_eq_getElem _ _ (by rwa [List.length_set]), List.getElem_set_self] at he
    obtain ⟨m, hm, hlength, hlast⟩ := exists_iterate hstep (s := lines) rfl
    exact ⟨m, hm, hlength, by rwa [build?_correctCasing (hlength ▸ hline)]⟩
  · exact ⟨0, by omega, rfl, build?_correctCasing_of_le (by simpa using hline)⟩

/-! ## Documents -/

theorem isWord_return : isWord '\r' = false := by decide

/-- A carriage return at the end of a line is of no word. -/
theorem Misspells.of_readAs {name proper line line' : Text} (h : Misspells name proper line')
    (hread : Document.ReadAs line line') : Misspells name proper line := by
  rcases hread with rfl | rfl
  · exact h
  · obtain ⟨word, hwhole, hword, hne⟩ := h
    by_cases hlast : line.getLast? = some (.char '\r')
    · refine ⟨word, ?_, hword, hne⟩
      rw [← Document.dropCr_append_return_iff.mpr hlast]
      exact hwhole.append (by simpa using isWord_return)
    · rw [Document.dropCr_of_getLast?_ne hlast] at hwhole
      exact ⟨word, hwhole, hword, hne⟩

/-- A fix leaves as many lines as there were, and the new text is read again as the anchor line. -/
theorem apply_casing {doc : Document} (heol : doc.eol = Document.lf ∨ doc.eol = Document.crlf)
    (hfeed : ∀ l ∈ doc.lines, .char '\n' ∉ l) {n : Nat} (hline : n < doc.lineCount)
    (hfix : casingFix? n (doc.lineAt n) = some (title, p)) :
    (doc.apply p).lineCount = doc.lineCount ∧
      Document.ReadAs p.newText ((doc.apply p).lineAt n) := by
  obtain ⟨before, line, after, hlines, rfl⟩ :
      ∃ before line after, doc.lines = before ++ line :: after ∧ before.length = n :=
    ⟨_, _, _, Document.lines_eq_of_lt hline, List.length_take_of_le (Nat.le_of_lt hline)⟩
  rw [Document.lineAt_of_eq hlines] at hfix
  obtain ⟨earlier, entry, later, hall, -, -, rfl⟩ := exists_entry_of_casingFix? hfix
  have hwritten : .char '\n' ∉ respell entry.1 entry.2 line := fun hc =>
    (mem_respell hc).elim (properSpellings_plain (by simp [hall])).1 (hfeed line (by simp [hlines]))
  have hread := Document.forall₂_apply_line heol hfeed hlines hwritten
  have hcount := hread.length_eq
  rw [List.length_append, List.length_cons] at hcount
  constructor
  · rw [Document.lineCount, Document.lineCount, hlines, List.length_append, List.length_cons,
      hcount]
  · have hat := hread.get (i := before.length) (by simp) (by omega)
    rw [Document.lineAt, List.getD_eq_getElem _ _ (by omega)]
    simpa using hat

/-- **Six fixes are enough for a line of a document.** -/
theorem exists_iterate_recasedDocument (d : Diagnostic) {doc : Document}
    (heol : doc.eol = Document.lf ∨ doc.eol = Document.crlf)
    (hfeed : ∀ l ∈ doc.lines, .char '\n' ∉ l) :
    ∃ m ≤ 6, ((recasedDocument d)^[m] doc).lineCount = doc.lineCount ∧
      correctCasing.build? ((recasedDocument d)^[m] doc).lines d = none := by
  by_cases hline : d.line < doc.lineCount
  · let Valid (e : Document) : Prop :=
      (e.eol = Document.lf ∨ e.eol = Document.crlf) ∧ (∀ l ∈ e.lines, .char '\n' ∉ l) ∧
        e.lineCount = doc.lineCount
    have hstep : ∀ e : Document, Valid e → ∀ title p,
        casingFix? d.line (e.lineAt d.line) = some (title, p) →
        Valid (recasedDocument d e) ∧ ∀ entry : Text × Text,
          Misspells entry.1 entry.2 ((recasedDocument d e).lineAt d.line) →
            Misspells entry.1 entry.2 p.newText := by
      rintro e ⟨heol, hfeed, hcount⟩ title p hfix
      have hat : d.line < e.lineCount := hcount ▸ hline
      have happly : recasedDocument d e = e.apply p := by
        rw [recasedDocument, build?_correctCasing hat, ← Document.lineAt, hfix]
      obtain ⟨hlength, hread⟩ := apply_casing heol hfeed hat hfix
      have hregular : (e.apply p).Regular := Document.regular_ofText ..
      rw [happly]
      exact ⟨⟨hregular.eol_eq, hregular.noFeed, hlength.trans hcount⟩,
        fun entry hentry => hentry.of_readAs hread⟩
    obtain ⟨m, hm, ⟨-, -, hcount⟩, hlast⟩ := exists_iterate hstep ⟨heol, hfeed, rfl⟩
    have hat : d.line < ((recasedDocument d)^[m] doc).lineCount := hcount ▸ hline
    exact ⟨m, hm, hcount, by rwa [build?_correctCasing hat]⟩
  · exact ⟨0, by omega, rfl, build?_correctCasing_of_le (by simpa [Document.lineCount] using hline)⟩

/-- **The casing of a line is settled by fixes.**  There is one as long as the anchor line
misspells an entry, and it is for the first such entry.  It writes the proper spelling in the
place of every whole word that is the name of the entry in some case, keeps all else, and leaves
no word that misspells the entry or one before it.  So after six fixes at most there is none for
the line any more, whether the new text takes the place of a line in a list or is put into a
document. -/
theorem casing_converges (d : Diagnostic) :
    (∀ lines, correctCasing.build? lines d = none ↔ ∀ line, lines[d.line]? = some line →
        ∀ entry ∈ properSpellings, ¬ Misspells entry.1 entry.2 line) ∧
      (∀ lines title p, correctCasing.build? lines d = some (title, p) →
        ∃ line earlier entry later, lines[d.line]? = some line ∧
          properSpellings = earlier ++ entry :: later ∧
          (∀ e ∈ earlier, ¬ Misspells e.1 e.2 line) ∧ Misspells entry.1 entry.2 line ∧
          p.range = Range.onLine d.line 0 line.length ∧
          Respelled entry.1 entry.2 line p.newText ∧
          ∀ e ∈ earlier ++ [entry], ¬ Misspells e.1 e.2 p.newText) ∧
      (∀ lines, ∃ m ≤ 6, ((recased d)^[m] lines).length = lines.length ∧
        correctCasing.build? ((recased d)^[m] lines) d = none) ∧
      ∀ doc : Document, doc.eol = Document.lf ∨ doc.eol = Document.crlf →
        (∀ l ∈ doc.lines, .char '\n' ∉ l) →
        ∃ m ≤ 6, ((recasedDocument d)^[m] doc).lineCount = doc.lineCount ∧
          correctCasing.build? ((recasedDocument d)^[m] doc).lines d = none := by
  refine ⟨fun lines => build?_correctCasing_eq_none_iff, fun lines title p h => ?_,
    exists_iterate_recased d, fun doc heol hfeed => exists_iterate_recasedDocument d heol hfeed⟩
  obtain ⟨line, hline, hfix⟩ := Option.bind_eq_some_iff.mp h
  obtain ⟨earlier, entry, later, hall, hearlier, hmisspells, rfl⟩ :=
    exists_entry_of_casingFix? hfix
  have hentry : entry ∈ properSpellings := by simp [hall]
  exact ⟨line, earlier, entry, later, hline, hall, hearlier, hmisspells, rfl,
    (spelling_of_mem hentry).respelled_respell line, forall_not_misspells_respell hall hearlier⟩

/-- Two fixes settle a line with three misspelled names. -/
theorem casing_converges_two :
    let d : Diagnostic := ⟨Range.point 1 0, ofString "unknown type", .error, Diagnostic.ownSource⟩
    let doc := Document.ofText (ofString "struct A \x7b\r\n  a: vec<pubkey, PubKey>\r\n\x7d") none
    let p : Patch := ⟨Range.onLine 1 0 24, ofString "  a: vec<PublicKey, PublicKey>"⟩
    correctCasing.build? doc.lines d = some (ofString "Change 'pubkey' to 'PublicKey'", p) ∧
      (∃ line, doc.lines[1]? = some line ∧ ∃ entry : Text × Text,
        Respelled entry.1 entry.2 line p.newText ∧ ¬ Misspells entry.1 entry.2 p.newText) ∧
      (∃ m ≤ 6, correctCasing.build? ((recased d)^[m] doc.lines) d = none) ∧
      (∃ m ≤ 6, correctCasing.build? ((recasedDocument d)^[m] doc).lines d = none) ∧
      ((recasedDocument d)^[2] doc).lines[1]? =
        some (ofString "  a: Vec<PublicKey, PublicKey>") := by
  intro d doc p
  have hfeed : ∀ l ∈ doc.lines, .char '\n' ∉ l := by decide
  have heol : doc.eol = Document.crlf := by decide
  have hfix : correctCasing.build? doc.lines d =
      some (ofString "Change 'pubkey' to 'PublicKey'", p) := by decide
  obtain ⟨-, hspelled, hlines, hdocuments⟩ := casing_converges d
  obtain ⟨line, earlier, entry, later, hline, -, -, -, -, hrespelled, hno⟩ :=
    hspelled doc.lines _ p hfix
  obtain ⟨m, hm, -, hlast⟩ := hlines doc.lines
  obtain ⟨k, hk, -, hlast'⟩ := hdocuments doc (Or.inr heol) hfeed
  refine ⟨hfix, ⟨line, hline, entry, hrespelled, hno entry (by simp)⟩, ⟨m, hm, hlast⟩,
    ⟨k, hk, hlast'⟩, ?_⟩
  decide

end Anchor

end FixRule

end SchemaEditor
