import Mathlib.Data.List.SplitBy
import SchemaEditor.Proofs.Text.Trim

/-!
# Words

No blank belongs to a word, so a word is where the blanks in front of it end.

The runs of a text are what `List.splitBy` makes of it with the two classes of characters
(`runs_eq_splitBy`), so they are the only pieces of the text that are not empty, keep to one
class and change it from one to the next.  A word is one of the runs exactly if it stands
somewhere in the text between characters of no word (`mem_runs_iff`), and pieces that take the
place of runs are the runs of the text that they spell if each keeps the class of the run that
it replaces (`runs_flatMap`).
-/

namespace SchemaEditor.Text

/-! ## Blanks and words -/

/-- The number is that of a word character. -/
def isWordNumber (n : Nat) : Bool :=
  if n < 128 then
    decide ((48 ≤ n ∧ n ≤ 57) ∨ (65 ≤ n ∧ n ≤ 90) ∨ (97 ≤ n ∧ n ≤ 122) ∨ n = 95)
  else inRanges alphanumericRanges n

theorem isWord_eq (c : CodePoint) : isWord c = isWordNumber c.toNat := rfl

-- `decide` goes down the whole table of ranges for each number
set_option maxRecDepth 2000 in
/-- No blank belongs to a word. -/
theorem isWord_of_isBlank {c : CodePoint} (h : isBlank c = true) : isWord c = false := by
  have key : ∀ n ∈ List.range' 0x09 5 ++ List.range' 0x1C 5 ++ [0x85, 0xA0, 0x1680] ++
      List.range' 0x2000 11 ++ [0x2028, 0x2029, 0x202F, 0x205F, 0x3000],
      isWordNumber n = false := by decide
  rw [isWord_eq]
  refine key c.toNat ?_
  simp only [isBlank, decide_eq_true_eq] at h
  simp only [List.mem_append, List.mem_range'_1, List.mem_cons, List.not_mem_nil, or_false]
  omega

theorem isWord_colon : isWord ':' = false := by decide

theorem isBlank_of_isWord {c : CodePoint} (h : isWord c = true) : isBlank c = false := by
  refine Bool.eq_false_iff.mpr fun hblank => ?_
  rw [isWord_of_isBlank hblank] at h
  cases h

/-- A word ends in front of a character of no word. -/
theorem takeWhile_isWord {word t : Text} (hword : ∀ c ∈ word, isWord c = true)
    (ht : ∀ c ∈ t.head?, isWord c = false) : (word ++ t).takeWhile isWord = word := by
  rw [List.takeWhile_append_of_pos hword]
  cases t with
  | nil => simp
  | cons c t => rw [List.takeWhile_cons_of_neg (by simp [ht c rfl]), List.append_nil]

theorem dropWhile_isWord {word t : Text} (hword : ∀ c ∈ word, isWord c = true)
    (ht : ∀ c ∈ t.head?, isWord c = false) : (word ++ t).dropWhile isWord = t := by
  rw [List.dropWhile_append_of_pos hword]
  cases t with
  | nil => rfl
  | cons c t => rw [List.dropWhile_cons_of_neg (by simp [ht c rfl])]

/-- Blanks, one at least, and behind them a word. -/
def GapThenWord (t : Text) : Prop :=
  ∃ gap next, t = gap ++ next ∧ gap ≠ [] ∧ (∀ c ∈ gap, isBlank c = true) ∧
    ∃ c, next.head? = some c ∧ isWord c = true

/-- Blanks are skipped up to a word. -/
theorem trimStart_append_word {gap next : Text} (hgap : ∀ c ∈ gap, isBlank c = true)
    (hnext : ∃ c, next.head? = some c ∧ isWord c = true) : trimStart (gap ++ next) = next := by
  obtain ⟨c, hhead, hc⟩ := hnext
  obtain ⟨back, rfl⟩ := List.head?_eq_some_iff.mp hhead
  rw [trimStart_append_of_blank hgap, trimStart_cons_of_visible (isBlank_of_isWord hc)]

theorem gapThenWord_cons_iff {c : CodePoint} {rest : Text} :
    GapThenWord (c :: rest) ↔ (isBlank c && (trimStart rest).head?.any isWord) = true := by
  rw [Bool.and_eq_true, Option.any_eq_true]
  constructor
  · rintro ⟨gap, next, hsplit, hne, hblank, hnext⟩
    obtain ⟨b, gap, rfl⟩ := List.exists_cons_of_ne_nil hne
    rw [List.cons_append, List.cons.injEq] at hsplit
    obtain ⟨rfl, rfl⟩ := hsplit
    rw [trimStart_append_word (fun b hb => hblank b (List.mem_cons_of_mem _ hb)) hnext]
    exact ⟨hblank c (List.mem_cons_self ..), hnext⟩
  · rintro ⟨hc, hnext⟩
    refine ⟨c :: leadingBlanks rest, trimStart rest, ?_, by simp, ?_, hnext⟩
    · rw [List.cons_append, leadingBlanks_append_trimStart]
    · exact List.forall_mem_cons.mpr ⟨hc, fun b hb => List.mem_takeWhile_imp hb⟩

theorem not_gapThenWord_nil : ¬ GapThenWord [] := by
  rintro ⟨gap, next, hsplit, hne, -⟩
  exact hne (List.append_eq_nil_iff.mp hsplit.symm).1

/-! ## Runs -/

/-- Both characters are of words, or neither is. -/
def sameClass (c d : CodePoint) : Bool := isWord c == isWord d

/-- The pieces keep to one class, and it changes from one to the next. -/
structure Alternate (rs : List Text) : Prop where
  nonempty : [] ∉ rs
  keeps : ∀ run ∈ rs, run.IsChain fun c d => sameClass c d
  changes : rs.IsChain fun run next => ∃ h h', sameClass (run.getLast h) (next.head h') = false

theorem Alternate.consRun {rs : List Text} (h : Alternate rs) (c : CodePoint) :
    Alternate (consRun c rs) := by
  match rs, h with
  | [], _ => exact ⟨by simp [Text.consRun], by simp [Text.consRun], by simp [Text.consRun]⟩
  | [] :: rest, h => exact absurd (List.mem_cons_self ..) h.nonempty
  | (d :: run) :: rest, ⟨hne, hkeeps, hchanges⟩ =>
    rw [List.forall_mem_cons] at hkeeps
    by_cases hclass : sameClass c d = true
    · have hjoin : Text.consRun c ((d :: run) :: rest) = (c :: d :: run) :: rest := if_pos hclass
      rw [hjoin]
      refine ⟨by simpa using hne, List.forall_mem_cons.mpr ⟨?_, hkeeps.2⟩, ?_⟩
      · exact List.isChain_cons_cons.mpr ⟨hclass, hkeeps.1⟩
      · rw [List.isChain_cons] at hchanges ⊢
        simpa using hchanges
    · have halone : Text.consRun c ((d :: run) :: rest) = [c] :: (d :: run) :: rest :=
        if_neg hclass
      rw [halone]
      refine ⟨by simpa using hne, List.forall_mem_cons.mpr ⟨List.isChain_singleton c, ?_⟩, ?_⟩
      · exact List.forall_mem_cons.mpr hkeeps
      · exact List.isChain_cons_cons.mpr ⟨⟨by simp, by simp, by simpa using hclass⟩, hchanges⟩

theorem alternate_runs (t : Text) : Alternate (runs t) := by
  induction t with
  | nil => exact ⟨by simp, by simp, by simp⟩
  | cons c t ih => exact ih.consRun c

/-- **Runs are the pieces between changes of class.** -/
theorem runs_eq_splitBy (t : Text) : runs t = t.splitBy sameClass := by
  obtain ⟨hne, hkeeps, hchanges⟩ := alternate_runs t
  exact (List.splitBy_eq_iff.mpr ⟨(flatten_runs t).symm, hne, hkeeps, hchanges⟩).symm

/-- Pieces that keep to one class and change it from one to the next are the runs of what they
spell. -/
theorem Alternate.runs_flatten {rs : List Text} (h : Alternate rs) : runs rs.flatten = rs := by
  rw [runs_eq_splitBy, List.splitBy_flatten h.nonempty h.keeps h.changes]

theorem Alternate.left {rs rs' : List Text} (h : Alternate (rs ++ rs')) : Alternate rs :=
  ⟨fun hmem => h.nonempty (List.mem_append_left _ hmem),
    fun run hrun => h.keeps run (List.mem_append_left _ hrun), h.changes.left_of_append⟩

theorem Alternate.right {rs rs' : List Text} (h : Alternate (rs ++ rs')) : Alternate rs' :=
  ⟨fun hmem => h.nonempty (List.mem_append_right _ hmem),
    fun run hrun => h.keeps run (List.mem_append_right _ hrun), h.changes.right_of_append⟩

theorem ne_nil_of_mem_runs {t run : Text} (h : run ∈ runs t) : run ≠ [] :=
  fun hnil => (alternate_runs t).nonempty (hnil ▸ h)

/-- The characters of a run are of one class. -/
theorem isWord_eq_of_mem_runs {t run : Text} (h : run ∈ runs t) {c d : CodePoint} (hc : c ∈ run)
    (hd : d ∈ run) : isWord c = isWord d := by
  let Agree (c d : CodePoint) : Prop := isWord c = isWord d
  have hchain : run.IsChain Agree :=
    ((alternate_runs t).keeps run h).imp fun c d hclass => by simpa [sameClass] using hclass
  have : Std.Symm Agree := ⟨fun _ _ hagree => hagree.symm⟩
  have : Trans Agree Agree Agree := ⟨fun hagree hagree' => hagree.trans hagree'⟩
  exact List.Pairwise.forall_of_forall (R := Agree) (fun _ _ => rfl) hchain.pairwise hc hd

/-- Pieces that take the place of the runs of a text are the runs of what they spell, if each
keeps the class of the run that it replaces. -/
theorem runs_flatMap {t : Text} {f : Text → Text} (hne : ∀ run ∈ runs t, f run ≠ [])
    (hclass : ∀ run ∈ runs t, ∀ c ∈ run, ∀ d ∈ f run, isWord d = isWord c) :
    runs ((runs t).flatMap f) = (runs t).map f := by
  have hruns := alternate_runs t
  have halternate : Alternate ((runs t).map f) := by
    refine ⟨?_, ?_, ?_⟩
    · intro hmem
      obtain ⟨run, hrun, hnil⟩ := List.mem_map.mp hmem
      exact hne run hrun hnil
    · rintro _ hmem
      obtain ⟨run, hrun, rfl⟩ := List.mem_map.mp hmem
      obtain ⟨c, hc⟩ := List.exists_mem_of_ne_nil run (ne_nil_of_mem_runs hrun)
      refine (List.pairwise_of_forall_mem_list fun d hd e he => ?_).isChain
      simp [sameClass, hclass run hrun c hc d hd, hclass run hrun c hc e he]
    · rw [List.isChain_map]
      refine hruns.changes.imp_of_mem_imp fun run next hrun hnext hchange => ?_
      obtain ⟨h, h', hdiffer⟩ := hchange
      refine ⟨hne run hrun, hne next hnext, ?_⟩
      have hlast := hclass run hrun _ (List.getLast_mem h) _ (List.getLast_mem (hne run hrun))
      have hfirst := hclass next hnext _ (List.head_mem h') _ (List.head_mem (hne next hnext))
      rwa [sameClass, hlast, hfirst]
  rw [List.flatMap_def, halternate.runs_flatten]

/-! ## Whole words -/

/-- Between the two texts the word stands as a whole. -/
structure StandsBetween (front word back : Text) : Prop where
  nonempty : word ≠ []
  isWord : ∀ c ∈ word, isWord c = true
  front : ∀ c ∈ front.getLast?, Text.isWord c = false
  back : ∀ c ∈ back.head?, Text.isWord c = false

/-- The text has the word in it as a whole. -/
def HasWhole (word t : Text) : Prop :=
  ∃ front back, t = front ++ (word ++ back) ∧ StandsBetween front word back

theorem HasWhole.forall_isWord {word t : Text} (h : HasWhole word t) :
    ∀ c ∈ word, isWord c = true := by
  obtain ⟨front, back, -, hstands⟩ := h
  exact hstands.isWord

/-- A word stays whole if no word character is put behind the text. -/
theorem HasWhole.append {word t s : Text} (h : HasWhole word t)
    (hs : ∀ c ∈ s.head?, isWord c = false) : HasWhole word (t ++ s) := by
  obtain ⟨front, back, rfl, hne, hword, hfront, hback⟩ := h
  refine ⟨front, back ++ s, by simp only [List.append_assoc], hne, hword, hfront, ?_⟩
  cases back with
  | nil => exact hs
  | cons c back => exact hback

/-- A word that stands between two texts is a run of the text, and the others are theirs. -/
theorem StandsBetween.runs_eq {front word back : Text} (h : StandsBetween front word back) :
    runs (front ++ (word ++ back)) = runs front ++ word :: runs back := by
  have hword : word.splitBy sameClass = [word] := by
    refine List.splitBy_of_isChain h.nonempty ?_
    refine (List.pairwise_of_forall_mem_list fun c hc d hd => ?_).isChain
    simp [sameClass, h.isWord c hc, h.isWord d hd]
  have hback : (word ++ back).splitBy sameClass = word :: back.splitBy sameClass := by
    rw [List.splitBy_append, hword, List.singleton_append]
    intro c hc d hd
    simp [sameClass, h.isWord c (List.mem_of_getLast? hc), h.back d hd]
  have hfront : ∀ c ∈ front.getLast?, ∀ d ∈ (word ++ back).head?, sameClass c d = false := by
    intro c hc d hd
    obtain ⟨x, rest, rfl⟩ := List.exists_cons_of_ne_nil h.nonempty
    obtain rfl : x = d := by simpa using hd
    simp [sameClass, h.front c hc, h.isWord x (List.mem_cons_self ..)]
  simp only [runs_eq_splitBy, List.splitBy_append hfront, hback]

/-- A run of word characters stands as a whole between what the runs around it spell. -/
theorem standsBetween_of_runs_eq {t word : Text} {before after : List Text}
    (h : runs t = before ++ word :: after) (hword : ∀ c ∈ word, isWord c = true) :
    StandsBetween before.flatten word after.flatten := by
  have hmem : ∀ run ∈ before ++ word :: after, run ≠ [] :=
    fun run hrun => ne_nil_of_mem_runs (h ▸ hrun)
  have hwordne : word ≠ [] := hmem word (by simp)
  have hchanges := (alternate_runs t).changes
  rw [h, List.isChain_append, List.isChain_cons] at hchanges
  obtain ⟨-, ⟨hnext, -⟩, hlast⟩ := hchanges
  refine ⟨hwordne, hword, fun c hc => ?_, fun c hc => ?_⟩
  · -- the last character in front is that of the run before the word
    obtain rfl | ⟨init, last, rfl⟩ := List.eq_nil_or_concat before
    · simp at hc
    · have hlastne : last ≠ [] := hmem last (by simp)
      rw [List.concat_eq_append, List.flatten_append, List.flatten_singleton,
        List.getLast?_append_of_ne_nil _ hlastne, List.getLast?_eq_some_getLast hlastne] at hc
      obtain ⟨_, _, hdiffer⟩ := hlast last (by simp) word rfl
      obtain rfl := Option.some.inj hc
      simpa [sameClass, hword _ (List.head_mem hwordne)] using hdiffer
  · cases after with
    | nil => simp at hc
    | cons next rest =>
      have hnextne : next ≠ [] := hmem next (by simp)
      rw [List.flatten_cons, List.head?_append_of_ne_nil _ hnextne,
        List.head?_eq_some_head hnextne] at hc
      obtain ⟨_, _, hdiffer⟩ := hnext next rfl
      obtain rfl := Option.some.inj hc
      simpa [sameClass, hword _ (List.getLast_mem hwordne)] using hdiffer

theorem eq_flatten_of_runs_eq {t word : Text} {before after : List Text}
    (h : runs t = before ++ word :: after) : t = before.flatten ++ (word ++ after.flatten) := by
  rw [← flatten_runs t, h, List.flatten_append, List.flatten_cons]

/-- **The words among the runs are the words that the text has as a whole.** -/
theorem mem_runs_iff {word t : Text} (hword : ∀ c ∈ word, isWord c = true) :
    word ∈ runs t ↔ HasWhole word t := by
  constructor
  · intro hmem
    obtain ⟨before, after, hruns⟩ := List.append_of_mem hmem
    exact ⟨before.flatten, after.flatten, eq_flatten_of_runs_eq hruns,
      standsBetween_of_runs_eq hruns hword⟩
  · rintro ⟨front, back, rfl, hstands⟩
    rw [hstands.runs_eq]
    simp

end SchemaEditor.Text
