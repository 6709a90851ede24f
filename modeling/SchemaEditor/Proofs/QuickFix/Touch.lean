import SchemaEditor.Proofs.QuickFix.Mark

/-!
# What fixes touch

Every fix that is offered is a small edit near the line that its diagnostic is anchored at
(`FixRule.Touches`): a colon behind the first word that another word follows, a semicolon behind
the visible text, a line with a type name spelled properly, or an attribute above the next
struct.  The columns of its patch are those of the document, so nothing is clamped, and all
other lines, their order and their joining stay (`fixes_touch`).

The rules find their columns by scanning.  For the colon the scan is compared with what it looks
for, the least place at which a word ends that blanks and another word follow
(`endsWord_of_separatorColumn?`); the other columns are the length of a part of the line.
-/

namespace SchemaEditor
open Text

/-! ## The end of a word -/

/-- Between the two parts of a line a word ends, and behind blanks another word follows. -/
structure EndsWord (front back : Text) : Prop where
  word : ∃ c, front.getLast? = some c ∧ isWord c = true
  follows : ∃ gap next, back = gap ++ next ∧ gap ≠ [] ∧ (∀ c ∈ gap, isBlank c = true) ∧
    ∃ c, next.head? = some c ∧ isWord c = true

section Words
open FixRule (separatorColumn?)
open FixRule.separatorColumn? (wordFollows)
variable {c : CodePoint} {front back line : Text}

/-- What follows the end of a word starts with a character of no word. -/
theorem EndsWord.exists_head (h : EndsWord front back) :
    ∃ c rest, back = c :: rest ∧ isWord c = false :=
  head_of_wordFollows (wordFollows_iff.mpr h.follows)

theorem endsWord_cons (hne : front ≠ []) : EndsWord (c :: front) back ↔ EndsWord front back := by
  obtain ⟨d, front, rfl⟩ := List.exists_cons_of_ne_nil hne
  constructor
  · rintro ⟨⟨x, hlast, hx⟩, hfollows⟩
    exact ⟨⟨x, by rwa [List.getLast?_cons_cons] at hlast, hx⟩, hfollows⟩
  · rintro ⟨⟨x, hlast, hx⟩, hfollows⟩
    exact ⟨⟨x, by rwa [List.getLast?_cons_cons], hx⟩, hfollows⟩

/-- At the end of one character the rule looks for the word that follows. -/
theorem endsWord_singleton : EndsWord [c] back ↔ (isWord c && wordFollows back) = true := by
  rw [Bool.and_eq_true, wordFollows_iff]
  constructor
  · rintro ⟨⟨x, hlast, hx⟩, hfollows⟩
    obtain rfl : c = x := by simpa using hlast
    exact ⟨hx, hfollows⟩
  · rintro ⟨hc, hfollows⟩
    exact ⟨⟨c, rfl, hc⟩, hfollows⟩

/-- The rest of a word is passed over, and what follows it stays. -/
theorem wordFollows_dropWhile (h : wordFollows back = true) : back.dropWhile isWord = back := by
  obtain ⟨x, rest, rfl, hx⟩ := head_of_wordFollows h
  exact List.dropWhile_cons_of_neg (by simp [hx])

theorem not_endsWord_nil : ¬ EndsWord [] back := fun hends => by
  obtain ⟨x, hlast, -⟩ := hends.word
  cases hlast

/-- No word ends in front of one of its characters. -/
theorem not_endsWord_inside {word : Text} (hword : ∀ x ∈ word, isWord x = true) {m : Nat}
    (hm : m < word.length) : ¬ EndsWord front ((word ++ back).drop m) := by
  intro hends
  obtain ⟨x, rest, hx, hxword⟩ := hends.exists_head
  rw [List.drop_append_of_le_length (Nat.le_of_lt hm), List.drop_eq_getElem_cons hm,
    List.cons_append, List.cons.injEq] at hx
  have hin := hword word[m] (List.getElem_mem hm)
  rw [hx.1, hxword] at hin
  cases hin

/-- A word ends at its last character. -/
theorem endsWord_of_word {word : Text} (hne : word ≠ []) (hword : ∀ x ∈ word, isWord x = true)
    (hfollows : wordFollows back = true) : EndsWord word back :=
  ⟨⟨_, List.getLast?_eq_some_getLast hne, hword _ (List.getLast_mem hne)⟩,
    wordFollows_iff.mp hfollows⟩

/-- **The rule finds the end of the first word that blanks and another word follow.** -/
theorem endsWord_of_separatorColumn? {n : Nat} (h : separatorColumn? line = some n) :
    EndsWord (line.take n) (line.drop n) ∧
      ∀ m < n, ¬ EndsWord (line.take m) (line.drop m) := by
  induction line generalizing n with
  | nil => cases h
  | cons c rest ih =>
    rw [separatorColumn?] at h
    split_ifs at h with hc
    · -- the word that starts here is the one
      obtain rfl := Option.some.inj h
      rw [Bool.and_eq_true] at hc
      have hsplit : rest.takeWhile isWord ++ rest.dropWhile isWord = rest :=
        List.takeWhile_append_dropWhile
      have hword : ∀ x ∈ c :: rest.takeWhile isWord, isWord x = true := by
        intro x hx
        rcases List.mem_cons.mp hx with rfl | hx
        · exact hc.1
        · exact List.mem_takeWhile_imp hx
      generalize rest.takeWhile isWord = tail at hsplit hword ⊢
      generalize rest.dropWhile isWord = behind at hsplit hc ⊢
      subst hsplit
      rw [← List.cons_append, ← List.length_cons, List.take_left, List.drop_left]
      exact ⟨endsWord_of_word (List.cons_ne_nil c tail) hword hc.2,
        fun m hm => not_endsWord_inside hword hm⟩
    · obtain ⟨k, hk, rfl⟩ := Option.map_eq_some_iff.mp h
      obtain ⟨hends, hfirst⟩ := ih hk
      have hne : rest.take k ≠ [] := fun hnil => not_endsWord_nil (hnil ▸ hends)
      refine ⟨(endsWord_cons hne).mpr hends, fun m hm hends' => ?_⟩
      obtain _ | _ | j := m
      · exact not_endsWord_nil hends'
      · -- the condition that has failed here
        have hhere := endsWord_singleton.mp hends'
        rw [List.drop_succ_cons, List.drop_zero, Bool.and_eq_true] at hhere
        rw [Bool.and_eq_true, wordFollows_dropWhile hhere.2] at hc
        exact hc hhere
      · rw [List.take_succ_cons, List.drop_succ_cons] at hends'
        have hne' : rest.take (j + 1) ≠ [] := by
          obtain ⟨x, more, hx, -⟩ := hends.exists_head
          intro hnil
          have hrest : rest = [] := by simpa using hnil
          rw [hrest] at hx
          simp at hx
        exact hfirst (j + 1) (by omega) ((endsWord_cons hne').mp hends')

theorem exists_of_separatorColumn? {n : Nat} (h : separatorColumn? line = some n) :
    ∃ front back, line = front ++ back ∧ n = front.length ∧ EndsWord front back ∧
      ∀ front' back', front' ++ back' = line → EndsWord front' back' →
        front.length ≤ front'.length := by
  obtain ⟨hends, hfirst⟩ := endsWord_of_separatorColumn? h
  have hle : n ≤ line.length := by
    obtain ⟨c, rest, hrest, -⟩ := hends.exists_head
    have hlength := congrArg List.length hrest
    rw [List.length_drop, List.length_cons] at hlength
    omega
  have hn : n = (line.take n).length := (List.length_take_of_le hle).symm
  refine ⟨line.take n, line.drop n, (List.take_append_drop ..).symm, hn,
    hends, fun front' back' hsplit hends' => ?_⟩
  by_contra hlt
  refine hfirst front'.length (by omega) ?_
  rwa [← hsplit, List.take_left, List.drop_left]

end Words

/-! ## What a rule touches -/

namespace FixRule

/-- The lines before and after a fix of a rule for a diagnostic. -/
inductive Touches (d : Diagnostic) : FixRule → List Text → List Text → Prop
  /-- A colon at the end of the first word of the anchor line that blanks and another word
  follow. -/
  | separator {before after : List Text} {front back : Text} (hanchor : before.length = d.line)
      (hends : EndsWord front back)
      (hfirst : ∀ front' back', front' ++ back' = front ++ back → EndsWord front' back' →
        front.length ≤ front'.length) :
      Touches d .insertSeparator (before ++ (front ++ back) :: after)
        (before ++ (front ++ .char ':' :: back) :: after)
  /-- A semicolon behind the last visible character of the anchor line. -/
  | terminator {before after : List Text} {front back : Text} {c : CodePoint}
      (hanchor : before.length = d.line) (hvisible : isBlank c = false)
      (hblank : ∀ b ∈ back, isBlank b = true) :
      Touches d .insertTerminator (before ++ (front ++ c :: back) :: after)
        (before ++ (front ++ c :: .char ';' :: back) :: after)
  /-- A type name of the anchor line in its proper spelling. -/
  | casing {before after : List Text} {line name proper : Text} (hanchor : before.length = d.line)
      (hentry : (name, proper) ∈ properSpellings) (hmisspells : misspells name proper line = true) :
      Touches d .correctCasing (before ++ line :: after)
        (before ++ respell name proper line :: after)
  /-- A new line above the first of the lines from the anchor on that mentions a struct, one
  of `lookahead` at most: the attribute, indented like that line. -/
  | above {before between after : List Text} {line : Text} (hanchor : before.length = d.line)
      (hnear : between.length < lookahead)
      (hbetween : ∀ l ∈ between, Line.mentionsStruct l = false)
      (hstruct : Line.mentionsStruct line = true) :
      Touches d .insertAttribute (before ++ between ++ line :: after)
        (before ++ between ++
          (leadingBlanks line ++ Line.attributeMarker ++ attributeName d.message ++ [.char ']']) ::
            line :: after)

/-- What a patch that a rule has built does to a document. -/
structure Builds (doc : Document) (d : Diagnostic) (r : FixRule) (p : Patch) : Prop where
  start : doc.Holds p.range.start
  stop : doc.Holds p.range.stop
  noReturn : .char '\r' ∉ p.newText
  touches : Touches d r doc.lines (doc.spliced p)

variable {doc : Document} {d : Diagnostic} {title : Text} {p : Patch}

/-- The lines around the anchor line. -/
theorem exists_anchor {lines : List Text} {n : Nat} {line : Text} (h : lines[n]? = some line) :
    ∃ before after, lines = before ++ line :: after ∧ before.length = n := by
  obtain ⟨hn, rfl⟩ := List.getElem?_eq_some_iff.mp h
  refine ⟨lines.take n, lines.drop (n + 1), ?_, List.length_take_of_le (Nat.le_of_lt hn)⟩
  rw [List.getElem_cons_drop, List.take_append_drop]

/-! ## Separator and terminator -/

theorem separator_builds (hfeed : ∀ l ∈ doc.lines, .char '\n' ∉ l)
    (h : insertSeparator.build? doc.lines d = some (title, p)) :
    Builds doc d .insertSeparator p := by
  obtain ⟨line, hline, hfix⟩ := Option.bind_eq_some_iff.mp h
  rw [separatorFix?_eq] at hfix
  obtain ⟨column, hcolumn, hpatch⟩ := Option.map_eq_some_iff.mp hfix
  obtain ⟨-, rfl⟩ := Prod.mk.inj hpatch
  obtain ⟨before, after, hlines, hanchor⟩ := exists_anchor hline
  obtain ⟨front, back, rfl, rfl, hends, hfirst⟩ := exists_of_separatorColumn? hcolumn
  have hplace := Document.holds_of_eq hlines (List.prefix_append front back).length_le
  have hsign : CodePoint.char '\n' ∉ [CodePoint.char ':'] := by decide
  have hspliced := Document.spliced_point hlines hfeed hsign front.length
  rw [Document.insertAt_length, List.append_assoc] at hspliced
  rw [← hanchor]
  refine ⟨hplace, hplace, by simp, ?_⟩
  rw [hspliced, hlines]
  exact Touches.separator hanchor hends hfirst

theorem terminator_builds (hfeed : ∀ l ∈ doc.lines, .char '\n' ∉ l)
    (h : insertTerminator.build? doc.lines d = some (title, p)) :
    Builds doc d .insertTerminator p := by
  obtain ⟨line, hline, hfix⟩ := Option.bind_eq_some_iff.mp h
  rw [terminatorFix?] at hfix
  split_ifs at hfix with hvisible
  obtain ⟨-, rfl⟩ := Prod.mk.inj (Option.some.inj hfix)
  obtain ⟨before, after, hlines, hanchor⟩ := exists_anchor hline
  -- the line is its visible part, which has a last character, and blanks behind it
  obtain ⟨back, hback, hblank⟩ := exists_trimEnd_append line
  have hne : trimEnd line ≠ [] := fun hnil =>
    hvisible (List.all_eq_true.mpr (trimEnd_eq_nil_iff.mp hnil))
  have hlast := visible_getLast_of_trimEnd (trimEnd_trimEnd line) hne
  have hsplit := (List.dropLast_append_getLast hne).symm
  have hplace := Document.holds_of_eq hlines (isPrefix_trimEnd line).length_le
  have hsign : CodePoint.char '\n' ∉ [CodePoint.char ';'] := by decide
  have hspliced := Document.spliced_point hlines hfeed hsign (trimEnd line).length
  generalize trimEnd line = visible at *
  generalize visible.getLast hne = c at hlast hsplit
  generalize visible.dropLast = front at hsplit
  subst hback
  rw [Document.insertAt_length] at hspliced
  rw [← hanchor]
  refine ⟨hplace, hplace, by simp, ?_⟩
  have htouches : Touches d .insertTerminator (before ++ (front ++ c :: back) :: after)
      (before ++ (front ++ c :: .char ';' :: back) :: after) :=
    .terminator hanchor hlast hblank
  rw [hspliced, hlines, hsplit]
  simpa using htouches

/-! ## Casing -/

/-- A line that is spelled properly has no characters but its own and those of the spelling. -/
theorem mem_respell {name proper line : Text} {c : CodePoint}
    (hc : c ∈ respell name proper line) : c ∈ proper ∨ c ∈ line := by
  obtain ⟨run, hrun, hc⟩ := List.mem_flatMap.mp hc
  split_ifs at hc
  · exact Or.inl hc
  · refine Or.inr ?_
    rw [← flatten_runs line]
    exact List.mem_flatten.mpr ⟨run, hrun, hc⟩

theorem properSpellings_plain {entry : Text × Text} (h : entry ∈ properSpellings) :
    .char '\n' ∉ entry.2 ∧ .char '\r' ∉ entry.2 := by
  have hall : ∀ entry ∈ properSpellings,
      CodePoint.char '\n' ∉ entry.2 ∧ CodePoint.char '\r' ∉ entry.2 := by decide
  exact hall entry h

theorem casing_builds (hfeed : ∀ l ∈ doc.lines, .char '\n' ∉ l)
    (hreturn : ∀ l ∈ doc.lines, .char '\r' ∉ l)
    (h : correctCasing.build? doc.lines d = some (title, p)) : Builds doc d .correctCasing p := by
  obtain ⟨line, hline, hfix⟩ := Option.bind_eq_some_iff.mp h
  obtain ⟨⟨name, proper⟩, hentry, hpatch⟩ := Option.map_eq_some_iff.mp hfix
  obtain ⟨-, rfl⟩ := Prod.mk.inj hpatch
  obtain ⟨before, after, hlines, hanchor⟩ := exists_anchor hline
  have hmem : line ∈ doc.lines := by simp [hlines]
  have hknown : (name, proper) ∈ properSpellings := List.mem_of_find?_eq_some hentry
  have hmisspells : misspells name proper line = true := by
    simpa using List.find?_some hentry
  obtain ⟨hfeed', hreturn'⟩ := properSpellings_plain hknown
  have hstart := Document.holds_of_eq hlines (Nat.zero_le line.length)
  have hstop := Document.holds_of_eq hlines (Nat.le_refl line.length)
  rw [hanchor] at hstart hstop
  refine ⟨hstart, ?_, fun hc => (mem_respell hc).elim hreturn' (hreturn line hmem), ?_⟩
  · change doc.Holds ⟨d.line, 0 + line.length⟩
    rwa [Nat.zero_add]
  · have hspliced : doc.spliced ⟨Range.onLine d.line 0 line.length, respell name proper line⟩ =
        before ++ respell name proper line :: after := by
      rw [← hanchor]
      exact Document.spliced_line hlines fun hc => (mem_respell hc).elim hfeed' (hfeed line hmem)
    rw [hspliced, hlines]
    exact Touches.casing hanchor hknown hmisspells

/-! ## Attribute -/

/-- A struct that is found in the window stands in the document, near the anchor. -/
theorem exists_of_window {lines : List Text} {n found : Nat} {line : Text}
    (h : Locate.firstLine? Line.mentionsStruct n ((lines.drop n).take lookahead) =
      some (found, line)) :
    ∃ before between after, lines = before ++ between ++ line :: after ∧ before.length = n ∧
      found = (before ++ between).length ∧ between.length < lookahead ∧
      (∀ l ∈ between, Line.mentionsStruct l = false) ∧ Line.mentionsStruct line = true := by
  obtain ⟨between, after, hwindow, rfl, hbetween, hstruct⟩ := Locate.exists_of_firstLine? h
  have hlength := congrArg List.length hwindow
  rw [List.length_take, List.length_drop, List.length_append, List.length_cons] at hlength
  have hbefore : (lines.take n).length = n := List.length_take_of_le (by omega)
  refine ⟨lines.take n, between, after ++ (lines.drop n).drop lookahead, ?_, hbefore, ?_, by omega,
    hbetween, hstruct⟩
  · calc lines
        = lines.take n ++ ((lines.drop n).take lookahead ++ (lines.drop n).drop lookahead) := by
          rw [List.take_append_drop, List.take_append_drop]
      _ = lines.take n ++ between ++ line :: (after ++ (lines.drop n).drop lookahead) := by
          rw [hwindow]
          simp only [List.append_assoc, List.cons_append]
  · rw [List.length_append, hbefore]

theorem attributeName_mem (message : Text) :
    attributeName message ∈ defaultAttribute :: requiredAttributes := by
  unfold attributeName
  cases hfound : requiredAttributes.find? fun name => hasPart name (lower message) with
  | none => exact List.mem_cons_self ..
  | some name => exact List.mem_cons_of_mem _ (List.mem_of_find?_eq_some hfound)

/-- The names of attributes have neither a line feed nor a carriage return in them. -/
theorem attributeName_plain (message : Text) :
    .char '\n' ∉ attributeName message ∧ .char '\r' ∉ attributeName message := by
  have hall : ∀ name ∈ defaultAttribute :: requiredAttributes,
      CodePoint.char '\n' ∉ name ∧ CodePoint.char '\r' ∉ name := by decide
  exact hall _ (attributeName_mem message)

/-- The line that a fix adds above the line of a struct. -/
def attributeLine (message line : Text) : Text :=
  leadingBlanks line ++ Line.attributeMarker ++ attributeName message ++ [.char ']']

theorem not_mem_attributeLine {message line : Text} {c : CodePoint} (hline : c ∉ line)
    (hmarker : c ∉ Line.attributeMarker) (hname : c ∉ attributeName message)
    (hbracket : c ≠ .char ']') : c ∉ attributeLine message line := by
  have hindent : c ∉ leadingBlanks line := fun hc =>
    hline ((List.takeWhile_prefix isBlank).subset hc)
  simp [attributeLine, hindent, hmarker, hname, hbracket]

/-- **The attribute comes right above the first struct from the anchor on**, on a line of its
own. -/
theorem exists_of_attribute_build? (hfeed : ∀ l ∈ doc.lines, .char '\n' ∉ l)
    (h : insertAttribute.build? doc.lines d = some (title, p)) :
    ∃ before between after line, doc.lines = before ++ between ++ line :: after ∧
      before.length = d.line ∧ between.length < lookahead ∧
      (∀ l ∈ between, Line.mentionsStruct l = false) ∧ Line.mentionsStruct line = true ∧
      p = ⟨Range.point (before ++ between).length 0,
        attributeLine d.message line ++ [.char '\n']⟩ ∧
      doc.spliced p = before ++ between ++ attributeLine d.message line :: line :: after := by
  rw [build?, attributeFix?] at h
  split at h
  · cases h
  · rename_i found line hfound
    split_ifs at h
    obtain ⟨-, rfl⟩ := Prod.mk.inj (Option.some.inj h)
    obtain ⟨before, between, after, hlines, hanchor, rfl, hnear, hbetween, hstruct⟩ :=
      exists_of_window hfound
    have hline : .char '\n' ∉ line := hfeed line (by simp [hlines])
    have hadded : .char '\n' ∉ attributeLine d.message line :=
      not_mem_attributeLine hline (by decide) (attributeName_plain d.message).1 (by decide)
    have htext : leadingBlanks line ++
        (Line.attributeMarker ++ attributeName d.message ++ ofString "]") ++ ofString "\n" =
          attributeLine d.message line ++ [.char '\n'] := by
      simp [attributeLine, ofString]
    rw [htext]
    refine ⟨before, between, after, line, hlines, hanchor, hnear, hbetween, hstruct, rfl, ?_⟩
    generalize attributeLine d.message line = added at hadded ⊢
    -- the text ends with a line feed, so the struct line starts a line of its own
    have hsplit : Text.lines (added ++ .char '\n' :: line) = [added, line] := by
      rw [Text.lines, splitOn_append_cons hadded, splitOn_of_not_mem hline]
    calc doc.spliced ⟨Range.point (before ++ between).length 0, added ++ [.char '\n']⟩
        = before ++ between ++ Text.lines (line.take 0 ++ (added ++ [.char '\n']) ++
            line.drop 0) ++ after := Document.spliced_of_eq hlines rfl rfl
      _ = before ++ between ++ Text.lines (added ++ .char '\n' :: line) ++ after := by simp
      _ = before ++ between ++ added :: line :: after := by
          rw [hsplit, List.append_assoc (before ++ between)]
          rfl

theorem attribute_builds (hfeed : ∀ l ∈ doc.lines, .char '\n' ∉ l)
    (hreturn : ∀ l ∈ doc.lines, .char '\r' ∉ l)
    (h : insertAttribute.build? doc.lines d = some (title, p)) :
    Builds doc d .insertAttribute p := by
  obtain ⟨before, between, after, line, hlines, hanchor, hnear, hbetween, hstruct, rfl, hspliced⟩ :=
    exists_of_attribute_build? hfeed h
  have hplace := Document.holds_of_eq hlines (Nat.zero_le line.length)
  have hline : .char '\r' ∉ line := hreturn line (by simp [hlines])
  have hadded : .char '\r' ∉ attributeLine d.message line :=
    not_mem_attributeLine hline (by decide) (attributeName_plain d.message).2 (by decide)
  refine ⟨hplace, hplace, by simp [hadded], ?_⟩
  rw [hspliced, hlines]
  exact .above hanchor hnear hbetween hstruct

/-- **A patch that a rule has built lies in the document and touches what the rule names.** -/
theorem builds_of_build? (hfeed : ∀ l ∈ doc.lines, .char '\n' ∉ l)
    (hreturn : ∀ l ∈ doc.lines, .char '\r' ∉ l) {r : FixRule}
    (h : r.build? doc.lines d = some (title, p)) : Builds doc d r p := by
  cases r with
  | insertSeparator => exact separator_builds hfeed h
  | insertTerminator => exact terminator_builds hfeed h
  | correctCasing => exact casing_builds hfeed hreturn h
  | insertAttribute => exact attribute_builds hfeed hreturn h

end FixRule

/-! ## All fixes -/

/-- The rule has a fix for the diagnostic. -/
def FixRule.applies (d : Diagnostic) (lines : List Text) (r : FixRule) : Bool :=
  decide (d.source = Diagnostic.ownSource) && r.triggers (lower d.message) &&
    (r.build? lines d).isSome

namespace QuickFix
variable (d : Diagnostic) (lines : List Text)

/-- What the rules build, each with its rule, in the order of the rules. -/
theorem exists_built (hsource : d.source = Diagnostic.ownSource) (rules : List FixRule) :
    ∃ built : List (FixRule × Text × Patch),
      ((rules.filter fun r => r.triggers (lower d.message)).filterMap fun r => r.build? lines d) =
          built.map Prod.snd ∧
        built.map Prod.fst = rules.filter (FixRule.applies d lines) ∧
        ∀ b ∈ built, b.1.build? lines d = some b.2 := by
  induction rules with
  | nil => exact ⟨[], rfl, rfl, by simp⟩
  | cons r rules ih =>
    obtain ⟨built, hbuilt, hrules, hall⟩ := ih
    by_cases htrigger : r.triggers (lower d.message) = true
    · rw [List.filter_cons, if_pos htrigger]
      cases hr : r.build? lines d with
      | none =>
        refine ⟨built, ?_, ?_, hall⟩
        · rw [List.filterMap_cons_none (f := (FixRule.build? · lines d)) hr, hbuilt]
        · rw [List.filter_cons, if_neg (by simp [FixRule.applies, hr]), hrules]
      | some b =>
        refine ⟨(r, b) :: built, ?_, ?_, ?_⟩
        · rw [List.filterMap_cons_some (f := (FixRule.build? · lines d)) hr, hbuilt, List.map_cons]
        · rw [List.filter_cons, if_pos (by simp [FixRule.applies, hsource, htrigger, hr]),
            List.map_cons, hrules]
        · intro c hc
          rcases List.mem_cons.mp hc with rfl | hc
          · exact hr
          · exact hall c hc
    · refine ⟨built, ?_, ?_, hall⟩
      · rw [List.filter_cons, if_neg htrigger, hbuilt]
      · rw [List.filter_cons, if_neg (by simp [FixRule.applies, htrigger]), hrules]

/-- **The fixes come in the order of the rules**, one for each rule that is listed and has
one. -/
theorem exists_offered (rules : List FixRule) : ∃ offered : List (FixRule × QuickFix),
    proposeFixesBy rules d lines = offered.map Prod.snd ∧
      offered.map Prod.fst = rules.filter (FixRule.applies d lines) ∧
      ∀ c ∈ offered, c.1.build? lines d = some (c.2.title, c.2.patch) := by
  unfold proposeFixesBy
  split_ifs with hsource
  · obtain ⟨built, hbuilt, hrules, hall⟩ := exists_built d lines hsource rules
    rw [hbuilt]
    cases built with
    | nil => exact ⟨[], rfl, hrules, by simp⟩
    | cons b built =>
      refine ⟨(b.1, ⟨b.2.1, b.2.2, d, true⟩) :: built.map fun c => (c.1, ⟨c.2.1, c.2.2, d, false⟩),
        ?_, ?_, ?_⟩
      · simp [QuickFix.ofBuilt, Function.comp_def]
      · rw [← hrules]
        simp [Function.comp_def]
      · intro c hc
        rcases List.mem_cons.mp hc with rfl | hc
        · exact hall b (List.mem_cons_self ..)
        · obtain ⟨c', hc', rfl⟩ := List.mem_map.mp hc
          exact hall c' (List.mem_cons_of_mem _ hc')
  · refine ⟨[], rfl, ?_, by simp⟩
    have hnone : ∀ r ∈ rules, ¬ FixRule.applies d lines r = true := by
      simp [FixRule.applies, hsource]
    exact (List.filter_eq_nil_iff.mpr hnone).symm

/-- **The first fix is preferred**, and no other one is. -/
theorem preferred_iff {rules : List FixRule} {i : Nat} {f : QuickFix}
    (h : (proposeFixesBy rules d lines)[i]? = some f) : f.preferred = true ↔ i = 0 := by
  unfold proposeFixesBy at h
  split_ifs at h
  · generalize ((rules.filter _).filterMap _) = built at h
    cases built with
    | nil => cases h
    | cons b built =>
      cases i with
      | zero =>
        obtain rfl := Option.some.inj h
        simp
      | succ i =>
        rw [QuickFix.ofBuilt, List.getElem?_cons_succ, List.getElem?_map] at h
        obtain ⟨b', -, rfl⟩ := Option.map_eq_some_iff.mp h
        simp
  · cases h

/-- **A fix carries the diagnostic that it is offered for.** -/
theorem diagnostic_of_mem {rules : List FixRule} {f : QuickFix}
    (h : f ∈ proposeFixesBy rules d lines) : f.diagnostic = d := by
  unfold proposeFixesBy at h
  split_ifs at h
  · generalize ((rules.filter _).filterMap _) = built at h
    cases built with
    | nil => cases h
    | cons b built =>
      rcases List.mem_cons.mp h with rfl | hrest
      · rfl
      · obtain ⟨b', -, rfl⟩ := List.mem_map.mp hrest
        rfl
  · cases h

end QuickFix

/-! ## What fixes do -/

/-- What applying a fix comes to: its patch lies in the document, and touches what the rule
names and nothing else. -/
structure FixRule.Effect (doc : Document) (d : Diagnostic) (r : FixRule) (f : QuickFix) : Prop where
  start : doc.Holds f.patch.range.start
  stop : doc.Holds f.patch.range.stop
  touches : FixRule.Touches d r doc.lines (doc.apply f.patch).lines
  path : (doc.apply f.patch).path = doc.path
  /-- The lines are joined as they were. -/
  text : (doc.apply f.patch).text = List.intercalate doc.eol (doc.apply f.patch).lines
  /-- The line ending is kept, unless a single line is left that does not show it. -/
  eol : (doc.apply f.patch).eol = Document.settled doc.eol (doc.apply f.patch).lines

/-- Joining does not show the line ending of a single line. -/
theorem Document.intercalate_settled (eol : Text) (ls : List Text) :
    List.intercalate (settled eol ls) ls = List.intercalate eol ls := by
  unfold settled
  split_ifs with hone
  · obtain ⟨line, rfl⟩ := List.length_eq_one_iff.mp hone
    rw [List.intercalate_singleton, List.intercalate_singleton]
  · rfl

/-- A document with a patch that a rule has built is the lines that the patch leaves. -/
theorem FixRule.Builds.apply_eq {doc : Document}
    (heol : doc.eol = Document.lf ∨ doc.eol = Document.crlf)
    (hfeed : ∀ l ∈ doc.lines, .char '\n' ∉ l) (hreturn : ∀ l ∈ doc.lines, .char '\r' ∉ l)
    {d : Diagnostic} {r : FixRule} {p : Patch} (h : Builds doc d r p) :
    doc.apply p = ⟨doc.spliced p, Document.settled doc.eol (doc.spliced p), doc.path,
      doc.spliced_ne_nil p⟩ := by
  have hbare : Document.Bare (doc.spliced p) :=
    Document.bare_of_not_mem (Document.noFeed_spliced hfeed p)
      (Document.not_mem_spliced hreturn h.noReturn)
  exact Document.apply_eq heol hfeed h.start h.stop hbare

theorem FixRule.effect_of_build? {doc : Document}
    (heol : doc.eol = Document.lf ∨ doc.eol = Document.crlf)
    (hfeed : ∀ l ∈ doc.lines, .char '\n' ∉ l) (hreturn : ∀ l ∈ doc.lines, .char '\r' ∉ l)
    {d : Diagnostic} {r : FixRule} {f : QuickFix}
    (h : r.build? doc.lines d = some (f.title, f.patch)) : Effect doc d r f := by
  have hbuilds := builds_of_build? hfeed hreturn h
  have happly := hbuilds.apply_eq heol hfeed hreturn
  obtain ⟨hstart, hstop, -, htouches⟩ := hbuilds
  refine ⟨hstart, hstop, ?_, rfl, ?_, ?_⟩
  · rw [happly]
    exact htouches
  · rw [happly]
    exact Document.intercalate_settled doc.eol (doc.spliced f.patch)
  · rw [happly]

namespace QuickFix

/-- **Every fix lies in the document and touches only what its rule names.**  Whatever the
diagnostic and the list of rules are, there is one fix for each rule of the list that has one,
in the order of the list; the first one is preferred, and each has the effect of its rule. -/
theorem fixes_touch (doc : Document) (heol : doc.eol = Document.lf ∨ doc.eol = Document.crlf)
    (hlines : ∀ l ∈ doc.lines, .char '\n' ∉ l ∧ .char '\r' ∉ l) (rules : List FixRule)
    (d : Diagnostic) :
    ∃ offered : List (FixRule × QuickFix),
      proposeFixesBy rules d doc.lines = offered.map Prod.snd ∧
        offered.map Prod.fst = rules.filter (FixRule.applies d doc.lines) ∧
        (∀ i c, offered[i]? = some c → (c.2.preferred = true ↔ i = 0)) ∧
        ∀ c ∈ offered, FixRule.Effect doc d c.1 c.2 := by
  obtain ⟨offered, hoffered, hrules, hall⟩ := exists_offered d doc.lines rules
  refine ⟨offered, hoffered, hrules, fun i c hc => ?_, fun c hc => ?_⟩
  · have hfix : (proposeFixesBy rules d doc.lines)[i]? = some c.2 := by
      rw [hoffered, List.getElem?_map, hc]
      rfl
    exact preferred_iff d doc.lines hfix
  · exact FixRule.effect_of_build? heol (fun l hl => (hlines l hl).1)
      (fun l hl => (hlines l hl).2) (hall c hc)

/-- A message that calls for a colon and an attribute is offered both, in the order of the
rules. -/
theorem fixes_touch_struct :
    let doc : Document := ⟨[ofString "size u8", ofString "  struct A \x7b"], Document.crlf, none,
      by simp⟩
    let d : Diagnostic :=
      ⟨Range.point 0 0, ofString "Missing colon or account attribute", .error,
        Diagnostic.ownSource⟩
    doc.eol = Document.crlf ∧ (∀ l ∈ doc.lines, .char '\n' ∉ l ∧ .char '\r' ∉ l) ∧
      ∃ offered : List (FixRule × QuickFix),
        proposeFixesBy FixRule.all d doc.lines = offered.map Prod.snd ∧
          offered.map Prod.fst = [.insertSeparator, .insertAttribute] ∧
          (∀ c ∈ offered, FixRule.Effect doc d c.1 c.2) ∧
          (offered.map Prod.snd).map (fun f => (doc.apply f.patch).text) =
            [ofString "size: u8\r\n  struct A \x7b",
              ofString "size u8\r\n  #[account]\r\n  struct A \x7b"] := by
  intro doc d
  have hlines : ∀ l ∈ doc.lines, .char '\n' ∉ l ∧ .char '\r' ∉ l := by decide
  obtain ⟨offered, hoffered, hrules, -, hall⟩ :=
    fixes_touch doc (Or.inr rfl) hlines FixRule.all d
  refine ⟨rfl, hlines, offered, hoffered, hrules.trans ?_, hall, ?_⟩
  · decide
  · rw [← hoffered]
    decide

end QuickFix

end SchemaEditor
