import Mathlib.Data.List.Infix
import SchemaEditor.Diagnostic.Message
import SchemaEditor.Proofs.Text.Trim

/-!
# The first marker

A marker is looked for at every place of an output in turn, in any case.  `Message.search` also
wants something to be found behind the marker, and goes on to the next place if nothing is.

For a marker that ends with a colon this comes to looking behind the first marker alone
(`search_eq`).  A reader of lines finds nothing only where nothing but blanks is left, and where
nothing but blanks is left no other marker ends.  For the same reason blanks at the end of an
output neither make a marker nor take part in one (`firstAfter?_append_of_blank`).
-/

namespace SchemaEditor

namespace Text
variable {marker t w : Text}

/-- A blank stays what it is when case is ignored. -/
theorem foldPoint_of_blank {c : CodePoint} (h : isBlank c = true) : foldPoint c = c := by
  simp only [isBlank, decide_eq_true_eq] at h
  unfold foldPoint
  rw [if_neg (by omega), if_neg (by omega), if_neg (by omega)]
  cases c with
  | half n => rfl
  | char c =>
    rw [CodePoint.toNat_char] at h
    rw [lowerAscii, CodePoint.char.injEq]
    unfold Char.toLower
    refine dif_neg fun hcapital => ?_
    have hlow : 65 ≤ c.toNat := hcapital.1
    have hhigh : c.toNat ≤ 90 := hcapital.2
    omega

/-- No other character is taken for a colon when case is ignored. -/
theorem eq_colon_of_foldPoint {c : CodePoint} (h : foldPoint c = .char ':') : c = .char ':' := by
  unfold foldPoint at h
  split_ifs at h
  · cases h
  · cases h
  · cases h
  · cases c with
    | half n => cases h
    | char c =>
      rw [lowerAscii, CodePoint.char.injEq] at h
      rw [CodePoint.char.injEq]
      unfold Char.toLower at h
      split_ifs at h with hcapital
      · -- the small letters lie behind the colon
        have hval : (c.val.toNat + 32) % 2 ^ 32 = 58 := congrArg (fun c => c.val.toNat) h
        have hlow : 65 ≤ c.val.toNat := hcapital.1
        have hhigh : c.val.toNat ≤ 90 := hcapital.2
        omega
      · exact h

theorem length_le_of_afterFold? {after : Text} (h : afterFold? marker t = some after) :
    marker.length ≤ t.length := by
  unfold afterFold? at h
  split_ifs at h with hfold
  have hlength := congrArg List.length hfold
  rw [length_fold, List.length_take] at hlength
  omega

/-- Blanks at the end of a text take part in no marker that ends with a colon. -/
theorem afterFold?_append_of_blank (hmarker : marker.getLast? = some (.char ':'))
    (hw : ∀ c ∈ w, isBlank c = true) (t : Text) :
    afterFold? marker (t ++ w) = (afterFold? marker t).map (· ++ w) := by
  by_cases hlength : marker.length ≤ t.length
  · unfold afterFold?
    rw [List.take_append_of_le_length hlength, List.drop_append_of_le_length hlength]
    split_ifs <;> rfl
  · have hshort : afterFold? marker t = none :=
      Option.eq_none_iff_forall_ne_some.mpr fun _ h => hlength (length_le_of_afterFold? h)
    have hlong : ¬ fold ((t ++ w).take marker.length) = marker := by
      intro hfold
      rw [List.take_append, List.take_of_length_le (Nat.le_of_not_le hlength)] at hfold
      -- the marker would end among the blanks
      have hmore : w.take (marker.length - t.length) ≠ [] := by
        intro hnil
        have hcut := congrArg List.length hfold
        rw [hnil, List.append_nil, length_fold] at hcut
        omega
      rw [← hfold, fold, List.getLast?_map, List.getLast?_append,
        List.getLast?_eq_some_getLast hmore, Option.some_or, Option.map_some,
        Option.some.injEq] at hmarker
      have hmem := List.mem_of_mem_take (List.getLast_mem hmore)
      rw [eq_colon_of_foldPoint hmarker] at hmem
      exact absurd (hw _ hmem) (by decide)
    rw [hshort, afterFold?, if_neg hlong]
    rfl

/-! ## The text behind the first marker -/

/-- The text behind the first occurrence of a marker. -/
def firstAfter? (marker t : Text) : Option Text := t.tails.findSome? (afterFold? marker)

theorem firstAfter?_cons (marker : Text) (c : CodePoint) (t : Text) :
    firstAfter? marker (c :: t) = (afterFold? marker (c :: t)).or (firstAfter? marker t) := by
  unfold firstAfter?
  rw [List.tails_cons, List.findSome?_cons]
  cases afterFold? marker (c :: t) <;> rfl

theorem length_le_of_firstAfter? {after : Text} (h : firstAfter? marker t = some after) :
    marker.length ≤ t.length := by
  obtain ⟨rest, hrest, hafter⟩ := List.exists_of_findSome?_eq_some h
  exact Nat.le_trans (length_le_of_afterFold? hafter)
    ((List.mem_tails _ _).mp hrest).length_le

/-- A text without a colon holds no marker that ends with one. -/
theorem firstAfter?_of_not_mem (hmarker : marker.getLast? = some (.char ':'))
    (ht : .char ':' ∉ t) : firstAfter? marker t = none := by
  refine List.findSome?_eq_none_iff.mpr fun rest hrest => ?_
  by_contra hfound
  unfold afterFold? at hfound
  split_ifs at hfound with hfold
  · rw [← hfold, fold, List.getLast?_map] at hmarker
    obtain ⟨c, hlast, hc⟩ := Option.map_eq_some_iff.mp hmarker
    rw [eq_colon_of_foldPoint hc] at hlast
    have hmem := List.mem_of_mem_take (List.mem_of_getLast? hlast)
    exact ht (((List.mem_tails _ _).mp hrest).subset hmem)
  · exact hfound rfl

/-- A text in which nothing is visible holds no marker that ends with a colon. -/
theorem firstAfter?_of_blank (hmarker : marker.getLast? = some (.char ':'))
    (hw : ∀ c ∈ w, isBlank c = true) : firstAfter? marker w = none :=
  firstAfter?_of_not_mem hmarker fun hcolon => absurd (hw _ hcolon) (by decide)

/-- Characters that cannot start the marker are passed over. -/
theorem firstAfter?_append_of_apart {front : Text} (hmarker : marker ≠ [])
    (hfront : ∀ c ∈ front, marker.head? ≠ some (foldPoint c)) (t : Text) :
    firstAfter? marker (front ++ t) = firstAfter? marker t := by
  induction front with
  | nil => rfl
  | cons c front ih =>
    obtain ⟨hc, hrest⟩ := List.forall_mem_cons.mp hfront
    have hnone : afterFold? marker (c :: (front ++ t)) = none := by
      refine if_neg fun hfold => hc ?_
      obtain ⟨n, hn⟩ := Nat.exists_eq_add_one.mpr (List.length_pos_iff.mpr hmarker)
      rw [hn, List.take_succ_cons] at hfold
      rw [← hfold]
      rfl
    rw [List.cons_append, firstAfter?_cons, hnone, Option.none_or, ih hrest]

/-- A marker at the start of a text is its first one. -/
theorem firstAfter?_append_of_fold {front : Text} (hmarker : marker ≠ [])
    (hfront : fold front = marker) (t : Text) : firstAfter? marker (front ++ t) = some t := by
  have hhere : afterFold? marker (front ++ t) = some t := by
    have hlength : marker.length = front.length := by rw [← hfront, length_fold]
    unfold afterFold?
    rw [hlength, List.take_left, List.drop_left, if_pos hfront]
  cases front with
  | nil => exact absurd hfront.symm hmarker
  | cons c front =>
    rw [List.cons_append] at hhere ⊢
    rw [firstAfter?_cons, hhere, Option.some_or]

/-- **Blanks at the end of a text stay behind the first marker.** -/
theorem firstAfter?_append_of_blank (hmarker : marker.getLast? = some (.char ':'))
    (hw : ∀ c ∈ w, isBlank c = true) (t : Text) :
    firstAfter? marker (t ++ w) = (firstAfter? marker t).map (· ++ w) := by
  induction t with
  | nil =>
    rw [List.nil_append, firstAfter?_of_blank hmarker hw, firstAfter?_of_blank hmarker (by simp)]
    rfl
  | cons c t ih =>
    have hhere := afterFold?_append_of_blank hmarker hw (c :: t)
    rw [List.cons_append] at hhere
    rw [List.cons_append, firstAfter?_cons, firstAfter?_cons, hhere, ih, Option.map_or]

/-- Where nothing is visible behind a marker, no other marker follows. -/
theorem firstAfter?_of_afterFold? {c : CodePoint} {after : Text}
    (hmarker : marker.getLast? = some (.char ':')) (h : afterFold? marker (c :: t) = some after)
    (hafter : ∀ c ∈ after, isBlank c = true) : firstAfter? marker t = none := by
  have hlength := length_le_of_afterFold? h
  unfold afterFold? at h
  split_ifs at h
  obtain rfl := Option.some.inj h
  obtain ⟨n, hn⟩ : ∃ n, marker.length = n + 1 := by
    refine Nat.exists_eq_add_one.mpr (List.length_pos_iff.mpr ?_)
    rintro rfl
    cases hmarker
  rw [hn, List.length_cons] at hlength
  rw [hn, List.drop_succ_cons] at hafter
  -- what is left of the marker is too short for one
  rw [← List.take_append_drop n t, firstAfter?_append_of_blank hmarker hafter]
  have hshort : firstAfter? marker (t.take n) = none := by
    refine Option.eq_none_iff_forall_ne_some.mpr fun _ hfound => ?_
    have hle := length_le_of_firstAfter? hfound
    rw [List.length_take] at hle
    omega
  rw [hshort]
  rfl

end Text

namespace Message
open Text

/-! ## Readers of lines -/

/-- The text up to the end of its first line. -/
def firstLine (t : Text) : Text := t.takeWhile (· ≠ .char '\n')

/-- The reader skips blanks, gives them back if it finds nothing behind them, and finds
something at every visible character. -/
structure SkipsBlanks (read : Text → Option Text) : Prop where
  nil : read [] = none
  blank : ∀ {c : CodePoint} (t : Text), isBlank c = true →
    read (c :: t) = (read t).or (lineHere? (c :: t))
  visible : ∀ {c : CodePoint} (t : Text), isBlank c = false → (read (c :: t)).isSome
  noFeed : ∀ {t line : Text}, read t = some line → .char '\n' ∉ line

theorem lineHere?_eq (t : Text) :
    lineHere? t = if firstLine t = [] then none else some (firstLine t) := by
  cases t with
  | nil => rfl
  | cons c t =>
    by_cases hc : c = .char '\n'
    · simp [lineHere?, firstLine, hc]
    · simp [lineHere?, firstLine, hc]

/-- The first line of a text that starts visibly starts so too. -/
theorem firstLine_cons_of_visible {c : CodePoint} (h : isBlank c = false) (t : Text) :
    firstLine (c :: t) = c :: firstLine t := by
  refine List.takeWhile_cons_of_pos (decide_eq_true ?_)
  rintro rfl
  cases h

theorem lineHere?_of_visible {c : CodePoint} (h : isBlank c = false) (t : Text) :
    lineHere? (c :: t) = some (firstLine (c :: t)) := by
  rw [lineHere?_eq, if_neg]
  rw [firstLine_cons_of_visible h]
  exact List.cons_ne_nil _ _

theorem noFeed_of_lineHere? {t line : Text} (h : lineHere? t = some line) : .char '\n' ∉ line := by
  rw [lineHere?_eq] at h
  split_ifs at h
  obtain rfl := Option.some.inj h
  intro hfeed
  simpa using List.mem_takeWhile_imp hfeed

theorem noFeed_of_lineAfterBlanks? {t line : Text} (h : lineAfterBlanks? t = some line) :
    .char '\n' ∉ line := by
  induction t with
  | nil => cases h
  | cons c t ih =>
    rw [lineAfterBlanks?] at h
    split_ifs at h
    · rcases Option.or_eq_some_iff.mp h with h | ⟨-, h⟩
      · exact ih h
      · exact noFeed_of_lineHere? h
    · exact noFeed_of_lineHere? h

theorem noFeed_of_causeLine? {t line : Text} (h : causeLine? t = some line) :
    .char '\n' ∉ line := by
  induction t with
  | nil => cases h
  | cons c t ih =>
    rw [causeLine?] at h
    split_ifs at h
    · rcases Option.or_eq_some_iff.mp h with h | ⟨-, h⟩
      · exact ih h
      · exact noFeed_of_lineHere? h
    · rcases Option.or_eq_some_iff.mp h with h | ⟨-, h⟩
      · obtain ⟨rest, -, hline⟩ := Option.bind_eq_some_iff.mp h
        exact noFeed_of_lineAfterBlanks? hline
      · exact noFeed_of_lineHere? h

theorem skipsBlanks_lineAfterBlanks? : SkipsBlanks lineAfterBlanks? where
  nil := rfl
  blank t h := by rw [lineAfterBlanks?, if_pos h]
  visible t h := by
    rw [lineAfterBlanks?, if_neg (Bool.eq_false_iff.mp h), lineHere?_of_visible h]
    rfl
  noFeed := noFeed_of_lineAfterBlanks?

theorem skipsBlanks_causeLine? : SkipsBlanks causeLine? where
  nil := rfl
  blank t h := by rw [causeLine?, if_pos h]
  visible t h := by
    rw [causeLine?, if_neg (Bool.eq_false_iff.mp h), lineHere?_of_visible h, Option.or_some]
    rfl
  noFeed := noFeed_of_causeLine?

theorem nonBlank?_of_blank {line : Text} (h : ∀ c ∈ line, isBlank c = true) :
    nonBlank? line = none :=
  if_pos (trim_eq_nil_iff.mpr h)

namespace SkipsBlanks
variable {read : Text → Option Text} (hread : SkipsBlanks read) {t : Text}
include hread

/-- Blanks in front of something visible are of no account. -/
theorem read_eq (h : trimStart t ≠ []) :
    read t = read (trimStart t) ∧ (read (trimStart t)).isSome := by
  induction t with
  | nil => exact absurd rfl h
  | cons c t ih =>
    by_cases hc : isBlank c = true
    · rw [trimStart_cons_of_blank hc] at h ⊢
      obtain ⟨hrest, hsome⟩ := ih h
      refine ⟨?_, hsome⟩
      rw [hread.blank t hc, hrest, Option.or_of_isSome hsome]
    · have hvisible : isBlank c = false := Bool.eq_false_iff.mpr hc
      rw [trimStart_cons_of_visible hvisible]
      exact ⟨rfl, hread.visible t hvisible⟩

/-- Nothing is found only where nothing is visible. -/
theorem blank_of_eq_none (h : read t = none) : ∀ c ∈ t, isBlank c = true := by
  refine trimStart_eq_nil_iff.mp ?_
  by_contra hvisible
  obtain ⟨heq, hsome⟩ := hread.read_eq hvisible
  rw [← heq, h] at hsome
  cases hsome

/-- Where nothing is visible, only a blank line is found. -/
theorem nonBlank?_of_blank (h : ∀ c ∈ t, isBlank c = true) : (read t).bind nonBlank? = none := by
  induction t with
  | nil => rw [hread.nil]; rfl
  | cons c t ih =>
    have hrest := ih fun d hd => h d (List.mem_cons_of_mem c hd)
    rw [hread.blank t (h c (List.mem_cons_self ..))]
    cases hfound : read t with
    | some line =>
      rw [hfound] at hrest
      exact hrest
    | none =>
      rw [Option.none_or, lineHere?_eq]
      split_ifs
      · rfl
      · exact Message.nonBlank?_of_blank fun d hd => h d ((List.takeWhile_prefix _).subset hd)

/-- **The search for a marker looks behind the first one alone.** -/
theorem search_eq {marker : Text} (hmarker : marker.getLast? = some (.char ':')) (t : Text) :
    search marker read t = (firstAfter? marker t).bind read := by
  induction t with
  | nil =>
    rw [firstAfter?_of_blank hmarker (by simp)]
    rfl
  | cons c t ih =>
    rw [search, firstAfter?_cons, ih]
    cases hafter : afterFold? marker (c :: t) with
    | none => rfl
    | some after =>
      rw [Option.some_or, Option.bind_some]
      cases hfound : read after with
      | some line => rfl
      | none =>
        rw [firstAfter?_of_afterFold? hmarker hafter (hread.blank_of_eq_none hfound)]
        rfl

/-- What is found and not blank is a trimmed line. -/
theorem message_trimmed {marker : Text} (hmarker : marker.getLast? = some (.char ':'))
    {message : Text} (h : (search marker read t).bind nonBlank? = some message) :
    message ≠ [] ∧ .char '\n' ∉ message ∧ trim message = message := by
  obtain ⟨line, hline, hmessage⟩ := Option.bind_eq_some_iff.mp h
  rw [hread.search_eq hmarker] at hline
  obtain ⟨after, -, hline⟩ := Option.bind_eq_some_iff.mp hline
  unfold nonBlank? at hmessage
  split_ifs at hmessage with hblank
  obtain rfl := Option.some.inj hmessage
  exact ⟨hblank, fun hfeed => hread.noFeed hline (mem_of_mem_trim hfeed), trim_trim line⟩

end SkipsBlanks

end Message

end SchemaEditor
