import Mathlib.Data.List.DropRight
import Mathlib.Data.List.TakeWhile
import SchemaEditor.Text.Word

/-!
# Trimmed texts

Trimming cuts a text down to the part between its first and its last visible
character.  So a text is trimmed (`trim t = t`) exactly when it has no blank at
either end (`trim_eq_self_iff`), and trimming forgets indentation
(`trim_spaces_append`) but nothing that is visible.

Indentation is no part of a word: putting blanks in front of a text neither makes
nor breaks a whole word (`hasWord_spaces_append`).
-/

namespace SchemaEditor.Text

theorem isBlank_space : isBlank ' ' = true := by decide

theorem isBlank_colon : isBlank ':' = false := by decide

theorem forall_mem_spaces (n : Nat) : ∀ c ∈ spaces n, isBlank c = true := by
  intro c hc
  rw [List.eq_of_mem_replicate hc]
  exact isBlank_space

/-! ## The two ends -/

theorem trimEnd_eq_rdropWhile (t : Text) : trimEnd t = t.rdropWhile isBlank := rfl

theorem trimStart_cons_of_blank {c : CodePoint} (h : isBlank c = true) (t : Text) :
    trimStart (c :: t) = trimStart t :=
  List.dropWhile_cons_of_pos h

theorem trimStart_cons_of_visible {c : CodePoint} (h : isBlank c = false) (t : Text) :
    trimStart (c :: t) = c :: t :=
  List.dropWhile_cons_of_neg (by simp [h])

theorem trimStart_append_of_blank {s : Text} (h : ∀ c ∈ s, isBlank c = true) (t : Text) :
    trimStart (s ++ t) = trimStart t :=
  List.dropWhile_append_of_pos h

theorem trimStart_append_of_visible {s : Text} (h : trimStart s ≠ []) (t : Text) :
    trimStart (s ++ t) = trimStart s ++ t := by
  unfold trimStart at h ⊢
  rw [List.dropWhile_append]
  simp [h]

theorem trimStart_eq_nil_iff {t : Text} : trimStart t = [] ↔ ∀ c ∈ t, isBlank c = true :=
  List.dropWhile_eq_nil_iff

theorem trimEnd_eq_nil_iff {t : Text} : trimEnd t = [] ↔ ∀ c ∈ t, isBlank c = true := by
  rw [trimEnd_eq_rdropWhile]
  exact List.rdropWhile_eq_nil_iff

theorem trimEnd_trimEnd (t : Text) : trimEnd (trimEnd t) = trimEnd t :=
  List.rdropWhile_idempotent isBlank t

theorem trimEnd_append_of_blank {t : Text} (s : Text) (h : ∀ c ∈ t, isBlank c = true) :
    trimEnd (s ++ t) = trimEnd s := by
  unfold trimEnd
  rw [List.reverse_append, List.dropWhile_append_of_pos]
  intro c hc
  exact h c (List.mem_reverse.mp hc)

/-- Blanks at the end of a text are cut only from its visible last part. -/
theorem trimEnd_append_of_visible {t : Text} (s : Text) (h : trimEnd t ≠ []) :
    trimEnd (s ++ t) = s ++ trimEnd t := by
  have hd : t.reverse.dropWhile isBlank ≠ [] := fun he => h (by simp [trimEnd, he])
  unfold trimEnd
  rw [List.reverse_append, List.dropWhile_append]
  simp [hd]

theorem trimEnd_concat_of_visible {c : CodePoint} (h : isBlank c = false) (t : Text) :
    trimEnd (t ++ [c]) = t ++ [c] :=
  List.rdropWhile_concat_neg isBlank t c (by simp [h])

/-- A visible character in front keeps the end as it is. -/
theorem trimEnd_cons_of_visible {c : CodePoint} (h : isBlank c = false) (t : Text) :
    trimEnd (c :: t) = c :: trimEnd t := by
  by_cases ht : trimEnd t = []
  · rw [ht, ← List.singleton_append, trimEnd_append_of_blank _ (trimEnd_eq_nil_iff.mp ht)]
    exact trimEnd_concat_of_visible h []
  · exact trimEnd_append_of_visible [c] ht

theorem isPrefix_trimEnd (t : Text) : trimEnd t <+: t := List.rdropWhile_prefix isBlank t

/-- The last character of a text without blanks at the end is visible. -/
theorem visible_getLast_of_trimEnd {t : Text} (h : trimEnd t = t) (ht : t ≠ []) :
    isBlank (t.getLast ht) = false := by
  rw [trimEnd_eq_rdropWhile, List.rdropWhile_eq_self_iff] at h
  simpa using h ht

/-- The end of a text without blanks at the end is of that kind too. -/
theorem trimEnd_of_suffix {s t : Text} (h : trimEnd t = t) (hs : s <:+ t) : trimEnd s = s := by
  rw [trimEnd_eq_rdropWhile, List.rdropWhile_eq_self_iff]
  intro hne
  obtain ⟨r, rfl⟩ := hs
  have hlast := visible_getLast_of_trimEnd h (List.append_ne_nil_of_right_ne_nil r hne)
  rw [List.getLast_append_of_right_ne_nil r s hne] at hlast
  simp [hlast]

/-- A text without blanks at the end does not end with a part that is all blank. -/
theorem trimStart_ne_nil_of_trimEnd {s t : Text} (h : trimEnd (s ++ t) = s ++ t) (ht : t ≠ []) :
    trimStart t ≠ [] := by
  intro hblank
  have hself := trimEnd_of_suffix h (List.suffix_append s t)
  rw [trimEnd_eq_nil_iff.mpr (trimStart_eq_nil_iff.mp hblank)] at hself
  exact ht hself.symm

/-! ## Trimmed texts -/

theorem trim_eq_nil_iff {t : Text} : trim t = [] ↔ ∀ c ∈ t, isBlank c = true := by
  constructor
  · intro h
    by_contra hv
    have hs : trimStart t ≠ [] := fun he => hv (trimStart_eq_nil_iff.mp he)
    have hhead : isBlank ((trimStart t).head hs) = false := List.head_dropWhile_not isBlank hs
    have hall := trimEnd_eq_nil_iff.mp h
    rw [hall _ (List.head_mem hs)] at hhead
    cases hhead
  · intro h
    rw [trim, trimStart_eq_nil_iff.mpr h, trimEnd_nil]

/-- A text that starts with a visible character loses nothing in front. -/
theorem trim_cons_of_visible {c : CodePoint} (h : isBlank c = false) (t : Text) :
    trim (c :: t) = c :: trimEnd t := by
  rw [trim, trimStart_cons_of_visible h, trimEnd_cons_of_visible h]

/-- A text is trimmed when it starts with a visible character and ends with one. -/
theorem trim_eq_self_iff {t : Text} :
    trim t = t ↔ (∀ c ∈ t.head?, isBlank c = false) ∧ trimEnd t = t := by
  cases t with
  | nil => simp
  | cons c rest =>
    by_cases hc : isBlank c = true
    · constructor
      · intro h
        have hlen := congrArg List.length h
        have hle : (trim (c :: rest)).length ≤ rest.length := by
          rw [trim, trimStart_cons_of_blank hc]
          exact Nat.le_trans (isPrefix_trimEnd _).length_le (List.length_dropWhile_le isBlank rest)
        simp only [List.length_cons] at hlen
        omega
      · rintro ⟨h, -⟩
        simp [hc] at h
    · have hv : isBlank c = false := by simpa using hc
      rw [trim_cons_of_visible hv, trimEnd_cons_of_visible hv]
      simp [hv]

theorem trimEnd_of_trim {t : Text} (h : trim t = t) : trimEnd t = t := (trim_eq_self_iff.mp h).2

theorem visible_head_of_trim {c : CodePoint} {t : Text} (h : trim (c :: t) = c :: t) :
    isBlank c = false :=
  (trim_eq_self_iff.mp h).1 c rfl

@[simp] theorem trim_trim (t : Text) : trim (trim t) = trim t := by
  rw [trim_eq_self_iff]
  refine ⟨?_, trimEnd_trimEnd _⟩
  intro c hc
  by_cases hs : trimStart t = []
  · rw [trim, hs] at hc
    cases hc
  · have hhead : isBlank ((trimStart t).head hs) = false := List.head_dropWhile_not isBlank hs
    obtain ⟨d, rest, hdr⟩ := List.exists_cons_of_ne_nil hs
    simp only [hdr, List.head_cons] at hhead
    rw [trim, hdr, trimEnd_cons_of_visible hhead] at hc
    obtain rfl : d = c := by simpa using hc
    exact hhead

@[simp] theorem trim_spaces_append (n : Nat) (t : Text) : trim (spaces n ++ t) = trim t := by
  rw [trim, trimStart_append_of_blank (forall_mem_spaces n), trim]

/-- Indentation does not change the end of a text that is trimmed. -/
theorem trimEnd_spaces_append {t : Text} (ht : t ≠ []) (htrim : trim t = t) (n : Nat) :
    trimEnd (spaces n ++ t) = spaces n ++ t := by
  have hend : trimEnd t = t := trimEnd_of_trim htrim
  rw [trimEnd_append_of_visible _ (by rwa [hend]), hend]

theorem trim_append_of_blank {t : Text} (s : Text) (h : ∀ c ∈ t, isBlank c = true) :
    trim (s ++ t) = trim s := by
  by_cases hs : trimStart s = []
  · have hall : ∀ c ∈ s ++ t, isBlank c = true := fun c hc =>
      (List.mem_append.mp hc).elim (trimStart_eq_nil_iff.mp hs c) (h c)
    rw [trim_eq_nil_iff.mpr hall, trim, hs, trimEnd_nil]
  · rw [trim, trim, trimStart_append_of_visible hs, trimEnd_append_of_blank _ h]

theorem mem_of_mem_trim {c : CodePoint} {t : Text} (h : c ∈ trim t) : c ∈ t :=
  (List.dropWhile_suffix isBlank).subset ((isPrefix_trimEnd _).subset h)

/-- What is cut off at the end are blanks. -/
theorem exists_trimEnd_append (t : Text) :
    ∃ back, t = trimEnd t ++ back ∧ ∀ c ∈ back, isBlank c = true :=
  ⟨t.rtakeWhile isBlank, List.rdropWhile_append_rtakeWhile.symm,
    fun _ hc => List.mem_rtakeWhile_imp hc⟩

/-- Up to a visible character only the front of a text is trimmed, and behind it only the
end. -/
theorem exists_trim_append_cons {c : CodePoint} (h : isBlank c = false) (front back : Text) :
    ∃ front', trim (front ++ c :: back) = front' ++ c :: trimEnd back := by
  have hend : trimEnd (c :: back) ≠ [] := by simp [trimEnd_cons_of_visible h]
  by_cases hfront : trimStart front = []
  · refine ⟨[], ?_⟩
    rw [trim, trimStart_append_of_blank (trimStart_eq_nil_iff.mp hfront),
      trimStart_cons_of_visible h, trimEnd_cons_of_visible h]
    rfl
  · refine ⟨trimStart front, ?_⟩
    rw [trim, trimStart_append_of_visible hfront, trimEnd_append_of_visible _ hend,
      trimEnd_cons_of_visible h]

/-- Trimming keeps what is visible. -/
theorem mem_trim_of_visible {c : CodePoint} (h : isBlank c = false) {t : Text} (hc : c ∈ t) :
    c ∈ trim t := by
  obtain ⟨front, back, rfl⟩ := List.append_of_mem hc
  obtain ⟨front', htrim⟩ := exists_trim_append_cons h front back
  rw [htrim]
  simp

/-- The last visible character of a text is the last one of the trimmed text. -/
theorem getLast?_trim_append_cons {c : CodePoint} (h : isBlank c = false) (front : Text)
    {back : Text} (hback : ∀ c ∈ back, isBlank c = true) :
    (trim (front ++ c :: back)).getLast? = some c := by
  obtain ⟨front', htrim⟩ := exists_trim_append_cons h front back
  rw [htrim, trimEnd_eq_nil_iff.mpr hback]
  simp

theorem getLast?_trim_eq_some_iff {c : CodePoint} (h : isBlank c = false) {t : Text} :
    (trim t).getLast? = some c ↔
      ∃ front back, t = front ++ c :: back ∧ ∀ b ∈ back, isBlank b = true := by
  constructor
  · intro hlast
    obtain ⟨back, hback, hblank⟩ := exists_trimEnd_append (trimStart t)
    obtain ⟨visible, hvisible⟩ := List.getLast?_eq_some_iff.mp hlast
    refine ⟨leadingBlanks t ++ visible, back, ?_, hblank⟩
    calc t = leadingBlanks t ++ (trim t ++ back) := by
          rw [trim, ← hback, leadingBlanks_append_trimStart]
      _ = leadingBlanks t ++ visible ++ c :: back := by
          rw [hvisible]
          simp only [List.append_assoc, List.singleton_append]
  · rintro ⟨front, back, rfl, hblank⟩
    exact getLast?_trim_append_cons h front hblank

/-! ## Blanks in front of words -/

theorem not_isWord_space : isWord ' ' = false := by decide

/-- A character that belongs to no word leaves the words after it alone. -/
theorem hasWord_cons_of_not_isWord {c d : CodePoint} {w : Text} (hd : isWord d = true)
    (hc : isWord c = false) (t : Text) : hasWord (d :: w) (c :: t) = hasWord (d :: w) t := by
  have hne : ∀ run : Text, ((c :: run) == d :: w) = false := by
    intro run
    have : c ≠ d := fun he => by simp [he, hd] at hc
    simp [this]
  unfold hasWord
  rw [runs_cons]
  rcases runs t with _ | ⟨_ | ⟨e, run⟩, rest⟩
  · simp [consRun, hne]
  · simp [consRun, hne]
  · by_cases he : isWord e = true
    · simp [consRun, hc, he, hne]
    · have hed : e ≠ d := fun h => he (h ▸ hd)
      simp [consRun, hc, he, hne, hed]

/-- Characters that belong to no word leave the words after them alone. -/
theorem hasWord_append_of_not_isWord {d : CodePoint} {w gap : Text} (hd : isWord d = true)
    (hgap : ∀ c ∈ gap, isWord c = false) (t : Text) :
    hasWord (d :: w) (gap ++ t) = hasWord (d :: w) t := by
  induction gap with
  | nil => rfl
  | cons c gap ih =>
    obtain ⟨hc, hgap⟩ := List.forall_mem_cons.mp hgap
    rw [List.cons_append, hasWord_cons_of_not_isWord hd hc, ih hgap]

theorem hasWord_spaces_append {d : CodePoint} {w : Text} (hd : isWord d = true) (n : Nat)
    (t : Text) : hasWord (d :: w) (spaces n ++ t) = hasWord (d :: w) t := by
  refine hasWord_append_of_not_isWord hd (fun c hc => ?_) t
  rw [List.eq_of_mem_replicate hc]
  exact not_isWord_space

end SchemaEditor.Text
