import Mathlib.Data.List.Basic
import SchemaEditor.Text.Basic

/-!
# Lines and texts

Cutting a text at its line feeds and joining the pieces are inverse to each other:
`unlines_lines` for every text, and `lines_unlines` for every list of pieces that
is not empty and has no line feed in it.  The pieces of a text are of that kind
(`not_mem_of_mem_lines`).  Hence the lines of two texts with a line feed between them
are those of the one and then those of the other (`lines_append_feed`).
-/

namespace SchemaEditor.Text

/-! ## Pieces -/

theorem not_mem_of_mem_consHead {c x : CodePoint} {ls : List Text} (hx : x ≠ c)
    (h : ∀ l ∈ ls, x ∉ l) : ∀ l ∈ consHead c ls, x ∉ l := by
  cases ls with
  | nil => simpa [consHead] using hx
  | cons l rest =>
    intro l' hl'
    rcases List.mem_cons.mp hl' with rfl | hl'
    · simpa [hx] using h l (List.mem_cons_self ..)
    · exact h l' (List.mem_cons_of_mem _ hl')

/-- No piece of a text has the character that the text was cut at. -/
theorem not_mem_of_mem_splitOn (x : CodePoint) (t : Text) : ∀ l ∈ splitOn x t, x ∉ l := by
  induction t with
  | nil => simp
  | cons c rest ih =>
    by_cases hc : c = x
    · subst hc
      intro l hl
      rw [splitOn_cons_self] at hl
      rcases List.mem_cons.mp hl with rfl | hl
      · simp
      · exact ih l hl
    · rw [splitOn_cons_of_ne hc]
      exact not_mem_of_mem_consHead (Ne.symm hc) ih

theorem not_mem_of_mem_lines {t l : Text} (h : l ∈ lines t) : .char '\n' ∉ l :=
  not_mem_of_mem_splitOn '\n' t l h

/-- A piece of a text is made of characters of the text. -/
theorem subset_of_mem_splitOn {x : CodePoint} {t l : Text} (h : l ∈ splitOn x t) : l ⊆ t := by
  induction t generalizing l with
  | nil => simp [List.mem_singleton.mp h]
  | cons c rest ih =>
    by_cases hc : c = x
    · rw [hc, splitOn_cons_self] at h
      rcases List.mem_cons.mp h with rfl | h
      · exact List.nil_subset _
      · exact List.Subset.trans (ih h) (List.subset_cons_self c rest)
    · obtain ⟨first, pieces, hpieces⟩ := List.exists_cons_of_ne_nil (splitOn_ne_nil x rest)
      rw [splitOn_cons_of_ne hc, hpieces, consHead] at h
      rcases List.mem_cons.mp h with rfl | h
      · exact List.cons_subset_cons c (ih (hpieces ▸ List.mem_cons_self ..))
      · exact List.Subset.trans (ih (hpieces ▸ List.mem_cons_of_mem _ h))
          (List.subset_cons_self c rest)

theorem splitOn_of_not_mem {x : CodePoint} {t : Text} (h : x ∉ t) : splitOn x t = [t] := by
  induction t with
  | nil => rfl
  | cons c rest ih =>
    obtain ⟨hc, hrest⟩ := List.ne_and_not_mem_of_not_mem_cons h
    rw [splitOn_cons_of_ne (Ne.symm hc), ih hrest]
    rfl

/-- A piece without the separator, and the separator behind it, are cut off. -/
theorem splitOn_append_cons {x : CodePoint} {s : Text} (h : x ∉ s) (t : Text) :
    splitOn x (s ++ x :: t) = s :: splitOn x t := by
  induction s with
  | nil => simp
  | cons c rest ih =>
    obtain ⟨hc, hrest⟩ := List.ne_and_not_mem_of_not_mem_cons h
    rw [List.cons_append, splitOn_cons_of_ne (Ne.symm hc), ih hrest]
    rfl

/-! ## Joining -/

theorem unlines_cons_cons (l l' : Text) (ls : List Text) :
    unlines (l :: l' :: ls) = l ++ .char '\n' :: unlines (l' :: ls) := by
  simp [unlines, List.intercalate]

/-- Joining adds nothing but what stands between the pieces. -/
theorem mem_intercalate {c : CodePoint} {between : Text} {ls : List Text}
    (h : c ∈ List.intercalate between ls) : c ∈ between ∨ ∃ l ∈ ls, c ∈ l := by
  induction ls with
  | nil => cases h
  | cons l ls ih =>
    cases ls with
    | nil => exact Or.inr ⟨l, List.mem_singleton_self l, by simpa using h⟩
    | cons l' ls =>
      rw [List.intercalate_cons_cons, List.mem_append, List.mem_append] at h
      rcases h with (h | h) | h
      · exact Or.inr ⟨l, List.mem_cons_self .., h⟩
      · exact Or.inl h
      · refine (ih h).imp_right fun ⟨k, hk, hck⟩ => ⟨k, List.mem_cons_of_mem _ hk, hck⟩

theorem isWhole_of_subset {s t : Text} (hsub : s ⊆ t) (ht : isWhole t = true) :
    isWhole s = true :=
  List.all_eq_true.mpr fun c hc => List.all_eq_true.mp ht c (hsub hc)

/-- What is joined of characters has characters only. -/
theorem isWhole_intercalate {between : Text} (hbetween : isWhole between = true) {ls : List Text}
    (hls : ∀ l ∈ ls, isWhole l = true) : isWhole (List.intercalate between ls) = true := by
  refine List.all_eq_true.mpr fun c hc => ?_
  rcases mem_intercalate hc with hc | ⟨l, hl, hc⟩
  · exact List.all_eq_true.mp hbetween c hc
  · exact List.all_eq_true.mp (hls l hl) c hc

theorem unlines_consHead {c : CodePoint} {ls : List Text} (h : ls ≠ []) :
    unlines (consHead c ls) = c :: unlines ls := by
  match ls, h with
  | [l], _ => simp [consHead, unlines]
  | l :: l' :: rest, _ => simp [consHead, unlines_cons_cons]

/-- **Cutting a text into lines loses nothing.** -/
theorem unlines_lines (t : Text) : unlines (lines t) = t := by
  induction t with
  | nil => rfl
  | cons c rest ih =>
    unfold lines at ih ⊢
    by_cases hc : c = .char '\n'
    · subst hc
      obtain ⟨l, ls, hls⟩ := List.exists_cons_of_ne_nil (splitOn_ne_nil (.char '\n') rest)
      rw [splitOn_cons_self, hls, unlines_cons_cons, ← hls, ih]
      rfl
    · rw [splitOn_cons_of_ne hc, unlines_consHead (splitOn_ne_nil _ rest), ih]

/-- **Pieces without line feeds are the lines of the text they make up.** -/
theorem lines_unlines {ls : List Text} (hne : ls ≠ []) (h : ∀ l ∈ ls, .char '\n' ∉ l) :
    lines (unlines ls) = ls := by
  induction ls with
  | nil => exact absurd rfl hne
  | cons l rest ih =>
    have hl : .char '\n' ∉ l := h l (List.mem_cons_self ..)
    cases rest with
    | nil => simpa [unlines, lines] using splitOn_of_not_mem hl
    | cons l' rest =>
      rw [unlines_cons_cons, lines, splitOn_append_cons hl]
      rw [← lines, ih (by simp) (fun k hk => h k (List.mem_cons_of_mem _ hk))]

/-! ## Two texts with a line feed between them -/

theorem unlines_append {ls ls' : List Text} (hne : ls ≠ []) (hne' : ls' ≠ []) :
    unlines (ls ++ ls') = unlines ls ++ .char '\n' :: unlines ls' := by
  induction ls with
  | nil => exact absurd rfl hne
  | cons l rest ih =>
    cases rest with
    | nil =>
      obtain ⟨l', rest', rfl⟩ := List.exists_cons_of_ne_nil hne'
      rw [List.singleton_append, unlines_cons_cons, unlines, unlines, List.intercalate_singleton]
    | cons l' rest =>
      rw [List.cons_append, List.cons_append, unlines_cons_cons, ← List.cons_append,
        ih (List.cons_ne_nil _ _), unlines_cons_cons, List.append_assoc, List.cons_append]

/-- **A line feed between two texts keeps the lines of both.** -/
theorem lines_append_feed (s t : Text) : lines (s ++ .char '\n' :: t) = lines s ++ lines t := by
  have hjoin : s ++ .char '\n' :: t = unlines (lines s ++ lines t) := by
    rw [unlines_append (lines_ne_nil s) (lines_ne_nil t), unlines_lines, unlines_lines]
  have hfeed : ∀ l ∈ lines s ++ lines t, .char '\n' ∉ l := by
    intro l hl
    rcases List.mem_append.mp hl with hl | hl
    · exact not_mem_of_mem_lines hl
    · exact not_mem_of_mem_lines hl
  rw [hjoin, lines_unlines (by simp [lines_ne_nil]) hfeed]

end SchemaEditor.Text
