import Mathlib.Data.List.Basic
import SchemaEditor.Format.Batch
import SchemaEditor.Proofs.Line

/-!
# Runs of attributes

The formatter keeps the attributes of a run back until the run ends, and only then
writes them in their final order.  `arrangeRuns` does the same to a list of lines
and nothing else: every line is trimmed, and the attributes of every maximal run are
put in order.  It is the part of formatting that moves lines.

Lines are moved within their run only (`arrangeRuns_append_run`, `getElem?_arrangeRuns`),
a run in order stays as it is, so that arranging twice is arranging once
(`arrangeRuns_arrangeRuns`), and the order is that of the code points
(`pairwise_arrangeAttributes`).
-/

namespace SchemaEditor

/-! ## The order of texts -/

namespace CodePoint

/-- No character has the number of half a pair. -/
theorem not_surrogate (c : Char) : ¬ (0xD800 ≤ c.toNat ∧ c.toNat < 0xE000) := by
  have hv : c.toNat < 0xD800 ∨ 0xDFFF < c.toNat ∧ c.toNat < 0x110000 := c.valid
  omega

theorem toNat_injective {a b : CodePoint} (h : a.toNat = b.toNat) : a = b := by
  cases a with
  | char a =>
    cases b with
    | char b => rw [Char.toNat_inj.mp h]
    | half n =>
      have ha : a.toNat = 0xD800 + n.val := h
      exact absurd ⟨by omega, by omega⟩ (not_surrogate a)
  | half m =>
    cases b with
    | char b =>
      have hb : 0xD800 + m.val = b.toNat := h
      exact absurd ⟨by omega, by omega⟩ (not_surrogate b)
    | half n =>
      have hmn : 0xD800 + m.val = 0xD800 + n.val := h
      exact congrArg half (Fin.ext (by omega))

end CodePoint

namespace Text

theorem le_total : ∀ s t : Text, (le s t || le t s) = true
  | [], _ => rfl
  | _ :: _, [] => rfl
  | a :: s, b :: t => by
      have ih := le_total s t
      rcases Nat.lt_trichotomy a.toNat b.toNat with h | h | h
      · simp [le, h]
      · obtain rfl := CodePoint.toNat_injective h
        simpa [le] using ih
      · simp [le, h]

theorem le_trans : ∀ s t u : Text, le s t = true → le t u = true → le s u = true
  | [], _, _, _, _ => rfl
  | _ :: _, [], _, h, _ => by cases h
  | _ :: _, _ :: _, [], _, h => by cases h
  | a :: s, b :: t, c :: u, hst, htu => by
      simp only [le, Bool.or_eq_true, decide_eq_true_eq, Bool.and_eq_true, beq_iff_eq] at hst htu ⊢
      rcases hst with hab | ⟨rfl, hst⟩
      · rcases htu with hbc | ⟨rfl, -⟩
        · exact Or.inl (Nat.lt_trans hab hbc)
        · exact Or.inl hab
      · rcases htu with hbc | ⟨rfl, htu⟩
        · exact Or.inl hbc
        · exact Or.inr ⟨rfl, le_trans s t u hst htu⟩

end Text

namespace Format
open Text Line

/-! ## One run -/

theorem perm_arrangeAttributes (sort : Bool) (ls : List Text) :
    (arrangeAttributes sort ls).Perm (ls.map trim) := by
  unfold arrangeAttributes
  split_ifs
  · exact List.mergeSort_perm _ _
  · exact List.Perm.refl _

@[simp] theorem arrangeAttributes_nil (sort : Bool) : arrangeAttributes sort [] = [] :=
  (perm_arrangeAttributes sort []).eq_nil

@[simp] theorem length_arrangeAttributes (sort : Bool) (ls : List Text) :
    (arrangeAttributes sort ls).length = ls.length := by
  rw [(perm_arrangeAttributes sort ls).length_eq, List.length_map]

/-- Attributes that are to be sorted are sorted by their code points. -/
theorem pairwise_arrangeAttributes (ls : List Text) :
    (arrangeAttributes true ls).Pairwise fun s t => le s t = true :=
  List.pairwise_mergeSort le_trans le_total _

/-- What is arranged are trimmed attributes, if the lines are attributes. -/
theorem mem_arrangeAttributes {sort : Bool} {ls : List Text} {l : Text}
    (hl : l ∈ arrangeAttributes sort ls) : trim l = l ∧ ∃ k ∈ ls, trim k = l := by
  obtain ⟨k, hk, rfl⟩ := List.mem_map.mp ((perm_arrangeAttributes sort ls).mem_iff.mp hl)
  exact ⟨trim_trim k, k, hk, rfl⟩

theorem isAttribute_of_mem_arrangeAttributes (sort : Bool) {ls : List Text}
    (h : ∀ l ∈ ls, isAttribute l = true) :
    ∀ l ∈ arrangeAttributes sort ls, isAttribute l = true := by
  intro l hl
  obtain ⟨-, k, hk, rfl⟩ := mem_arrangeAttributes hl
  rw [isAttribute_trim, h k hk]

/-- What is the same for all attributes does not show in which order they are arranged. -/
theorem map_arrangeAttributes {α : Type} {g : Text → α} {a : α}
    (hg : ∀ l, isAttribute l = true → g l = a) (sort : Bool) {ls : List Text}
    (h : ∀ l ∈ ls, isAttribute l = true) : (arrangeAttributes sort ls).map g = ls.map g := by
  have harranged : ∀ l ∈ arrangeAttributes sort ls, g l = a :=
    fun l hl => hg l (isAttribute_of_mem_arrangeAttributes sort h l hl)
  rw [List.map_congr_left harranged, List.map_congr_left fun l hl => hg l (h l hl),
    List.map_const', List.map_const', length_arrangeAttributes]

theorem map_trim_arrangeAttributes (sort : Bool) (ls : List Text) :
    (arrangeAttributes sort ls).map trim = arrangeAttributes sort ls := by
  refine List.map_congr_left (g := id) (fun l hl => (mem_arrangeAttributes hl).1) |>.trans ?_
  exact List.map_id _

theorem arrangeAttributes_arrangeAttributes (sort : Bool) (ls : List Text) :
    arrangeAttributes sort (arrangeAttributes sort ls) = arrangeAttributes sort ls := by
  cases sort with
  | false =>
    rw [arrangeAttributes, if_neg (by decide)]
    exact map_trim_arrangeAttributes false ls
  | true =>
    rw [arrangeAttributes, if_pos rfl, map_trim_arrangeAttributes]
    exact List.mergeSort_of_pairwise (pairwise_arrangeAttributes ls)

theorem arrangeAttributes_map_trim (sort : Bool) (ls : List Text) :
    arrangeAttributes sort (ls.map trim) = arrangeAttributes sort ls := by
  simp [arrangeAttributes, Function.comp_def]

/-! ## All runs of a list of lines -/

/-- The lines, trimmed, with every maximal run of attributes in order.  `run` is the
part of the present run that has been read. -/
def arrangeRuns (sort : Bool) : List Text → List Text → List Text
  | run, [] => arrangeAttributes sort run
  | run, line :: rest =>
      if isAttribute line then arrangeRuns sort (run ++ [trim line]) rest
      else arrangeAttributes sort run ++ trim line :: arrangeRuns sort [] rest

/-- A run goes on with an attribute. -/
theorem isAttribute_of_mem_concat {run : List Text} (hrun : ∀ l ∈ run, isAttribute l = true)
    {line : Text} (h : isAttribute line = true) :
    ∀ l ∈ run ++ [trim line], isAttribute l = true := by
  intro l hl
  rcases List.mem_append.mp hl with hl | hl
  · exact hrun l hl
  · rw [List.mem_singleton.mp hl, isAttribute_trim, h]

variable (sort : Bool)

@[simp] theorem arrangeRuns_nil (run : List Text) :
    arrangeRuns sort run [] = arrangeAttributes sort run := rfl

theorem arrangeRuns_cons_of_isAttribute {line : Text} (h : isAttribute line = true)
    (run rest : List Text) :
    arrangeRuns sort run (line :: rest) = arrangeRuns sort (run ++ [trim line]) rest :=
  if_pos h

theorem arrangeRuns_cons_of_not_isAttribute {line : Text} (h : isAttribute line = false)
    (run rest : List Text) :
    arrangeRuns sort run (line :: rest) =
      arrangeAttributes sort run ++ trim line :: arrangeRuns sort [] rest :=
  if_neg (Bool.eq_false_iff.mp h)

@[simp] theorem length_arrangeRuns (run ls : List Text) :
    (arrangeRuns sort run ls).length = run.length + ls.length := by
  induction ls generalizing run with
  | nil => simp
  | cons line rest ih =>
    cases h : isAttribute line with
    | true =>
      rw [arrangeRuns_cons_of_isAttribute sort h, ih]
      simp only [List.length_append, List.length_cons, List.length_nil]
      omega
    | false =>
      rw [arrangeRuns_cons_of_not_isAttribute sort h]
      simp only [List.length_append, length_arrangeAttributes, List.length_cons, ih,
        List.length_nil]
      omega

/-- Attributes in front of a list are read into the run. -/
theorem arrangeRuns_append_run {ls : List Text} (h : ∀ l ∈ ls, isAttribute l = true)
    (run rest : List Text) :
    arrangeRuns sort run (ls ++ rest) = arrangeRuns sort (run ++ ls.map trim) rest := by
  induction ls generalizing run with
  | nil => simp
  | cons line ls ih =>
    rw [List.cons_append, arrangeRuns_cons_of_isAttribute sort (h line (List.mem_cons_self ..)),
      ih (fun l hl => h l (List.mem_cons_of_mem _ hl))]
    simp

/-- A line that is no attribute divides the lines before it from those behind it. -/
theorem arrangeRuns_append_cons {line : Text} (h : isAttribute line = false)
    (run before rest : List Text) :
    arrangeRuns sort run (before ++ line :: rest) =
      arrangeRuns sort run before ++ trim line :: arrangeRuns sort [] rest := by
  induction before generalizing run with
  | nil =>
    rw [List.nil_append, arrangeRuns_cons_of_not_isAttribute sort h, arrangeRuns_nil]
  | cons first before ih =>
    cases hf : isAttribute first with
    | true =>
      rw [List.cons_append, arrangeRuns_cons_of_isAttribute sort hf, ih,
        arrangeRuns_cons_of_isAttribute sort hf]
    | false =>
      rw [List.cons_append, arrangeRuns_cons_of_not_isAttribute sort hf, ih,
        arrangeRuns_cons_of_not_isAttribute sort hf]
      simp

/-- Lines in front of which no attribute stands begin a run of their own. -/
theorem arrangeRuns_append {before : List Text}
    (h : ∀ l ∈ before.getLast?, isAttribute l = false) (rest : List Text) :
    arrangeRuns sort [] (before ++ rest) =
      arrangeRuns sort [] before ++ arrangeRuns sort [] rest := by
  rcases List.eq_nil_or_concat before with rfl | ⟨init, l, rfl⟩
  · simp
  · have hl : isAttribute l = false := h l (by simp)
    rw [List.concat_eq_append, List.append_assoc, List.singleton_append,
      arrangeRuns_append_cons sort hl, arrangeRuns_append_cons sort hl]
    simp

/-- Lines that begin with no attribute belong to no run in front of them. -/
theorem arrangeRuns_append_of_head {rest : List Text}
    (h : ∀ l ∈ rest.head?, isAttribute l = false) (run before : List Text) :
    arrangeRuns sort run (before ++ rest) =
      arrangeRuns sort run before ++ arrangeRuns sort [] rest := by
  cases rest with
  | nil => simp
  | cons l rest =>
    rw [arrangeRuns_append_cons sort (h l rfl),
      arrangeRuns_cons_of_not_isAttribute sort (h l rfl), arrangeAttributes_nil, List.nil_append]

/-- A line in front that is no attribute stays in front. -/
theorem head?_arrangeRuns {ls : List Text} (h : ∀ l ∈ ls.head?, isAttribute l = false) :
    (arrangeRuns sort [] ls).head? = ls.head?.map trim := by
  cases ls with
  | nil => simp
  | cons l rest =>
    rw [arrangeRuns_cons_of_not_isAttribute sort (h l rfl), arrangeAttributes_nil, List.nil_append]
    rfl

/-- **A maximal run keeps its place**, and the lines around it keep theirs. -/
theorem arrangeRuns_run {before run rest : List Text} (hrun : ∀ l ∈ run, isAttribute l = true)
    (hbefore : ∀ l ∈ before.getLast?, isAttribute l = false)
    (hrest : ∀ l ∈ rest.head?, isAttribute l = false) :
    arrangeRuns sort [] (before ++ (run ++ rest)) =
      arrangeRuns sort [] before ++ (arrangeAttributes sort run ++ arrangeRuns sort [] rest) := by
  rw [arrangeRuns_append sort hbefore, arrangeRuns_append_run sort hrun, List.nil_append]
  cases rest with
  | nil => rw [arrangeRuns_nil, arrangeRuns_nil, arrangeAttributes_map_trim, arrangeAttributes_nil,
      List.append_nil]
  | cons l rest =>
    rw [arrangeRuns_cons_of_not_isAttribute sort (hrest l rfl),
      arrangeRuns_cons_of_not_isAttribute sort (hrest l rfl), arrangeAttributes_map_trim,
      arrangeAttributes_nil, List.nil_append]

/-- **What is the same for all attributes, and for a line and its trimmed text, stays in its
place**: only attributes change places. -/
theorem map_arrangeRuns {α : Type} {g : Text → α} {a : α}
    (hg : ∀ l, isAttribute l = true → g l = a) (htrim : ∀ l, g (trim l) = g l) {run : List Text}
    (hrun : ∀ l ∈ run, isAttribute l = true) (ls : List Text) :
    (arrangeRuns sort run ls).map g = (run ++ ls).map g := by
  induction ls generalizing run with
  | nil => rw [arrangeRuns_nil, List.append_nil, map_arrangeAttributes hg sort hrun]
  | cons line rest ih =>
    cases h : isAttribute line with
    | true =>
      rw [arrangeRuns_cons_of_isAttribute sort h, ih (isAttribute_of_mem_concat hrun h)]
      simp [htrim]
    | false =>
      rw [arrangeRuns_cons_of_not_isAttribute sort h, List.map_append,
        map_arrangeAttributes hg sort hrun, List.map_cons,
        ih (fun l hl => absurd hl List.not_mem_nil)]
      simp [htrim]

/-- Attributes come out where attributes went in. -/
theorem map_isAttribute_arrangeRuns {run : List Text} (hrun : ∀ l ∈ run, isAttribute l = true)
    (ls : List Text) :
    (arrangeRuns sort run ls).map isAttribute = (run ++ ls).map isAttribute :=
  map_arrangeRuns sort (fun _ h => h) isAttribute_trim hrun ls

/-- Every line that comes out is a trimmed line that went in. -/
theorem mem_arrangeRuns {run ls : List Text} {l : Text} (hl : l ∈ arrangeRuns sort run ls) :
    trim l = l ∧ ∃ k ∈ run ++ ls, trim k = l := by
  induction ls generalizing run with
  | nil =>
    obtain ⟨ht, k, hk, rfl⟩ := mem_arrangeAttributes hl
    exact ⟨ht, k, by simpa using hk, rfl⟩
  | cons line rest ih =>
    cases h : isAttribute line with
    | true =>
      rw [arrangeRuns_cons_of_isAttribute sort h] at hl
      obtain ⟨ht, k, hk, rfl⟩ := ih hl
      refine ⟨ht, ?_⟩
      rw [List.append_assoc, List.mem_append, List.singleton_append, List.mem_cons] at hk
      rcases hk with hk | rfl | hk
      · exact ⟨k, List.mem_append_left _ hk, rfl⟩
      · exact ⟨line, List.mem_append_right _ (List.mem_cons_self ..), (trim_trim line).symm⟩
      · exact ⟨k, List.mem_append_right _ (List.mem_cons_of_mem _ hk), rfl⟩
    | false =>
      rw [arrangeRuns_cons_of_not_isAttribute sort h] at hl
      rcases List.mem_append.mp hl with hl | hl
      · obtain ⟨ht, k, hk, rfl⟩ := mem_arrangeAttributes hl
        exact ⟨ht, k, List.mem_append_left _ hk, rfl⟩
      · rcases List.mem_cons.mp hl with rfl | hl
        · exact ⟨trim_trim line, line, List.mem_append_right _ (List.mem_cons_self ..), rfl⟩
        · obtain ⟨ht, k, hk, rfl⟩ := ih hl
          exact ⟨ht, k, List.mem_append_right _ (List.mem_cons_of_mem _ (by simpa using hk)), rfl⟩

/-- A line that is no attribute stands where it stood, below its own lines arranged. -/
theorem getElem?_arrangeRuns (sort : Bool) {ls : List Text} {i : Nat} {line : Text}
    (hl : ls[i]? = some line) (ha : isAttribute line = false) :
    (arrangeRuns sort [] ls)[i]? = some (trim line) ∧
      (arrangeRuns sort [] ls).take i = arrangeRuns sort [] (ls.take i) := by
  obtain ⟨hi, rfl⟩ := List.getElem?_eq_some_iff.mp hl
  have hsplit : ls = ls.take i ++ ls[i] :: ls.drop (i + 1) := by
    rw [List.getElem_cons_drop, List.take_append_drop]
  have hlen : (arrangeRuns sort [] (ls.take i)).length = i := by
    rw [length_arrangeRuns, List.length_nil, Nat.zero_add, List.length_take]
    omega
  have harr := arrangeRuns_append_cons sort ha [] (ls.take i) (ls.drop (i + 1))
  rw [← hsplit] at harr
  rw [harr]
  refine ⟨?_, ?_⟩
  · rw [List.getElem?_append_right (by omega), hlen, Nat.sub_self, List.getElem?_cons_zero]
  · rw [List.take_append_of_le_length (by omega), List.take_of_length_le (by omega)]

/-- Blanks around the lines make no difference. -/
theorem arrangeRuns_map_trim (run ls : List Text) :
    arrangeRuns sort run (ls.map trim) = arrangeRuns sort run ls := by
  induction ls generalizing run with
  | nil => rfl
  | cons line rest ih =>
    rw [List.map_cons]
    cases h : isAttribute line with
    | true =>
      rw [arrangeRuns_cons_of_isAttribute sort (by rwa [isAttribute_trim]),
        arrangeRuns_cons_of_isAttribute sort h, trim_trim, ih]
    | false =>
      rw [arrangeRuns_cons_of_not_isAttribute sort (by rwa [isAttribute_trim]),
        arrangeRuns_cons_of_not_isAttribute sort h, trim_trim, ih]

theorem arrangeRuns_arrangeAttributes {run : List Text} (h : ∀ l ∈ run, isAttribute l = true) :
    arrangeRuns sort [] (arrangeAttributes sort run) = arrangeAttributes sort run := by
  have hread := arrangeRuns_append_run sort (isAttribute_of_mem_arrangeAttributes sort h) [] []
  rw [List.append_nil, List.nil_append, arrangeRuns_nil, arrangeAttributes_map_trim,
    arrangeAttributes_arrangeAttributes] at hread
  exact hread

/-- **Arranging is done once.** -/
theorem arrangeRuns_arrangeRuns {run : List Text} (hrun : ∀ l ∈ run, isAttribute l = true)
    (ls : List Text) :
    arrangeRuns sort [] (arrangeRuns sort run ls) = arrangeRuns sort run ls := by
  induction ls generalizing run with
  | nil => exact arrangeRuns_arrangeAttributes sort hrun
  | cons line rest ih =>
    cases h : isAttribute line with
    | true =>
      rw [arrangeRuns_cons_of_isAttribute sort h]
      exact ih (isAttribute_of_mem_concat hrun h)
    | false =>
      -- the line divides what comes out just as it divided what went in
      rw [arrangeRuns_cons_of_not_isAttribute sort h,
        arrangeRuns_append_cons sort (by rw [isAttribute_trim, h]),
        arrangeRuns_arrangeAttributes sort hrun, trim_trim,
        ih (fun l hl => absurd hl List.not_mem_nil)]

end Format

end SchemaEditor
