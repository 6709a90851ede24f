import Mathlib.Data.List.Basic
import Mathlib.Data.List.Forall2
import SchemaEditor.Document
import SchemaEditor.Proofs.Text.Lines

/-!
# Line endings

Reading takes the final carriage return from every line of a text that has a carriage return
in front of a line feed somewhere (`dropCr`).  Such a text has two lines at least.  So the
line ending of a document that was read from a text is only the pair if there are two lines
for it to stand between; and none of its lines has a line feed in it (`Regular`,
`regular_ofText`).

Lines that neither have a line feed in them nor end with a carriage return (`Bare`) are read
as they were joined (`ofText_intercalate`).  A text is joined anew by writing an ending for its
line feeds (`withEol_eq_intercalate`), and `feedsOnly` takes that back.
-/

namespace SchemaEditor.Document
open Text

/-! ## One line -/

theorem dropCr_concat_return (front : Text) : dropCr (front ++ [.char '\r']) = front := by
  simp [dropCr]

theorem dropCr_of_getLast?_ne {line : Text} (h : line.getLast? ≠ some (.char '\r')) :
    dropCr line = line :=
  if_neg h

theorem dropCr_eq_self_iff {line : Text} :
    dropCr line = line ↔ line.getLast? ≠ some (.char '\r') := by
  refine ⟨fun hself hlast => ?_, dropCr_of_getLast?_ne⟩
  obtain ⟨front, rfl⟩ := List.getLast?_eq_some_iff.mp hlast
  rw [dropCr_concat_return] at hself
  simp at hself

theorem dropCr_append_return_iff {line : Text} :
    dropCr line ++ [.char '\r'] = line ↔ line.getLast? = some (.char '\r') := by
  refine ⟨fun hself => by rw [← hself]; simp, fun hlast => ?_⟩
  obtain ⟨front, rfl⟩ := List.getLast?_eq_some_iff.mp hlast
  rw [dropCr_concat_return]

/-- What is left of a line was in the line. -/
theorem mem_of_mem_dropCr {c : CodePoint} {line : Text} (h : c ∈ dropCr line) : c ∈ line := by
  unfold dropCr at h
  split_ifs at h
  · exact List.dropLast_subset line h
  · exact h

/-- Behind the first line stands a carriage return and a line feed. -/
theorem intercalate_crlf_cons_cons (line line' : Text) (rest : List Text) :
    List.intercalate crlf (line :: line' :: rest) =
      (line ++ [.char '\r']) ++ .char '\n' :: List.intercalate crlf (line' :: rest) := by
  simp [List.intercalate_cons_cons, crlf]

/-! ## Documents that were read -/

theorem isWhole_eolOf (t : Text) : isWhole (eolOf t) = true := by
  unfold eolOf
  split_ifs <;> rfl

/-- No line has a line feed in it, and the line ending is the pair only if there are lines
for it to stand between. -/
structure Regular (d : Document) : Prop where
  noFeed : ∀ l ∈ d.lines, .char '\n' ∉ l
  ending : d.eol = lf ∨ d.eol = crlf ∧ 2 ≤ d.lines.length

theorem two_le_length_lines {t : Text} (h : .char '\n' ∈ t) : 2 ≤ (Text.lines t).length := by
  by_contra hlt
  have hpos := List.length_pos_iff.mpr (Text.lines_ne_nil t)
  have hone : (Text.lines t).length = 1 := by omega
  obtain ⟨line, hline⟩ := List.length_eq_one_iff.mp hone
  have ht : t = line := by
    rw [← unlines_lines t, hline]
    exact List.intercalate_singleton
  exact not_mem_of_mem_lines (hline ▸ List.mem_singleton_self line) (ht ▸ h)

/-- **A document that was read from a text is regular.** -/
theorem regular_ofText (t : Text) (path : Option Text) : (ofText t path).Regular := by
  by_cases hcrlf : hasPart crlf t = true
  · have hlines : (ofText t path).lines = (Text.lines t).map dropCr := by
      simp [ofText, linesOf, hcrlf]
    have hfeed : .char '\n' ∈ t := (hasPart_iff_isInfix.mp hcrlf).subset (by simp [crlf])
    refine ⟨fun l hl => ?_, Or.inr ⟨by simp [ofText, eolOf, hcrlf], ?_⟩⟩
    · rw [hlines] at hl
      obtain ⟨line, hline, rfl⟩ := List.mem_map.mp hl
      exact mt mem_of_mem_dropCr (not_mem_of_mem_lines hline)
    · rw [hlines, List.length_map]
      exact two_le_length_lines hfeed
  · refine ⟨fun l hl => ?_, Or.inl (by simp [ofText, eolOf, hcrlf])⟩
    have hlines : (ofText t path).lines = Text.lines t := by simp [ofText, linesOf, hcrlf]
    exact not_mem_of_mem_lines (hlines ▸ hl)

/-! ## Lines that are joined -/

/-- No line has a line feed in it, and none ends with a carriage return. -/
def Bare (ls : List Text) : Prop :=
  ∀ l ∈ ls, .char '\n' ∉ l ∧ l.getLast? ≠ some (.char '\r')

/-- Lines with a carriage return at the end of each but the last. -/
def returned : List Text → List Text
  | line :: line' :: rest => (line ++ [.char '\r']) :: returned (line' :: rest)
  | ls => ls

theorem returned_singleton (line : Text) : returned [line] = [line] := rfl

theorem returned_cons_cons (line line' : Text) (rest : List Text) :
    returned (line :: line' :: rest) = (line ++ [.char '\r']) :: returned (line' :: rest) := rfl

/-- The line ending that joined lines are read with: a single line shows none. -/
def settled (eol : Text) (ls : List Text) : Text := if ls.length = 1 then lf else eol

theorem Regular.eol_eq {d : Document} (hd : d.Regular) : d.eol = lf ∨ d.eol = crlf :=
  hd.ending.imp_right And.left

/-- As many lines as a document has that was read keep its line ending. -/
theorem Regular.settled_eq {d : Document} (hd : d.Regular) {ls : List Text}
    (hlength : ls.length = d.lines.length) : settled d.eol ls = d.eol := by
  unfold settled
  split_ifs with hone
  · rcases hd.ending with heol | ⟨-, hlen⟩
    · exact heol.symm
    · omega
  · rfl

theorem Bare.noFeed {ls : List Text} (h : Bare ls) : ∀ l ∈ ls, .char '\n' ∉ l :=
  fun l hl => (h l hl).1

theorem bare_of_not_mem {ls : List Text} (hfeed : ∀ l ∈ ls, .char '\n' ∉ l)
    (hreturn : ∀ l ∈ ls, .char '\r' ∉ l) : Bare ls :=
  fun l hl => ⟨hfeed l hl, fun hlast => hreturn l hl (List.mem_of_getLast? hlast)⟩

/-- Behind the first line the pair begins with the last character of that line, or later. -/
theorem crlf_isInfix_append_feed {line : Text} (h : .char '\n' ∉ line) (t : Text) :
    crlf <:+: line ++ .char '\n' :: t ↔ line.getLast? = some (.char '\r') ∨ crlf <:+: t := by
  induction line with
  | nil => simp [crlf, List.infix_cons_iff]
  | cons c line ih =>
    obtain ⟨-, hline⟩ := List.ne_and_not_mem_of_not_mem_cons h
    rw [List.cons_append, List.infix_cons_iff, ih hline]
    cases line with
    | nil => simp [crlf, eq_comm]
    | cons c' line =>
      have hc' : CodePoint.char '\n' ≠ c' := (List.ne_and_not_mem_of_not_mem_cons hline).1
      simp [crlf, hc', List.getLast?_cons_cons]

/-- Joined by line feeds alone the lines show no pair. -/
theorem Bare.not_isInfix_unlines {ls : List Text} (h : Bare ls) : ¬ crlf <:+: unlines ls := by
  induction ls with
  | nil => simp [unlines, crlf]
  | cons line rest ih =>
    obtain ⟨hline, hlast⟩ := h line (List.mem_cons_self ..)
    have hrest : Bare rest := fun l hl => h l (List.mem_cons_of_mem _ hl)
    cases rest with
    | nil =>
      rw [unlines, List.intercalate_singleton]
      exact fun hpart => hline (hpart.subset (by simp [crlf]))
    | cons line' rest =>
      rw [unlines_cons_cons, crlf_isInfix_append_feed hline]
      rintro (hreturn | hpart)
      · exact hlast hreturn
      · exact ih hrest hpart

theorem lines_intercalate_crlf {ls : List Text} (hne : ls ≠ [])
    (hfeed : ∀ l ∈ ls, .char '\n' ∉ l) :
    Text.lines (List.intercalate crlf ls) = returned ls := by
  induction ls with
  | nil => exact absurd rfl hne
  | cons line rest ih =>
    have hline : .char '\n' ∉ line := hfeed line (List.mem_cons_self ..)
    cases rest with
    | nil =>
      rw [List.intercalate_singleton, Text.lines, splitOn_of_not_mem hline, returned_singleton]
    | cons line' rest =>
      have hcut : .char '\n' ∉ line ++ [.char '\r'] := by simp [hline]
      rw [intercalate_crlf_cons_cons, Text.lines, splitOn_append_cons hcut, ← Text.lines,
        ih (by simp) (fun l hl => hfeed l (List.mem_cons_of_mem _ hl)), returned_cons_cons]

/-- The carriage returns are taken again, if the last line has none of its own. -/
theorem map_dropCr_returned {ls : List Text}
    (hlast : ∀ l ∈ ls.getLast?, l.getLast? ≠ some (.char '\r')) :
    (returned ls).map dropCr = ls := by
  induction ls with
  | nil => rfl
  | cons line rest ih =>
    cases rest with
    | nil =>
      have hline : dropCr line = line := dropCr_of_getLast?_ne (hlast line rfl)
      simp [returned_singleton, hline]
    | cons line' rest =>
      rw [returned_cons_cons, List.map_cons, dropCr_concat_return, ih]
      rw [List.getLast?_cons_cons] at hlast
      exact hlast

theorem length_returned (ls : List Text) : (returned ls).length = ls.length := by
  induction ls with
  | nil => rfl
  | cons line rest ih =>
    cases rest with
    | nil => rfl
    | cons line' rest => rw [returned_cons_cons, List.length_cons, ih, ← List.length_cons]

theorem getLast?_returned (ls : List Text) : (returned ls).getLast? = ls.getLast? := by
  induction ls with
  | nil => rfl
  | cons line rest ih =>
    cases rest with
    | nil => rfl
    | cons line' rest =>
      have hne : returned (line' :: rest) ≠ [] := by
        rw [← List.length_pos_iff, length_returned]
        simp
      obtain ⟨first, others, hothers⟩ := List.exists_cons_of_ne_nil hne
      rw [returned_cons_cons, hothers, List.getLast?_cons_cons, ← hothers, ih,
        List.getLast?_cons_cons]

theorem noFeed_returned {ls : List Text} (h : ∀ l ∈ ls, .char '\n' ∉ l) :
    ∀ l ∈ returned ls, .char '\n' ∉ l := by
  induction ls with
  | nil => exact h
  | cons line rest ih =>
    cases rest with
    | nil => exact h
    | cons line' rest =>
      intro l hl
      rcases List.mem_cons.mp hl with rfl | hl
      · simp [h line (List.mem_cons_self ..)]
      · exact ih (fun k hk => h k (List.mem_cons_of_mem _ hk)) l hl

/-- The pair stands behind the first of two lines or more. -/
theorem hasPart_intercalate_crlf {ls : List Text} (hlen : 2 ≤ ls.length) :
    hasPart crlf (List.intercalate crlf ls) = true := by
  match ls, hlen with
  | line :: line' :: rest, _ =>
    exact hasPart_iff_isInfix.mpr
      ⟨line, List.intercalate crlf (line' :: rest), List.intercalate_cons_cons.symm⟩

/-- Lines that are joined by the pair are read again even if they end with carriage returns,
the last one apart. -/
theorem ofText_intercalate_crlf {ls : List Text} (hlen : 2 ≤ ls.length)
    (hfeed : ∀ l ∈ ls, .char '\n' ∉ l)
    (hlast : ∀ l ∈ ls.getLast?, l.getLast? ≠ some (.char '\r')) (path : Option Text) :
    ofText (List.intercalate crlf ls) path =
      ⟨ls, crlf, path, List.length_pos_iff.mp (Nat.lt_of_lt_of_le Nat.zero_lt_two hlen)⟩ := by
  have hne : ls ≠ [] := List.length_pos_iff.mp (Nat.lt_of_lt_of_le Nat.zero_lt_two hlen)
  have hlines : (Text.lines (List.intercalate crlf ls)).map dropCr = ls := by
    rw [lines_intercalate_crlf hne hfeed, map_dropCr_returned hlast]
  simp only [ofText, linesOf, eolOf, hasPart_intercalate_crlf hlen, hlines, if_true]

/-- Nothing of a line is lost when it is read again, but for a carriage return at its end. -/
def ReadAs (line line' : Text) : Prop := line' = line ∨ line' = dropCr line

theorem forall₂_dropCr_returned (ls : List Text) :
    List.Forall₂ ReadAs ls ((returned ls).map dropCr) := by
  induction ls with
  | nil => exact .nil
  | cons line rest ih =>
    cases rest with
    | nil => exact .cons (Or.inr rfl) .nil
    | cons line' rest => exact .cons (Or.inl (dropCr_concat_return line)) ih

/-- Joined lines are read again one for one, whatever they end with. -/
theorem forall₂_ofText_intercalate {eol : Text} (heol : eol = lf ∨ eol = crlf) {ls : List Text}
    (hne : ls ≠ []) (hfeed : ∀ l ∈ ls, .char '\n' ∉ l) (path : Option Text) :
    List.Forall₂ ReadAs ls (ofText (List.intercalate eol ls) path).lines := by
  have hsame : List.Forall₂ ReadAs ls ls := List.forall₂_same.mpr fun _ _ => Or.inl rfl
  have hcut : List.Forall₂ ReadAs ls (ls.map dropCr) :=
    List.forall₂_map_right_iff.mpr (List.forall₂_same.mpr fun _ _ => Or.inr rfl)
  change List.Forall₂ ReadAs ls (linesOf (List.intercalate eol ls))
  unfold linesOf
  rcases heol with rfl | rfl
  · have hlines : Text.lines (List.intercalate lf ls) = ls := lines_unlines hne hfeed
    rw [hlines]
    split_ifs
    · exact hcut
    · exact hsame
  · rw [lines_intercalate_crlf hne hfeed]
    split_ifs with hpart
    · exact forall₂_dropCr_returned ls
    · -- the pair is missing only if there is a single line
      match ls, hne with
      | [line], _ => exact hsame
      | line :: line' :: rest, _ => exact absurd (hasPart_intercalate_crlf (by simp)) hpart

/-- **Joined lines are read as they were joined**, and so is the ending between them. -/
theorem ofText_intercalate {eol : Text} (heol : eol = lf ∨ eol = crlf) {ls : List Text}
    (hne : ls ≠ []) (hbare : Bare ls) (path : Option Text) :
    ofText (List.intercalate eol ls) path = ⟨ls, settled eol ls, path, hne⟩ := by
  have hfeeds : ofText (unlines ls) path = ⟨ls, lf, path, hne⟩ := by
    have hno : hasPart crlf (unlines ls) = false :=
      Bool.eq_false_iff.mpr (mt hasPart_iff_isInfix.mp hbare.not_isInfix_unlines)
    simp only [ofText, linesOf, eolOf, hno, lines_unlines hne hbare.noFeed, Bool.false_eq_true,
      if_false]
  by_cases hone : ls.length = 1
  · -- no ending stands behind a single line
    obtain ⟨line, rfl⟩ := List.length_eq_one_iff.mp hone
    have hjoin : List.intercalate eol [line] = unlines [line] := by
      rw [unlines, List.intercalate_singleton, List.intercalate_singleton]
    rw [hjoin, hfeeds, settled, if_pos hone]
  · rw [settled, if_neg hone]
    rcases heol with rfl | rfl
    · exact hfeeds
    · have hpos := List.length_pos_iff.mpr hne
      have hlast : ∀ l ∈ ls.getLast?, l.getLast? ≠ some (.char '\r') :=
        fun l hl => (hbare l (List.mem_of_getLast? hl)).2
      exact ofText_intercalate_crlf (by omega) hbare.noFeed hlast path

/-! ## Line feeds written as an ending -/

/-- Writes a line feed for every carriage return with a line feed behind it, and for that
line feed. -/
def feedsOnly : Text → Text
  | c :: d :: rest =>
      if c = .char '\r' ∧ d = .char '\n' then d :: feedsOnly rest else c :: feedsOnly (d :: rest)
  | t => t

theorem feedsOnly_cons_cons (c d : CodePoint) (rest : Text) :
    feedsOnly (c :: d :: rest) =
      if c = .char '\r' ∧ d = .char '\n' then d :: feedsOnly rest
      else c :: feedsOnly (d :: rest) := rfl

theorem withEol_cons_feed (eol t : Text) :
    withEol eol (.char '\n' :: t) = eol ++ withEol eol t := by
  simp [withEol]

theorem withEol_cons_of_ne {c : CodePoint} (h : c ≠ .char '\n') (eol t : Text) :
    withEol eol (c :: t) = c :: withEol eol t := by
  simp [withEol, h]

theorem withEol_of_not_mem (eol : Text) {t : Text} (h : .char '\n' ∉ t) : withEol eol t = t := by
  induction t with
  | nil => rfl
  | cons c rest ih =>
    obtain ⟨hc, hrest⟩ := List.ne_and_not_mem_of_not_mem_cons h
    rw [withEol_cons_of_ne (Ne.symm hc), ih hrest]

theorem withEol_append (eol s t : Text) : withEol eol (s ++ t) = withEol eol s ++ withEol eol t :=
  List.flatMap_append

theorem withEol_lf (t : Text) : withEol lf t = t := by
  induction t with
  | nil => rfl
  | cons c rest ih =>
    by_cases hc : c = .char '\n'
    · rw [hc, withEol_cons_feed, ih]
      rfl
    · rw [withEol_cons_of_ne hc, ih]

theorem withEol_unlines (eol : Text) {ls : List Text} (h : ∀ l ∈ ls, .char '\n' ∉ l) :
    withEol eol (unlines ls) = List.intercalate eol ls := by
  induction ls with
  | nil => rfl
  | cons line rest ih =>
    have hline := withEol_of_not_mem eol (h line (List.mem_cons_self ..))
    cases rest with
    | nil => rw [unlines, List.intercalate_singleton, List.intercalate_singleton, hline]
    | cons line' rest =>
      rw [unlines_cons_cons, withEol_append, withEol_cons_feed, hline,
        ih (fun l hl => h l (List.mem_cons_of_mem _ hl)), List.intercalate_cons_cons,
        List.append_assoc]

theorem withEol_eq_intercalate (eol t : Text) :
    withEol eol t = List.intercalate eol (Text.lines t) := by
  rw [← withEol_unlines eol fun l hl => not_mem_of_mem_lines hl, unlines_lines]

theorem feedsOnly_cons_of_ne {c : CodePoint} {t : Text}
    (h : ¬ (c = .char '\r' ∧ t.head? = some (.char '\n'))) :
    feedsOnly (c :: t) = c :: feedsOnly t := by
  cases t with
  | nil => rfl
  | cons d rest =>
    rw [feedsOnly_cons_cons, if_neg]
    simpa using h

theorem head?_withEol_crlf (t : Text) : (withEol crlf t).head? ≠ some (.char '\n') := by
  cases t with
  | nil => simp [withEol]
  | cons c rest =>
    by_cases hc : c = .char '\n'
    · rw [hc, withEol_cons_feed]
      simp [crlf]
    · rw [withEol_cons_of_ne hc]
      simpa using hc

/-- **The pairs that were written are read as line feeds**, whatever stands in front of them. -/
theorem feedsOnly_withEol_crlf (t : Text) : feedsOnly (withEol crlf t) = t := by
  induction t with
  | nil => rfl
  | cons c rest ih =>
    by_cases hc : c = .char '\n'
    · rw [hc, withEol_cons_feed, crlf, List.cons_append, List.cons_append, List.nil_append,
        feedsOnly_cons_cons, if_pos ⟨rfl, rfl⟩, ← crlf, ih]
    · rw [withEol_cons_of_ne hc,
        feedsOnly_cons_of_ne fun hpair => head?_withEol_crlf rest hpair.2, ih]

theorem feedsOnly_of_not_isInfix {t : Text} (h : ¬ crlf <:+: t) : feedsOnly t = t := by
  induction t with
  | nil => rfl
  | cons c rest ih =>
    rw [List.infix_cons_iff, not_or] at h
    have hpair : ¬ (c = .char '\r' ∧ rest.head? = some (.char '\n')) := by
      rintro ⟨rfl, hd⟩
      obtain ⟨rest', rfl⟩ := List.head?_eq_some_iff.mp hd
      exact h.1 ⟨rest', rfl⟩
    rw [feedsOnly_cons_of_ne hpair, ih h.2]

theorem withEol_inj {eol : Text} (heol : eol = lf ∨ eol = crlf) {s t : Text} :
    withEol eol s = withEol eol t ↔ s = t := by
  refine ⟨fun h => ?_, fun h => h ▸ rfl⟩
  rcases heol with rfl | rfl
  · rwa [withEol_lf, withEol_lf] at h
  · rw [← feedsOnly_withEol_crlf s, h, feedsOnly_withEol_crlf]

end SchemaEditor.Document
