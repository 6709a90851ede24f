import SchemaEditor.Proofs.Document.Edit

/-!
# The order of offsets

A position that names no place stands for one (`clamp`): a line that is not there stands for
the last line, and a column that is not there for the end of the line.  The two are settled one
after the other, so a position past the last line stands in the last line at its own column, and
not at the end of the text.  Hence the offsets of two positions are in the order of the positions
unless both stand in the last line and the second one has the smaller column there
(`offsetAt_le_iff`); and they are in order if the line of the second one is there
(`keepsOrder_of_line`).

A patch whose offsets are in order takes one slice out of the text and puts its own text there.
Reading the result anew rewrites line endings, and so changes nothing but carriage returns
(`content_text_ofText`).  What is left of the text before is therefore the part in front of the
slice and the part behind it, each character once (`apply_replaces_slice`).
-/

namespace SchemaEditor.Document
open Text

variable (d : Document) (p q : Position)

/-! ## The place of a position -/

/-- The last line. -/
def lastLine : Text := d.lineAt (d.lineCount - 1)

/-- The place that a position stands for. -/
def clamp : Position :=
  ⟨min p.line (d.lineCount - 1), min p.column (d.lineAt (min p.line (d.lineCount - 1))).length⟩

/-- The places that two positions stand for are in the order of the positions, if those are: the
first one stands in front of the last line, or the columns that they have in that line are in
order. -/
def KeepsOrder : Prop :=
  p.line < d.lineCount - 1 ∨ min p.column d.lastLine.length ≤ min q.column d.lastLine.length

variable {d p q}

theorem lineCount_pos : 0 < d.lineCount := List.length_pos_iff.mpr d.lines_ne

theorem holds_clamp : d.Holds (d.clamp p) := by
  have hpos := lineCount_pos (d := d)
  refine ⟨?_, Nat.min_le_right _ _⟩
  show min p.line (d.lineCount - 1) < d.lineCount
  omega

/-- **The offset of a position is where its place cuts the text.** -/
theorem offsetAt_eq_front : d.offsetAt p = (d.front (d.clamp p)).length := by
  have hclamped : d.offsetAt p = d.offsetAt (d.clamp p) := by
    have hline : min (min p.line (d.lineCount - 1)) (d.lineCount - 1) =
        min p.line (d.lineCount - 1) := by omega
    simp only [offsetAt, clamp, Nat.min_def] at hline ⊢
    simp only [hline]
    split_ifs <;> omega
  rw [hclamped, offsetAt_eq holds_clamp]

theorem offsetAt_le_length : d.offsetAt p ≤ d.text.length := by
  rw [offsetAt_eq_front, text_eq (holds_clamp (p := p)), List.length_append]
  exact Nat.le_add_right _ _

/-- A position whose line is the last one, or past it, stands in the last line at its own
column. -/
theorem offsetAt_of_last (h : d.lineCount - 1 ≤ p.line) :
    d.offsetAt p =
      startOf d.eol.length d.lines (d.lineCount - 1) + min p.column d.lastLine.length := by
  have hline : Nat.min p.line (d.lineCount - 1) = d.lineCount - 1 := Nat.min_eq_right h
  simp only [offsetAt, hline]
  rfl

/-! ## Order -/

/-- The lines in front of a line, and that line, are in front of every later one. -/
theorem length_above_take {m n : Nat} (hmn : m < n) (hn : n ≤ d.lineCount) :
    (above d.eol (d.lines.take m)).length + (d.lineAt m).length ≤
      (above d.eol (d.lines.take n)).length := by
  have hsplit : d.lines.take n =
      d.lines.take m ++ d.lineAt m :: (d.lines.drop (m + 1)).take (n - (m + 1)) := by
    have hlt : m < d.lineCount := Nat.lt_of_lt_of_le hmn hn
    have hfront : (d.lines.take m).length = m := List.length_take_of_le (Nat.le_of_lt hlt)
    conv_lhs => rw [lines_eq_of_lt hlt]
    rw [List.take_append, hfront, List.take_of_length_le (by omega)]
    obtain ⟨k, rfl⟩ : ∃ k, n = m + 1 + k := ⟨n - (m + 1), by omega⟩
    have hone : m + 1 + k - m = k + 1 := by omega
    rw [hone, List.take_succ_cons, Nat.add_sub_cancel_left]
  rw [hsplit]
  simp only [above, List.flatMap_append, List.flatMap_cons, List.length_append]
  omega

/-- Places in order cut the text in order. -/
theorem length_front_le (hq : d.Holds q) (h : p ≤ q) :
    (d.front p).length ≤ (d.front q).length := by
  simp only [front, List.length_append, List.length_take]
  rcases Position.le_def.mp h with hline | ⟨hline, hcolumn⟩
  · have habove := length_above_take hline (Nat.le_of_lt hq.1)
    omega
  · rw [hline]
    omega

/-- **The offsets of two positions in order are in order** unless both stand in the last line
and the columns that they have there are not. -/
theorem offsetAt_le_iff (h : p ≤ q) : d.offsetAt p ≤ d.offsetAt q ↔ d.KeepsOrder p q := by
  have hlines : p.line ≤ q.line := by
    rcases Position.le_def.mp h with hline | ⟨hline, -⟩ <;> omega
  by_cases hp : p.line < d.lineCount - 1
  · refine ⟨fun _ => Or.inl hp, fun _ => ?_⟩
    rw [offsetAt_eq_front, offsetAt_eq_front]
    refine length_front_le holds_clamp (Position.le_def.mpr ?_)
    rcases Position.le_def.mp h with hline | ⟨hline, hcolumn⟩
    · left
      show min p.line (d.lineCount - 1) < min q.line (d.lineCount - 1)
      omega
    · right
      rw [clamp, clamp, hline]
      exact ⟨rfl, by show min p.column _ ≤ min q.column _; omega⟩
  · rw [offsetAt_of_last (p := p) (by omega), offsetAt_of_last (p := q) (by omega)]
    constructor
    · intro hle
      exact Or.inr (by omega)
    · rintro (hlt | hle)
      · exact absurd hlt hp
      · omega

/-- Two positions keep their order if the line of the second one is there. -/
theorem keepsOrder_of_line (h : p ≤ q) (hq : q.line < d.lineCount) : d.KeepsOrder p q := by
  rcases Position.le_def.mp h with hline | ⟨hline, hcolumn⟩
  · exact Or.inl (by omega)
  · exact Or.inr (by omega)

/-! ## Slices -/

/-- A text without its carriage returns. -/
def content (t : Text) : Text := t.filter fun c => decide (c ≠ .char '\r')

theorem content_append (s t : Text) : content (s ++ t) = content s ++ content t :=
  List.filter_append ..

theorem content_dropCr (line : Text) : content (dropCr line) = content line := by
  by_cases hlast : line.getLast? = some (.char '\r')
  · obtain ⟨front, rfl⟩ := List.getLast?_eq_some_iff.mp hlast
    rw [dropCr_concat_return, content_append]
    simp [content]
  · rw [dropCr_of_getLast?_ne hlast]

theorem content_intercalate (between : Text) (ls : List Text) :
    content (List.intercalate between ls) =
      List.intercalate (content between) (ls.map content) := by
  induction ls with
  | nil => rfl
  | cons line rest ih =>
    cases rest with
    | nil => simp
    | cons line' rest =>
      rw [List.intercalate_cons_cons, content_append, content_append, ih]
      simp only [List.map_cons, List.intercalate_cons_cons]

/-- **Reading a text changes nothing of it but carriage returns.** -/
theorem content_text_ofText (t : Text) (path : Option Text) :
    content (ofText t path).text = content t := by
  have hlines : (linesOf t).map content = (Text.lines t).map content := by
    unfold linesOf
    split_ifs
    · rw [List.map_map]
      exact List.map_congr_left fun line _ => content_dropCr line
    · rfl
  have heol : content (eolOf t) = content lf := by
    unfold eolOf
    split_ifs <;> rfl
  calc content (ofText t path).text
      = List.intercalate (content lf) ((Text.lines t).map content) := by
        rw [text, content_intercalate, ← hlines, ← heol]
        rfl
    _ = content (unlines (Text.lines t)) := (content_intercalate lf _).symm
    _ = content t := by rw [unlines_lines]

/-- A patch takes the text between two others out of a document, and puts its own text there. -/
structure TakesOut (d : Document) (p : Patch) (before removed after : Text) : Prop where
  text : d.text = before ++ removed ++ after
  start : d.offsetAt p.range.start = before.length
  stop : d.offsetAt p.range.stop = (before ++ removed).length
  /-- The line feeds of the new text are written in the line ending, and the result is read. -/
  result : d.apply p = ofText (before ++ withEol d.eol p.newText ++ after) d.path
  /-- Carriage returns apart, each character of the parts that stay is there once. -/
  stays : content (d.apply p).text =
    content before ++ content (withEol d.eol p.newText) ++ content after

theorem takesOut_of_le {p : Patch} (h : d.offsetAt p.range.start ≤ d.offsetAt p.range.stop) :
    d.TakesOut p (d.text.take (d.offsetAt p.range.start))
      ((d.text.take (d.offsetAt p.range.stop)).drop (d.offsetAt p.range.start))
      (d.text.drop (d.offsetAt p.range.stop)) := by
  have hlength : d.offsetAt p.range.stop ≤ d.text.length := offsetAt_le_length
  have hbefore : d.text.take (d.offsetAt p.range.start) ++
      (d.text.take (d.offsetAt p.range.stop)).drop (d.offsetAt p.range.start) =
        d.text.take (d.offsetAt p.range.stop) := by
    have htake : d.text.take (d.offsetAt p.range.start) =
        (d.text.take (d.offsetAt p.range.stop)).take (d.offsetAt p.range.start) := by
      rw [List.take_take, Nat.min_eq_left h]
    rw [htake, List.take_append_drop]
  exact {
    text := by rw [hbefore, List.take_append_drop]
    start := (List.length_take_of_le (Nat.le_trans h hlength)).symm
    stop := by rw [hbefore, List.length_take_of_le hlength]
    result := rfl
    stays := by rw [apply, content_text_ofText, content_append, content_append] }

/-- **A patch whose offsets are in order replaces one slice.**  The offsets of two positions in
order lie in the text, and they are in order exactly if the positions keep their order, as they
do if the line of the second one is there.  A patch for a range of this kind takes one slice,
which may be empty, out of the text, and what stays of the text stays once. -/
theorem apply_replaces_slice (d : Document) :
    (∀ p q : Position, p ≤ q →
      d.offsetAt p ≤ d.text.length ∧ d.offsetAt q ≤ d.text.length ∧
        (d.offsetAt p ≤ d.offsetAt q ↔ d.KeepsOrder p q) ∧
          (q.line < d.lineCount → d.KeepsOrder p q)) ∧
      ∀ p : Patch, d.KeepsOrder p.range.start p.range.stop →
        ∃ before removed after, d.TakesOut p before removed after := by
  refine ⟨fun p q h => ?_, fun p hp => ?_⟩
  · exact ⟨offsetAt_le_length, offsetAt_le_length, offsetAt_le_iff h, keepsOrder_of_line h⟩
  · exact ⟨_, _, _, takesOut_of_le ((offsetAt_le_iff p.range.ordered).mpr hp)⟩

/-- A patch that ends past the end of a line takes out the rest of that line. -/
theorem apply_replaces_slice_rest :
    let d := ofText (ofString "a b\r\nc") none
    let p : Patch := ⟨⟨⟨0, 1⟩, ⟨0, 9⟩, by decide⟩, ofString "x\ny"⟩
    d.KeepsOrder p.range.start p.range.stop ∧
      (∃ before removed after, d.TakesOut p before removed after) ∧
        (d.apply p).text = ofString "ax\r\ny\r\nc" := by
  intro d p
  have hline : p.range.stop.line < d.lineCount := by decide
  have hp : d.KeepsOrder p.range.start p.range.stop :=
    ((apply_replaces_slice d).1 _ _ p.range.ordered).2.2.2 hline
  exact ⟨hp, (apply_replaces_slice d).2 p hp, by decide⟩

/-- A position past the last line stands in front of one in the last line, and a patch for the
range between them writes the last line twice. -/
theorem offsetAt_past_last_line :
    let d := ofText (ofString "abc") none
    let p : Patch := ⟨⟨⟨0, 3⟩, ⟨1, 0⟩, by decide⟩, ofString "x"⟩
    d.offsetAt p.range.start = 3 ∧ d.offsetAt p.range.stop = 0 ∧
      ¬ d.offsetAt p.range.start ≤ d.offsetAt p.range.stop ∧
        (d.apply p).text = ofString "abcxabc" ∧
          ¬ ∃ before removed after, d.text = before ++ removed ++ after ∧
            (d.apply p).text = before ++ p.newText ++ after := by
  intro d p
  have htext : (d.apply p).text = ofString "abcxabc" := by decide
  refine ⟨by decide, by decide, by decide, htext, ?_⟩
  rintro ⟨before, removed, after, hold, hnew⟩
  have hlength : before.length + removed.length + after.length = 3 := by
    have hcount := congrArg List.length hold
    have hthree : d.text.length = 3 := by decide
    simp only [List.length_append] at hcount
    omega
  have hlength' : before.length + 1 + after.length = 7 := by
    have hcount := congrArg List.length (hnew.symm.trans htext)
    have hseven : (ofString "abcxabc").length = 7 := by decide
    have hone : p.newText.length = 1 := by decide
    simp only [List.length_append] at hcount
    omega
  omega

end SchemaEditor.Document
