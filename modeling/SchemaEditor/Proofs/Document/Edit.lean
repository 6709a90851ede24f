import Mathlib.Data.List.GetD
import SchemaEditor.Proofs.Document.Ending

/-!
# Edits

A patch speaks of places in lines (`Holds`), and is carried out on the joined text.  The lines
in front of a place, each with its line ending, are as long as the offset says
(`startOf_append`), so the joined text is cut at the place (`text_eq`).  What a patch leaves are
then the lines in front of it, the lines of what is made of its first and its last line, and
the lines behind it (`spliced`, `apply_eq`), if no line comes to end with a carriage return.

In particular a text that is put into a line changes no other line (`apply_insert`).
-/

namespace SchemaEditor.Document
open Text

variable {before after : List Text} {line : Text}

/-! ## Offsets -/

/-- The lines in front of a line, each with its line ending. -/
def above (eol : Text) (before : List Text) : Text := before.flatMap (· ++ eol)

/-- The lines behind a line, each with a line ending in front of it. -/
def below (eol : Text) (after : List Text) : Text := after.flatMap (eol ++ ·)

theorem intercalate_cons (eol line : Text) (after : List Text) :
    List.intercalate eol (line :: after) = line ++ below eol after := by
  induction after generalizing line with
  | nil => simp [below]
  | cons line' after ih =>
    rw [List.intercalate_cons_cons, ih line', List.append_assoc]
    simp [below]

/-- Joined lines, as seen from one of them. -/
theorem intercalate_append_cons (eol : Text) (before : List Text) (line : Text)
    (after : List Text) :
    List.intercalate eol (before ++ line :: after) =
      above eol before ++ line ++ below eol after := by
  induction before with
  | nil => exact intercalate_cons eol line after
  | cons first before ih =>
    obtain ⟨line', rest, hrest⟩ : ∃ line' rest, before ++ line :: after = line' :: rest :=
      List.exists_cons_of_ne_nil (by simp)
    rw [List.cons_append, hrest, List.intercalate_cons_cons, ← hrest, ih]
    simp [above]

/-- Joined lines, as seen from some of them. -/
theorem intercalate_append_append (eol : Text) (before : List Text) {ls : List Text}
    (hne : ls ≠ []) (after : List Text) :
    List.intercalate eol (before ++ ls ++ after) =
      above eol before ++ List.intercalate eol ls ++ below eol after := by
  obtain ⟨line, rest, rfl⟩ := List.exists_cons_of_ne_nil hne
  rw [List.append_assoc, List.cons_append, intercalate_append_cons, intercalate_cons]
  simp [below]

/-- A line starts behind the lines in front of it. -/
theorem startOf_append (eol : Text) (before rest : List Text) :
    startOf eol.length (before ++ rest) before.length = (above eol before).length := by
  induction before with
  | nil => simp [startOf, above]
  | cons first before ih =>
    rw [List.cons_append, List.length_cons, startOf, ih]
    simp [above, Nat.add_assoc]

/-! ## Places -/

variable (d : Document) {p : Position}

/-- There is a character at the position, or the end of a line. -/
def Holds (p : Position) : Prop := p.line < d.lineCount ∧ p.column ≤ (d.lineAt p.line).length

/-- The text in front of a place. -/
def front (p : Position) : Text :=
  above d.eol (d.lines.take p.line) ++ (d.lineAt p.line).take p.column

/-- The text behind a place. -/
def back (p : Position) : Text :=
  (d.lineAt p.line).drop p.column ++ below d.eol (d.lines.drop (p.line + 1))

variable {d}

theorem lines_eq_of_lt {n : Nat} (h : n < d.lineCount) :
    d.lines = d.lines.take n ++ d.lineAt n :: d.lines.drop (n + 1) := by
  have hlt : n < d.lines.length := h
  have hget : d.lineAt n = d.lines[n] := List.getD_eq_getElem _ _ hlt
  rw [hget, List.getElem_cons_drop, List.take_append_drop]

/-- **A place cuts the text in two.** -/
theorem text_eq (hp : d.Holds p) : d.text = d.front p ++ d.back p := by
  calc d.text
      = List.intercalate d.eol
          (d.lines.take p.line ++ d.lineAt p.line :: d.lines.drop (p.line + 1)) := by
        rw [← lines_eq_of_lt hp.1, text]
    _ = above d.eol (d.lines.take p.line) ++
          ((d.lineAt p.line).take p.column ++ (d.lineAt p.line).drop p.column) ++
            below d.eol (d.lines.drop (p.line + 1)) := by
        rw [intercalate_append_cons, List.take_append_drop]
    _ = d.front p ++ d.back p := by simp only [front, back, List.append_assoc]

/-- **The offset of a place is where it cuts the text**: nothing is clamped. -/
theorem offsetAt_eq (hp : d.Holds p) : d.offsetAt p = (d.front p).length := by
  obtain ⟨hline, hcolumn⟩ := hp
  have hlast : Nat.min p.line (d.lineCount - 1) = p.line := Nat.min_eq_left (by omega)
  have hmin : Nat.min p.column (d.lineAt p.line).length = p.column := Nat.min_eq_left hcolumn
  have hlength : (d.lines.take p.line).length = p.line :=
    List.length_take_of_le (Nat.le_of_lt hline)
  have hstart := startOf_append d.eol (d.lines.take p.line) (d.lines.drop p.line)
  rw [List.take_append_drop, hlength] at hstart
  simp only [offsetAt, hlast, hmin, hstart, front, List.length_append,
    List.length_take_of_le hcolumn]

theorem take_offsetAt (hp : d.Holds p) : d.text.take (d.offsetAt p) = d.front p := by
  rw [offsetAt_eq hp, text_eq hp, List.take_left]

theorem drop_offsetAt (hp : d.Holds p) : d.text.drop (d.offsetAt p) = d.back p := by
  rw [offsetAt_eq hp, text_eq hp, List.drop_left]

/-! ## Splices -/

variable (d)

/-- What a patch makes of the line that it starts in and the one that it ends in. -/
def patched (p : Patch) : Text :=
  (d.lineAt p.range.start.line).take p.range.start.column ++ p.newText ++
    (d.lineAt p.range.stop.line).drop p.range.stop.column

/-- The lines that a patch leaves. -/
def spliced (p : Patch) : List Text :=
  d.lines.take p.range.start.line ++ Text.lines (d.patched p) ++
    d.lines.drop (p.range.stop.line + 1)

theorem spliced_ne_nil (p : Patch) : d.spliced p ≠ [] := by
  simp [spliced, Text.lines_ne_nil]

variable {d}

theorem not_mem_lineAt {c : CodePoint} (h : ∀ l ∈ d.lines, c ∉ l) (n : Nat) : c ∉ d.lineAt n := by
  by_cases hn : n < d.lines.length
  · rw [lineAt, List.getD_eq_getElem _ _ hn]
    exact h _ (List.getElem_mem hn)
  · rw [lineAt, List.getD_eq_default _ _ (Nat.le_of_not_lt hn)]
    exact List.not_mem_nil

theorem not_mem_patched {c : CodePoint} (h : ∀ l ∈ d.lines, c ∉ l) {p : Patch}
    (hp : c ∉ p.newText) : c ∉ d.patched p := by
  have hfirst : c ∉ (d.lineAt p.range.start.line).take p.range.start.column :=
    fun hc => not_mem_lineAt h _ (List.mem_of_mem_take hc)
  have hlast : c ∉ (d.lineAt p.range.stop.line).drop p.range.stop.column :=
    fun hc => not_mem_lineAt h _ (List.mem_of_mem_drop hc)
  simp [patched, hfirst, hp, hlast]

/-- What no line has and the new text has not is in none of the lines that a patch leaves. -/
theorem not_mem_spliced {c : CodePoint} (h : ∀ l ∈ d.lines, c ∉ l) {p : Patch}
    (hp : c ∉ p.newText) : ∀ l ∈ d.spliced p, c ∉ l := by
  intro l hl
  rcases List.mem_append.mp hl with hl | hl
  · rcases List.mem_append.mp hl with hl | hl
    · exact h l (List.mem_of_mem_take hl)
    · exact fun hc => not_mem_patched h hp (subset_of_mem_splitOn hl hc)
  · exact h l (List.mem_of_mem_drop hl)

theorem noFeed_spliced (h : ∀ l ∈ d.lines, .char '\n' ∉ l) (p : Patch) :
    ∀ l ∈ d.spliced p, .char '\n' ∉ l := by
  intro l hl
  rcases List.mem_append.mp hl with hl | hl
  · rcases List.mem_append.mp hl with hl | hl
    · exact h l (List.mem_of_mem_take hl)
    · exact not_mem_of_mem_lines hl
  · exact h l (List.mem_of_mem_drop hl)

/-- The text that a patch leaves is the join of the lines that it leaves. -/
theorem patched_text (hfeed : ∀ l ∈ d.lines, .char '\n' ∉ l) {p : Patch}
    (hstart : d.Holds p.range.start) (hstop : d.Holds p.range.stop) :
    d.text.take (d.offsetAt p.range.start) ++ withEol d.eol p.newText ++
        d.text.drop (d.offsetAt p.range.stop) =
      List.intercalate d.eol (d.spliced p) := by
  -- only the new text has line feeds to be written
  have hfirst : withEol d.eol ((d.lineAt p.range.start.line).take p.range.start.column) =
      (d.lineAt p.range.start.line).take p.range.start.column :=
    withEol_of_not_mem _ fun hc => not_mem_lineAt hfeed _ (List.mem_of_mem_take hc)
  have hlast : withEol d.eol ((d.lineAt p.range.stop.line).drop p.range.stop.column) =
      (d.lineAt p.range.stop.line).drop p.range.stop.column :=
    withEol_of_not_mem _ fun hc => not_mem_lineAt hfeed _ (List.mem_of_mem_drop hc)
  have hmiddle : List.intercalate d.eol (Text.lines (d.patched p)) =
      (d.lineAt p.range.start.line).take p.range.start.column ++ withEol d.eol p.newText ++
        (d.lineAt p.range.stop.line).drop p.range.stop.column := by
    rw [← withEol_eq_intercalate, patched, withEol_append, withEol_append, hfirst, hlast]
  rw [take_offsetAt hstart, drop_offsetAt hstop, spliced,
    intercalate_append_append _ _ (Text.lines_ne_nil _), hmiddle]
  simp only [front, back, List.append_assoc]

/-- **A patch leaves the lines around its places and the lines of what it makes of the
others.** -/
theorem apply_eq (heol : d.eol = lf ∨ d.eol = crlf) (hfeed : ∀ l ∈ d.lines, .char '\n' ∉ l)
    {p : Patch} (hstart : d.Holds p.range.start) (hstop : d.Holds p.range.stop)
    (hbare : Bare (d.spliced p)) :
    d.apply p = ⟨d.spliced p, settled d.eol (d.spliced p), d.path, d.spliced_ne_nil p⟩ := by
  rw [apply, patched_text hfeed hstart hstop, ofText_intercalate heol (d.spliced_ne_nil p) hbare]

/-! ## The whole document -/

theorem fullRange_holds : d.Holds d.fullRange.start ∧ d.Holds d.fullRange.stop := by
  have hpos : 0 < d.lineCount := List.length_pos_iff.mpr d.lines_ne
  refine ⟨⟨hpos, Nat.zero_le _⟩, ?_, Nat.le_refl _⟩
  change d.lineCount - 1 < d.lineCount
  omega

/-- A patch for the whole document leaves nothing of it but the line ending. -/
theorem apply_fullRange (t : Text) :
    d.apply ⟨d.fullRange, t⟩ = ofText (withEol d.eol t) d.path := by
  obtain ⟨hstart, hstop⟩ := fullRange_holds (d := d)
  have hpos : 0 < d.lines.length := List.length_pos_iff.mpr d.lines_ne
  have hfront : d.text.take (d.offsetAt d.fullRange.start) = [] := by
    rw [take_offsetAt hstart]
    simp [front, fullRange, above]
  have hback : d.text.drop (d.offsetAt d.fullRange.stop) = [] := by
    have hlast : d.lines.drop (d.lineCount - 1 + 1) = [] :=
      List.drop_eq_nil_of_le (by rw [lineCount]; omega)
    rw [drop_offsetAt hstop]
    simp [back, fullRange, below, hlast]
  rw [apply, hfront, hback, List.nil_append, List.append_nil]

/-! ## One insertion -/

/-- A text with another one put in at a column. -/
def insertAt (column : Nat) (inserted line : Text) : Text :=
  line.take column ++ inserted ++ line.drop column

theorem insertAt_length (front back inserted : Text) :
    insertAt front.length inserted (front ++ back) = front ++ inserted ++ back := by
  simp [insertAt]

theorem mem_insertAt {c : CodePoint} {column : Nat} {inserted : Text}
    (h : c ∈ insertAt column inserted line) : c ∈ inserted ∨ c ∈ line := by
  rcases List.mem_append.mp h with h | h
  · rcases List.mem_append.mp h with h | h
    · exact Or.inr (List.mem_of_mem_take h)
    · exact Or.inl h
  · exact Or.inr (List.mem_of_mem_drop h)

/-- What holds of an insertion and of the other lines holds of every line. -/
theorem forall_mem_insertAt {c : CodePoint} {column : Nat} {inserted : Text}
    (hinserted : c ∉ inserted) (h : ∀ l ∈ before ++ line :: after, c ∉ l) :
    ∀ l ∈ before ++ insertAt column inserted line :: after, c ∉ l := by
  intro l hl
  rcases List.mem_append.mp hl with hl | hl
  · exact h l (List.mem_append_left _ hl)
  · rcases List.mem_cons.mp hl with rfl | hl
    · exact fun hc => (mem_insertAt hc).elim hinserted (h line (by simp))
    · exact h l (by simp [hl])

theorem lineAt_of_eq (hlines : d.lines = before ++ line :: after) :
    d.lineAt before.length = line := by
  simp [lineAt, hlines]

theorem holds_of_eq (hlines : d.lines = before ++ line :: after) {column : Nat}
    (hcolumn : column ≤ line.length) : d.Holds ⟨before.length, column⟩ := by
  refine ⟨?_, ?_⟩
  · simp [lineCount, hlines]
  · rwa [lineAt_of_eq hlines]

/-- The lines that a patch within a line leaves. -/
theorem spliced_of_eq (hlines : d.lines = before ++ line :: after) {p : Patch}
    (hstart : p.range.start.line = before.length) (hstop : p.range.stop.line = before.length) :
    d.spliced p = before ++ Text.lines (line.take p.range.start.column ++ p.newText ++
      line.drop p.range.stop.column) ++ after := by
  have htake : d.lines.take before.length = before := by simp [hlines]
  have hdrop : d.lines.drop (before.length + 1) = after := by simp [hlines]
  rw [spliced, patched, hstart, hstop, lineAt_of_eq hlines, htake, hdrop]

/-- What is put into a line stands in that line. -/
theorem spliced_point (hlines : d.lines = before ++ line :: after)
    (hfeed : ∀ l ∈ d.lines, .char '\n' ∉ l) {inserted : Text} (hfeed' : .char '\n' ∉ inserted)
    (column : Nat) :
    d.spliced ⟨Range.point before.length column, inserted⟩ =
      before ++ insertAt column inserted line :: after := by
  have hone : Text.lines (insertAt column inserted line) = [insertAt column inserted line] :=
    splitOn_of_not_mem fun hc => (mem_insertAt hc).elim hfeed' (hfeed line (by simp [hlines]))
  calc d.spliced ⟨Range.point before.length column, inserted⟩
      = before ++ Text.lines (insertAt column inserted line) ++ after :=
        spliced_of_eq hlines rfl rfl
    _ = before ++ insertAt column inserted line :: after := by
        rw [hone, List.append_assoc, List.singleton_append]

/-- A text that is written over a line takes its place. -/
theorem spliced_line (hlines : d.lines = before ++ line :: after) {written : Text}
    (hfeed' : .char '\n' ∉ written) :
    d.spliced ⟨Range.onLine before.length 0 line.length, written⟩ = before ++ written :: after := by
  -- nothing of the line is left in front of the text or behind it
  calc d.spliced ⟨Range.onLine before.length 0 line.length, written⟩
      = before ++ Text.lines (line.take 0 ++ written ++ line.drop (0 + line.length)) ++ after :=
        spliced_of_eq hlines rfl rfl
    _ = before ++ Text.lines written ++ after := by simp
    _ = before ++ written :: after := by
        rw [Text.lines, splitOn_of_not_mem hfeed', List.append_assoc, List.singleton_append]

/-- **A text that is written over a line is read again in its place**, and the other lines in
theirs. -/
theorem forall₂_apply_line (heol : d.eol = lf ∨ d.eol = crlf)
    (hfeed : ∀ l ∈ d.lines, .char '\n' ∉ l) (hlines : d.lines = before ++ line :: after)
    {written : Text} (hfeed' : .char '\n' ∉ written) :
    List.Forall₂ ReadAs (before ++ written :: after)
      (d.apply ⟨Range.onLine before.length 0 line.length, written⟩).lines := by
  let p : Patch := ⟨Range.onLine before.length 0 line.length, written⟩
  have hstart : d.Holds p.range.start := holds_of_eq hlines (Nat.zero_le _)
  have hstop : d.Holds p.range.stop := holds_of_eq hlines (Nat.le_of_eq (Nat.zero_add _))
  rw [← spliced_line hlines hfeed', apply, patched_text hfeed hstart hstop]
  exact forall₂_ofText_intercalate heol (d.spliced_ne_nil p) (noFeed_spliced hfeed p) d.path

/-- **A text that is put into a line changes no other line**, and the line ending stays. -/
theorem apply_insert (hd : d.Regular) (hlines : d.lines = before ++ line :: after)
    (hreturn : ∀ l ∈ d.lines, .char '\r' ∉ l) {column : Nat} (hcolumn : column ≤ line.length)
    {inserted : Text} (hfeed' : .char '\n' ∉ inserted) (hreturn' : .char '\r' ∉ inserted) :
    (d.apply ⟨Range.point before.length column, inserted⟩).lines =
        before ++ insertAt column inserted line :: after ∧
      (d.apply ⟨Range.point before.length column, inserted⟩).eol = d.eol := by
  let p : Patch := ⟨Range.point before.length column, inserted⟩
  have hplace : d.Holds ⟨before.length, column⟩ := holds_of_eq hlines hcolumn
  have hspliced : d.spliced p = before ++ insertAt column inserted line :: after :=
    spliced_point hlines hd.noFeed hfeed' column
  have hbare : Bare (d.spliced p) :=
    bare_of_not_mem (noFeed_spliced hd.noFeed p) (not_mem_spliced hreturn hreturn')
  have happly := apply_eq hd.eol_eq hd.noFeed hplace hplace hbare
  have hsettled : settled d.eol (d.spliced p) = d.eol :=
    hd.settled_eq (by rw [hspliced, hlines]; simp)
  exact ⟨by rw [happly, ← hspliced], by rw [happly]; exact hsettled⟩

end SchemaEditor.Document
