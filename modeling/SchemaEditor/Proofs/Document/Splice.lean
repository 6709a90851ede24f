import SchemaEditor.Proofs.Document.Edit

/-!
# A patch, line by line

`apply` knows nothing of lines while it works: it cuts the joined text at two offsets, puts the
new text between the two parts, and reads the result anew, line ending and all.  An editor that
keeps its lines apart would do something else.  It would keep the lines in front of the place
where the patch starts and those behind the place where it stops, and put the segments of the
new text between them: the first one behind what stays of the line that the patch starts in, the
last one in front of what stays of the line that it stops in (`enclose`).

Both leave the same lines (`apply_splices_lines`), as long as no carriage return is about.  The
line feeds of the new text are then the only ones that a patch brings, for the others stand
between lines that it does not touch, and so the segments between two texts are the lines of the
text between them (`lines_enclose`).
-/

namespace SchemaEditor.Document
open Text

/-! ## Segments between two texts -/

/-- Segments with a text in front of the first one and a text behind the last one; a single
segment stands between the two. -/
def enclose (front back : Text) : List Text → List Text
  | [] => [front ++ back]
  | [segment] => [front ++ segment ++ back]
  | segment :: next :: rest => (front ++ segment) :: enclose [] back (next :: rest)

/-- What is joined of segments, with a text in front and a text behind, has the enclosed segments
as its lines. -/
theorem lines_enclose_unlines {front back : Text} (hfront : .char '\n' ∉ front)
    (hback : .char '\n' ∉ back) {segments : List Text} (hne : segments ≠ [])
    (hfeed : ∀ s ∈ segments, .char '\n' ∉ s) :
    Text.lines (front ++ unlines segments ++ back) = enclose front back segments := by
  induction segments generalizing front with
  | nil => exact absurd rfl hne
  | cons segment rest ih =>
    have hsegment : .char '\n' ∉ segment := hfeed segment (List.mem_cons_self ..)
    cases rest with
    | nil =>
      have hone : .char '\n' ∉ front ++ segment ++ back := by simp [hfront, hsegment, hback]
      rw [unlines, List.intercalate_singleton, Text.lines, splitOn_of_not_mem hone, enclose]
    | cons next rest =>
      have hfirst : .char '\n' ∉ front ++ segment := by simp [hfront, hsegment]
      have htext : front ++ unlines (segment :: next :: rest) ++ back =
          (front ++ segment) ++ .char '\n' :: ([] ++ unlines (next :: rest) ++ back) := by
        simp [unlines_cons_cons]
      -- the first line ends with the first segment, and nothing stands in front of the next one
      have hrest : Text.lines ([] ++ unlines (next :: rest) ++ back) =
          enclose [] back (next :: rest) :=
        ih List.not_mem_nil (List.cons_ne_nil _ _) fun s hs => hfeed s (List.mem_cons_of_mem _ hs)
      rw [htext, Text.lines, splitOn_append_cons hfirst, ← Text.lines, hrest, enclose]

/-- **A text between two others has its lines between them.** -/
theorem lines_enclose {front back : Text} (hfront : .char '\n' ∉ front)
    (hback : .char '\n' ∉ back) (t : Text) :
    Text.lines (front ++ t ++ back) = enclose front back (Text.lines t) := by
  have h := lines_enclose_unlines hfront hback (lines_ne_nil t) fun _ hs => not_mem_of_mem_lines hs
  rwa [unlines_lines] at h

/-! ## Splices -/

variable {d : Document} {p : Patch}

/-- The lines that a patch leaves are those around its places and the segments of its text
between what stays of the line that it starts in and of the line that it stops in. -/
theorem spliced_eq_enclose (hfeed : ∀ l ∈ d.lines, .char '\n' ∉ l) :
    d.spliced p =
      d.lines.take p.range.start.line ++
        enclose ((d.lineAt p.range.start.line).take p.range.start.column)
          ((d.lineAt p.range.stop.line).drop p.range.stop.column) (Text.lines p.newText) ++
        d.lines.drop (p.range.stop.line + 1) := by
  have hfront : .char '\n' ∉ (d.lineAt p.range.start.line).take p.range.start.column :=
    fun hc => not_mem_lineAt hfeed _ (List.mem_of_mem_take hc)
  have hback : .char '\n' ∉ (d.lineAt p.range.stop.line).drop p.range.stop.column :=
    fun hc => not_mem_lineAt hfeed _ (List.mem_of_mem_drop hc)
  rw [spliced, patched, lines_enclose hfront hback]

/-- The line ending that joined lines are read with is their own if there are two lines or more. -/
theorem settled_eq_ite {ls : List Text} (hne : ls ≠ []) (eol : Text) :
    settled eol ls = if 2 ≤ ls.length then eol else lf := by
  have hpos : 0 < ls.length := List.length_pos_iff.mpr hne
  unfold settled
  by_cases hone : ls.length = 1
  · rw [if_pos hone, if_neg (by omega)]
  · rw [if_neg hone, if_pos (by omega)]

/-- **A patch splices lines.**  In a document without carriage returns, whichever its line ending
is, a patch between two places that are there keeps the lines in front of the first place and
those behind the second, and puts the segments of its text between what stays of the lines of the
two places.  The file stays the same, and so does the line ending, unless a single line is left
that shows none. -/
theorem apply_splices_lines (heol : d.eol = lf ∨ d.eol = crlf)
    (hlines : ∀ l ∈ d.lines, .char '\r' ∉ l ∧ .char '\n' ∉ l) (hstart : d.Holds p.range.start)
    (hstop : d.Holds p.range.stop) (hnew : .char '\r' ∉ p.newText) :
    (d.apply p).lines =
        d.lines.take p.range.start.line ++
          enclose ((d.lineAt p.range.start.line).take p.range.start.column)
            ((d.lineAt p.range.stop.line).drop p.range.stop.column) (Text.lines p.newText) ++
          d.lines.drop (p.range.stop.line + 1) ∧
      (d.apply p).path = d.path ∧
      (d.apply p).eol = if 2 ≤ (d.apply p).lines.length then d.eol else lf := by
  have hreturn : ∀ l ∈ d.lines, .char '\r' ∉ l := fun l hl => (hlines l hl).1
  have hfeed : ∀ l ∈ d.lines, .char '\n' ∉ l := fun l hl => (hlines l hl).2
  have hbare : Bare (d.spliced p) :=
    bare_of_not_mem (noFeed_spliced hfeed p) (not_mem_spliced hreturn hnew)
  have happly := apply_eq heol hfeed hstart hstop hbare
  refine ⟨?_, apply_path d p, ?_⟩
  · rw [happly]
    exact spliced_eq_enclose hfeed
  · rw [happly]
    exact settled_eq_ite (d.spliced_ne_nil p) d.eol

/-- Three segments between two lines of a document with the other line ending, and a patch that
leaves a single line of the same document. -/
theorem apply_splices_lines_crlf :
    let d := ofText (ofString "ab\r\ncd\r\nef") (some (ofString "a.lumos"))
    let p : Patch := ⟨⟨⟨0, 1⟩, ⟨1, 1⟩, by decide⟩, ofString "x\n\nz"⟩
    let q : Patch := ⟨⟨⟨0, 2⟩, ⟨2, 0⟩, by decide⟩, ofString "-"⟩
    d.eol = crlf ∧ (∀ l ∈ d.lines, .char '\r' ∉ l ∧ .char '\n' ∉ l) ∧
      (d.Holds p.range.start ∧ d.Holds p.range.stop ∧ .char '\r' ∉ p.newText ∧
        (d.apply p).lines = [ofString "ax", [], ofString "zd", ofString "ef"] ∧
        (d.apply p).path = d.path ∧ (d.apply p).eol = crlf) ∧
      (d.Holds q.range.start ∧ d.Holds q.range.stop ∧ .char '\r' ∉ q.newText ∧
        (d.apply q).lines = [ofString "ab-ef"] ∧ (d.apply q).eol = lf) := by
  intro d p q
  have heol : d.eol = crlf := by decide
  have hlines : ∀ l ∈ d.lines, .char '\r' ∉ l ∧ .char '\n' ∉ l := by decide
  have hp : d.Holds p.range.start ∧ d.Holds p.range.stop :=
    ⟨⟨by decide, by decide⟩, ⟨by decide, by decide⟩⟩
  have hq : d.Holds q.range.start ∧ d.Holds q.range.stop :=
    ⟨⟨by decide, by decide⟩, ⟨by decide, by decide⟩⟩
  have hpnew : .char '\r' ∉ p.newText := by decide
  have hqnew : .char '\r' ∉ q.newText := by decide
  obtain ⟨hplines, hppath, hpeol⟩ := apply_splices_lines (Or.inr heol) hlines hp.1 hp.2 hpnew
  obtain ⟨hqlines, -, hqeol⟩ := apply_splices_lines (Or.inr heol) hlines hq.1 hq.2 hqnew
  have hthree : (d.apply p).lines = [ofString "ax", [], ofString "zd", ofString "ef"] :=
    hplines.trans (by decide)
  have hsingle : (d.apply q).lines = [ofString "ab-ef"] := hqlines.trans (by decide)
  refine ⟨heol, hlines, ⟨hp.1, hp.2, hpnew, hthree, hppath, ?_⟩,
    ⟨hq.1, hq.2, hqnew, hsingle, ?_⟩⟩
  · rw [hpeol, hthree]
    exact heol
  · rw [hqeol, hsingle]
    rfl

end SchemaEditor.Document
