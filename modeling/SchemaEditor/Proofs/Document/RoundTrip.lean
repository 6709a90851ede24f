import SchemaEditor.Document.File
import SchemaEditor.Proofs.Document.Ending
import SchemaEditor.Proofs.Text.Utf8

/-!
# Reading a text and writing it again

A document writes the text that it was read from exactly if the text has no carriage
return in front of a line feed, or if every line feed has one and the text does not end
with one (`text_ofText_iff`).  For the line ending is settled once for the whole text,
while a carriage return is taken from every line that ends with one, the last line
included.  So a file that is read and written again keeps its octets under the same
condition (`read_write`).

A line feed cuts both texts at the same places.  The argument therefore goes line by line,
and compares the lines in front of the first line feed.
-/

namespace SchemaEditor.Document
open Text

/-- Every line feed has a carriage return in front of it. -/
def FeedsReturned (t : Text) : Prop :=
  ∀ before after, t = before ++ .char '\n' :: after → before.getLast? = some (.char '\r')

/-- The text has one line ending throughout, and its last line is not mistaken for one
with a line ending. -/
def KeepsEndings (t : Text) : Prop :=
  ¬ crlf <:+: t ∨ FeedsReturned t ∧ t.getLast? ≠ some (.char '\r')

/-! ## The first line -/

theorem getLast?_append_feed {line t : Text} :
    (line ++ .char '\n' :: t).getLast? = some (.char '\r') ↔ t.getLast? = some (.char '\r') := by
  rw [List.getLast?_append_of_ne_nil _ (List.cons_ne_nil _ _), List.getLast?_cons]
  cases t.getLast? <;> simp

theorem feedsReturned_append_feed {line : Text} (h : .char '\n' ∉ line) (t : Text) :
    FeedsReturned (line ++ .char '\n' :: t) ↔
      line.getLast? = some (.char '\r') ∧ FeedsReturned t := by
  constructor
  · intro ht
    refine ⟨ht line t rfl, fun before after hsplit => ?_⟩
    have hlast := ht (line ++ .char '\n' :: before) after (by simp [hsplit])
    exact getLast?_append_feed.mp hlast
  · rintro ⟨hline, ht⟩ before after hsplit
    rcases List.append_eq_append_iff.mp hsplit with ⟨between, rfl, hrest⟩ | ⟨between, rfl, hrest⟩
    · cases between with
      | nil => rwa [List.append_nil]
      | cons c between =>
        -- a later line feed
        rw [List.cons_append, List.cons.injEq] at hrest
        obtain ⟨rfl, hrest⟩ := hrest
        exact getLast?_append_feed.mpr (ht between after hrest)
    · cases between with
      | nil => rwa [List.append_nil] at hline
      | cons c between =>
        -- the line has no line feed
        rw [List.cons_append, List.cons.injEq] at hrest
        exact absurd (by simp [← hrest.1]) h

/-! ## All lines -/

/-- Texts that agree with a line feed behind their first line agree before and after it. -/
theorem append_feed_inj {line line' t t' : Text} (h : .char '\n' ∉ line) (h' : .char '\n' ∉ line') :
    line ++ .char '\n' :: t = line' ++ .char '\n' :: t' ↔ line = line' ∧ t = t' := by
  refine ⟨fun he => ?_, fun ⟨hl, ht⟩ => by rw [hl, ht]⟩
  have hlines := congrArg Text.lines he
  rw [Text.lines, splitOn_append_cons h, Text.lines, splitOn_append_cons h',
    List.cons.injEq] at hlines
  refine ⟨hlines.1, ?_⟩
  rw [← unlines_lines t, ← unlines_lines t']
  exact congrArg unlines hlines.2

/-- Lines are joined again to the text that they were cut from exactly if they all gave up
a carriage return, except for the last one. -/
theorem intercalate_crlf_eq_iff {ls : List Text} (hne : ls ≠ []) (h : ∀ l ∈ ls, .char '\n' ∉ l) :
    List.intercalate crlf (ls.map dropCr) = unlines ls ↔
      FeedsReturned (unlines ls) ∧ (unlines ls).getLast? ≠ some (.char '\r') := by
  induction ls with
  | nil => exact absurd rfl hne
  | cons line rest ih =>
    have hline : .char '\n' ∉ line := h line (List.mem_cons_self ..)
    cases rest with
    | nil =>
      have hfeeds : FeedsReturned line := fun before after hsplit => by simp [hsplit] at hline
      simp [unlines, dropCr_eq_self_iff, hfeeds]
    | cons line' rest =>
      have hcut : .char '\n' ∉ dropCr line ++ [.char '\r'] := by
        simp [mt mem_of_mem_dropCr hline]
      rw [List.map_cons, List.map_cons, intercalate_crlf_cons_cons, ← List.map_cons,
        unlines_cons_cons, append_feed_inj hcut hline, dropCr_append_return_iff,
        ih (by simp) (fun l hl => h l (List.mem_cons_of_mem _ hl)),
        feedsReturned_append_feed hline, and_assoc, ne_eq, ne_eq, getLast?_append_feed]

/-- **A document writes the text that it was read from** exactly if the text keeps to one
line ending. -/
theorem text_ofText_iff (t : Text) (path : Option Text) :
    (ofText t path).text = t ↔ KeepsEndings t := by
  unfold KeepsEndings
  by_cases hcrlf : hasPart crlf t = true
  · have hpart := hasPart_iff_isInfix.mp hcrlf
    have htext : (ofText t path).text = List.intercalate crlf ((Text.lines t).map dropCr) := by
      simp [text, ofText, eolOf, linesOf, hcrlf]
    have hiff := intercalate_crlf_eq_iff (Text.lines_ne_nil t) fun l hl => not_mem_of_mem_lines hl
    rw [unlines_lines] at hiff
    rw [htext, hiff]
    simp [hpart]
  · have hpart := mt hasPart_iff_isInfix.mpr hcrlf
    have htext : (ofText t path).text = unlines (Text.lines t) := by
      simp [text, ofText, eolOf, linesOf, hcrlf, unlines, lf]
    rw [htext, unlines_lines]
    simp [hpart]

/-! ## Files -/

/-- No path is spelled by an empty text. -/
theorem toText_ofText_ne_nil (path : Text) : (FilePath.ofText path).toText ≠ [] := by
  unfold FilePath.toText
  split_ifs with h
  · exact List.cons_ne_nil _ _
  · intro hnil
    obtain ⟨hroot, hjoin⟩ := List.append_eq_nil_iff.mp hnil
    obtain ⟨name, names, hnames⟩ :=
      List.exists_cons_of_ne_nil fun hnames => h ⟨hroot, hnames⟩
    have hname : name ∈ (FilePath.ofText path).names := hnames ▸ List.mem_cons_self ..
    have hne : name ≠ [] := by
      have hkept := (List.mem_filter.mp hname).2
      simp only [decide_eq_true_eq] at hkept
      exact hkept.1
    rw [hnames] at hjoin
    cases names with
    | nil => exact hne (by simpa using hjoin)
    | cons name' names =>
      rw [List.intercalate_cons_cons, List.append_assoc] at hjoin
      exact hne (List.append_eq_nil_iff.mp hjoin).1

/-- A document that was read from a file can be written to any path, or back. -/
theorem target_of_path {d : Document} {path : Text} (h : d.path = some path) (hne : path ≠ [])
    (given : Option Text) : ∃ file, d.target given = .ok file := by
  unfold target
  have hor : (given.filter (· ≠ [])).or (d.path.filter (· ≠ [])) ≠ none := by
    simp [h, hne]
  obtain ⟨file, hfile⟩ := Option.ne_none_iff_exists'.mp hor
  rw [hfile]
  exact ⟨_, rfl⟩

/-- A document that is read from characters has no others. -/
theorem isWhole_text_ofText {t : Text} (h : isWhole t = true) (path : Option Text) :
    isWhole (ofText t path).text = true := by
  have hline : ∀ l ∈ linesOf t, l ⊆ t := by
    unfold linesOf
    split_ifs
    · intro l hl
      obtain ⟨line, hline, rfl⟩ := List.mem_map.mp hl
      exact fun c hc => subset_of_mem_splitOn hline (mem_of_mem_dropCr hc)
    · exact fun l hl => subset_of_mem_splitOn hl
  exact isWhole_intercalate (isWhole_eolOf t) fun l hl => isWhole_of_subset (hline l hl) h

/-- What is written for a text that was read from octets is these octets exactly if the
text keeps to one line ending. -/
theorem octets_ofText_iff {octets : List UInt8} {t : Text} (h : Utf8.decode? octets = some t)
    (path : Option Text) : (ofText t path).octets = octets ↔ KeepsEndings t := by
  obtain ⟨henc, hwhole⟩ := Utf8.encode_of_decode? h
  rw [← text_ofText_iff t path, Document.octets, ← henc]
  exact Utf8.encode_inj (isWhole_text_ofText hwhole path) hwhole

/-- **A text that is read is written as it was exactly if it keeps to one line ending**, and
so is a file: it can be read and then written to any path, and that leaves its octets
exactly if the text they encode keeps to one line ending. -/
theorem round_trip_iff (t : Text) :
    (∀ path, (ofText t path).text = t ↔ KeepsEndings t) ∧
      ∀ octets, Utf8.decode? octets = some t → ∀ file given, ∃ d target,
        Document.read file (some octets) = .ok d ∧ d.target given = .ok target ∧
          (d.octets = octets ↔ KeepsEndings t) := by
  refine ⟨text_ofText_iff t, fun octets h file given => ?_⟩
  let own := (FilePath.ofText file).toText
  have hread : Document.read file (some octets) = .ok (ofText t (some own)) := by
    simp only [Document.read, h, own]
  obtain ⟨target, htarget⟩ :=
    target_of_path (ofText_path t (some own)) (toText_ofText_ne_nil file) given
  exact ⟨_, target, hread, htarget, octets_ofText_iff h _⟩

/-- A file in which the second of two line feeds has no carriage return is not written as
it was read. -/
theorem round_trip_mixed :
    let octets : List UInt8 := [0x61, 0x0D, 0x0A, 0x62, 0x0A]
    let t : Text := ['a', '\r', '\n', 'b', '\n']
    Utf8.decode? octets = some t ∧ ¬ KeepsEndings t ∧ ∃ d target,
      Document.read (ofString "a.lumos") (some octets) = .ok d ∧ d.target none = .ok target ∧
        d.octets ≠ octets := by
  intro octets t
  have hdecode : Utf8.decode? octets = some t := by decide
  have hkeeps : ¬ KeepsEndings t := by
    rintro (hno | ⟨hall, -⟩)
    · exact hno ⟨['a'], ['b', '\n'], rfl⟩
    · have hlast := hall ['a', '\r', '\n', 'b'] [] rfl
      exact absurd hlast (by decide)
  obtain ⟨d, target, hread, htarget, hiff⟩ :=
    (round_trip_iff t).2 octets hdecode (ofString "a.lumos") none
  exact ⟨hdecode, hkeeps, d, target, hread, htarget, mt hiff.mp hkeeps⟩

end SchemaEditor.Document
