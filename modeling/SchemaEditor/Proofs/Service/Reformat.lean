import SchemaEditor.Proofs.Format.Ending
import SchemaEditor.Proofs.Service.Repair

/-!
# Formatting through the service

The service formats the lines of a document, and gives out the text of the formatted document
and the range of the whole one (`OpenDocument.format_text`).  It is for the editor to put the
text in.

An editor that sends the text back as an update stores the formatted document, and nothing is
left to format (`format_update_format`).  An editor that applies the text to the range as a
patch stores the same document if the line ending is the line feed; otherwise the patch must
be written with line feeds, because `apply` writes the line ending for them (`format_as_patch`).
-/

namespace SchemaEditor

namespace OpenDocument
variable {d : OpenDocument} {o : FormatOptions} {id : Text}

theorem format_eq (hd : d.document.Regular) : d.format id o =
    ⟨id, d.document.fullRange, (d.document.formatted o).text,
      Text.unlines (Format.formatLines o d.document.lines) != Text.unlines d.document.lines⟩ := by
  have hsource := Format.format_unlines o d.document.lines_ne hd.noFeed
  simp only [format, hsource, Document.text_formatted hd]

theorem format_text (hd : d.document.Regular) :
    (d.format id o).text = (d.document.formatted o).text := by rw [format_eq hd]

/-- **A document counts as changed exactly if its text changes.** -/
theorem format_changed_iff (hd : d.document.Regular) :
    (d.format id o).changed = false ↔ d.document.text = (d.format id o).text := by
  have hne := Format.formatLines_ne_nil o d.document.lines_ne
  have hbare := Format.bare_formatLines o hd.noFeed
  rw [format_eq hd, bne_eq_false_iff_eq]
  constructor
  · intro hjoined
    have hlines : Format.formatLines o d.document.lines = d.document.lines := by
      rw [← Text.lines_unlines hne hbare.noFeed, hjoined,
        Text.lines_unlines d.document.lines_ne hd.noFeed]
    exact ((Document.text_formatted_eq_iff hd).mpr hlines).symm
  · intro htext
    rw [(Document.text_formatted_eq_iff hd).mp htext.symm]

/-- The formatted text is stored as the formatted document. -/
theorem update_format (hd : d.document.Regular) :
    (d.update (d.format id o).text).document = d.document.formatted o := by
  rw [format_text hd]
  exact Document.replaceAll_text_formatted hd

end OpenDocument

namespace Service
variable {id : Text} {d : OpenDocument}

/-! ## Single requests -/

section Answers
variable {s : Service}

theorem format_of_find (hd : s.find id = .ok d) (options : Option FormatOptions) :
    s.format id options = .ok (d.format id (options.getD s.settings.options)) := by
  rw [Service.format, hd]
  rfl

theorem update_of_find (hd : s.find id = .ok d) (text : Text) :
    s.update id text = (s.put id (d.update text), .ok ((d.update text).summary id)) := by
  rw [update, hd]

end Answers

variable {t : Traffic Service}

theorem step_format (hd : t.service.find id = .ok d) (options : Option FormatOptions) :
    machine.step t (.ask (.format id options)) =
      (t, .answered (.ok (.formatted
        (d.format id (options.getD t.service.settings.options))))) := by
  change (t, Reply.answered ((t.service.format id options).map .formatted)) = _
  rw [format_of_find hd]
  rfl

theorem step_update (hd : t.service.find id = .ok d) (text : Text) :
    machine.step t (.ask (.update id text)) =
      (⟨t.service.put id (d.update text), t.running⟩,
        .answered (.ok (.summary ((d.update text).summary id)))) := by
  change ((⟨(t.service.update id text).1, t.running⟩ : Traffic Service),
    Reply.answered ((t.service.update id text).2.map .summary)) = _
  rw [update_of_find hd]
  rfl

theorem textOf_eq_iff (hd : t.service.find id = .ok d) {text : Text} :
    t.service.textOf id = .ok text ↔ d.document.text = text := by
  have htext : t.service.textOf id = .ok d.document.text := by
    rw [textOf, hd]
    rfl
  rw [htext, Except.ok.injEq]

/-! ## Format, update, format -/

/-- **Formatting, sending the text back and formatting again comes to rest**, whatever the line
ending is.  A request to format changes nothing, and answers that the document would change
exactly if its text would.  Once the text has been sent back, the document has the line ending
and as many lines as before, and a second request answers with the same text and no change. -/
theorem format_update_format (ht : Reachable t) (hd : t.service.find id = .ok d)
    (options : Option FormatOptions) :
    ∃ r, machine.step t (.ask (.format id options)) = (t, .answered (.ok (.formatted r))) ∧
      (r.changed = false ↔ t.service.textOf id = .ok r.text) ∧
      ∃ t' summary d',
        machine.step t (.ask (.update id r.text)) = (t', .answered (.ok (.summary summary))) ∧
        t'.service.find id = .ok d' ∧ d'.document.eol = d.document.eol ∧
        d'.document.lineCount = d.document.lineCount ∧
        ∃ r', machine.step t' (.ask (.format id options)) =
            (t', .answered (.ok (.formatted r'))) ∧ r'.changed = false ∧ r'.text = r.text := by
  have hregular : d.document.Regular := ht.regular hd
  let o := options.getD t.service.settings.options
  let r := d.format id o
  let t' : Traffic Service := ⟨t.service.put id (d.update r.text), t.running⟩
  have hfind : t'.service.find id = .ok (d.update r.text) := find_put t.service id _
  have hdocument : (d.update r.text).document = d.document.formatted o :=
    OpenDocument.update_format hregular
  -- the document is formatted now, and what is stored is regular again
  have hregular' : (d.update r.text).document.Regular := hdocument ▸ hregular.formatted o
  have htext : ((d.update r.text).format id o).text = (d.update r.text).document.text := by
    rw [OpenDocument.format_text hregular', hdocument, Document.formatted_formatted]
  refine ⟨r, step_format hd options, ?_, t', _, _, step_update hd r.text, hfind, ?_, ?_, _,
    step_format hfind options, ?_, ?_⟩
  · rw [textOf_eq_iff hd]
    exact OpenDocument.format_changed_iff hregular
  · rw [hdocument]
    rfl
  · rw [hdocument, Document.formatted_lineCount]
  · exact (OpenDocument.format_changed_iff hregular').mpr htext.symm
  · exact htext.trans (by rw [hdocument]; exact (OpenDocument.format_text hregular).symm)

/-- A field is indented in a document whose lines end with a carriage return and a line feed,
one of them twice. -/
theorem format_update_format_crlf :
    let id := Text.ofString "a"
    let text := Text.ofString "struct A \x7b\r\r\nsize:u8\r\n\x7d"
    let t := machine.run (idleTraffic {} false) [.ask (.openDocument id text none)]
    Reachable t ∧ ∃ d r, t.service.find id = .ok d ∧ d.document.eol = Document.crlf ∧
      machine.step t (.ask (.format id none)) = (t, .answered (.ok (.formatted r))) ∧
      r.text = Text.ofString "struct A \x7b\r\n    size: u8\r\n\x7d" ∧ r.changed = true ∧
      ∃ t' summary d' r',
        machine.step t (.ask (.update id r.text)) = (t', .answered (.ok (.summary summary))) ∧
        t'.service.find id = .ok d' ∧ d'.document.eol = Document.crlf ∧
        machine.step t' (.ask (.format id none)) = (t', .answered (.ok (.formatted r'))) ∧
        r'.changed = false ∧ r'.text = r.text := by
  intro id text t
  have ht : Reachable t := ⟨_, _, _, rfl⟩
  have hd : t.service.find id = .ok (.opened (Document.ofText text none) 0) :=
    Move.find_opened text none
  obtain ⟨r, hformat, -, t', summary, d', hupdate, hd', heol, -, r', hagain, hchanged, htext⟩ :=
    format_update_format ht hd none
  have hr : r = (OpenDocument.opened (Document.ofText text none) 0).format id
      FormatOptions.standard := by
    have hoptions : t.service.settings.options = FormatOptions.standard := rfl
    have hstep := (step_format hd none).symm.trans hformat
    rw [hoptions] at hstep
    simpa using hstep.symm
  refine ⟨ht, _, r, hd, by decide, hformat, ?_, ?_, t', summary, d', r', hupdate, hd',
    heol.trans (by decide), hagain, hchanged, htext⟩
  · rw [hr]
    simp only [text]
    cbv
  · rw [hr]
    simp only [text]
    cbv

/-! ## The formatted text as a patch -/

/-- **The formatted text as a patch for the whole document.**  Sent back as an update it is
stored as `replaceAll` reads it.  As a patch for the range that comes with it, it gives the
same document if the line ending is the line feed; if it is the other one, every line but the
last keeps a carriage return.  Written with line feeds it gives the same document in either
case. -/
theorem format_as_patch (ht : Reachable t) (hd : t.service.find id = .ok d)
    (options : Option FormatOptions) :
    ∃ r, t.service.format id options = .ok r ∧
      (∃ s summary d', t.service.update id r.text = (s, .ok summary) ∧ s.find id = .ok d' ∧
        d'.document = d.document.replaceAll r.text) ∧
      d.document.apply ⟨r.range, Document.feedsOnly r.text⟩ = d.document.replaceAll r.text ∧
      (d.document.eol = Document.lf ∧
          d.document.apply ⟨r.range, r.text⟩ = d.document.replaceAll r.text ∨
        d.document.eol = Document.crlf ∧
          (d.document.apply ⟨r.range, r.text⟩).lines =
            Document.returned (d.document.replaceAll r.text).lines ∧
          (d.document.apply ⟨r.range, r.text⟩).eol = (d.document.replaceAll r.text).eol) := by
  have hregular : d.document.Regular := ht.regular hd
  let o := options.getD t.service.settings.options
  have hrange : (d.format id o).range = d.document.fullRange := rfl
  have hwhole : d.document.replaceAll (d.document.formatted o).text = d.document.formatted o :=
    Document.replaceAll_text_formatted hregular
  refine ⟨d.format id o, format_of_find hd options,
    ⟨_, _, _, update_of_find hd _, find_put t.service id _, rfl⟩, ?_⟩
  rw [hrange, OpenDocument.format_text hregular, hwhole]
  refine ⟨Document.apply_fullRange_feedsOnly hregular, ?_⟩
  rcases hregular.eol_eq with heol | heol
  · refine Or.inl ⟨heol, ?_⟩
    rw [Document.apply_fullRange, heol, Document.withEol_lf]
    exact hwhole
  · have hcrlf := Document.apply_fullRange_crlf (o := o) hregular heol
    exact Or.inr ⟨heol, hcrlf.1, hcrlf.2.trans heol.symm⟩

/-- Two lines that are formatted already get a carriage return between them. -/
theorem format_as_patch_crlf :
    let id := Text.ofString "a"
    let t := machine.run (idleTraffic {} false)
      [.ask (.openDocument id (Text.ofString "a\r\nb") none)]
    Reachable t ∧ ∃ d r, t.service.find id = .ok d ∧ t.service.format id none = .ok r ∧
      (d.document.replaceAll r.text).lines = [Text.ofString "a", Text.ofString "b"] ∧
      (d.document.apply ⟨r.range, r.text⟩).lines = [Text.ofString "a\r", Text.ofString "b"] ∧
      (d.document.apply ⟨r.range, r.text⟩).lines ≠ (d.document.replaceAll r.text).lines := by
  intro id t
  let d := Document.ofText (Text.ofString "a\r\nb") none
  let r := (OpenDocument.opened d 0).format id FormatOptions.standard
  have hd : t.service.find id = .ok (.opened d 0) := Move.find_opened _ none
  have hformat : t.service.format id none = .ok r := format_of_find hd none
  have hstored : (d.replaceAll r.text).lines = [Text.ofString "a", Text.ofString "b"] := by
    simp only [d, r]
    cbv
  have hpatched : (d.apply ⟨r.range, r.text⟩).lines =
      [Text.ofString "a\r", Text.ofString "b"] := by
    simp only [d, r]
    cbv
  refine ⟨⟨_, _, _, rfl⟩, _, _, hd, hformat, hstored, hpatched, ?_⟩
  change (d.apply ⟨r.range, r.text⟩).lines ≠ (d.replaceAll r.text).lines
  rw [hpatched, hstored]
  decide

/-- The same lines are read from the patch if it is written with a line feed. -/
theorem format_as_patch_feeds :
    let id := Text.ofString "a"
    let t := machine.run (idleTraffic {} false)
      [.ask (.openDocument id (Text.ofString "a\r\nb") none)]
    Reachable t ∧ ∃ d r, t.service.find id = .ok d ∧ t.service.format id none = .ok r ∧
      d.document.eol = Document.crlf ∧
      d.document.apply ⟨r.range, Document.feedsOnly r.text⟩ = d.document.replaceAll r.text := by
  intro id t
  have ht : Reachable t := ⟨_, _, _, rfl⟩
  have hd : t.service.find id =
      .ok (.opened (Document.ofText (Text.ofString "a\r\nb") none) 0) := Move.find_opened _ none
  obtain ⟨r, hformat, -, hfeeds, -⟩ := format_as_patch ht hd none
  exact ⟨ht, _, r, hd, hformat, by decide, hfeeds⟩

end Service

end SchemaEditor
