import SchemaEditor.Format.Formatter
import SchemaEditor.Proofs.Format.Arrangement
import SchemaEditor.Proofs.Format.Layout
import SchemaEditor.Proofs.Text.Lines

/-!
# The pass lays out

The formatting pass arranges the runs of attributes and lays out what results
(`formatLines_eq_layOut`).  The proof follows the pass line by line.  A state with
lines waiting stands for the state in which these lines are still to be read
(`State.outcome`), and each operation of the pass keeps what its state stands for
(`Advances`): the lines that wait in the batch are lines that `layOut` would hold, and
a line that ends the batch is the one in front of which `layOut` writes it.
-/

namespace SchemaEditor.Format
open Text Line

/-! ## What a state stands for -/

variable (o : FormatOptions)

/-- The frame of the line after those that a state has written. -/
def State.frame (s : State) : Frame := ⟨s.level, s.inStruct, s.lastWritten.any mentionsStruct⟩

/-- What is written in the end if a state still reads some lines, its batch in front
of them and its attributes aside. -/
def State.outcome (s : State) (ls : List Text) : List Text :=
  s.output ++ layOut o s.frame (s.fields ++ ls)

/-- A state of the pass: what waits in the batch belongs to one, and what waits as an
attribute is one. -/
structure State.Valid (s : State) : Prop where
  fields : ∀ l ∈ s.fields, s.frame.holds l = true
  attributes : ∀ l ∈ s.attributes, isAttribute l = true

/-- `s'` is `s` after some lines. -/
structure Advances (s : State) (ls : List Text) (s' : State) : Prop where
  frame : s'.frame = s.frame.after ls
  outcome : ∀ rest, s'.outcome o rest = s.outcome o (ls ++ rest)

variable {o}

theorem Advances.trans {s s' s'' : State} {ls ls' : List Text} (h : Advances o s ls s')
    (h' : Advances o s' ls' s'') : Advances o s (ls ++ ls') s'' where
  frame := by rw [h'.frame, h.frame, Frame.after_append]
  outcome rest := by rw [h'.outcome, h.outcome, List.append_assoc]

variable (o)

/-- Outside a struct body nothing waits in the batch. -/
theorem fields_eq_nil {s : State} (h : ∀ l ∈ s.fields, s.frame.holds l = true)
    (hs : s.inStruct = false) : s.fields = [] := by
  refine List.eq_nil_iff_forall_not_mem.mpr fun l hl => ?_
  have hin : s.inStruct = true := (Frame.holds_iff.mp (h l hl)).1
  rw [hs] at hin
  cases hin

/-- The frame below an indented line; indentation neither makes nor breaks the
keyword. -/
theorem frame_of_written {s : State} {out : List Text} {level : Nat} {t : Text}
    (h : s.output = out ++ [o.indent level ++ t]) :
    s.frame = ⟨s.level, s.inStruct, mentionsStruct t⟩ := by
  have hlast : s.lastWritten = some (o.indent level ++ t) := by
    rw [State.lastWritten, h, List.getLast?_concat]
  have hword : mentionsStruct (o.indent level ++ t) = mentionsStruct t :=
    hasWord_spaces_append (by decide) _ t
  rw [State.frame, hlast, Option.any_some, hword]

/-- **A line of no batch** ends the batch that is waiting and is written behind it.  So
a state that has written both, and whose frame is the next one, is the state after
that line. -/
theorem advances_of_written {s s' : State} (h : ∀ l ∈ s.fields, s.frame.holds l = true)
    {t : Text} (ht : s.frame.holds t = false) (hfields : s'.fields = [])
    (hout : s'.output = (s.flushFields o).output ++ [s.frame.write t o])
    (hframe : s'.frame = s.frame.next t) : Advances o s [t] s' where
  frame := hframe
  outcome rest := by
    have hhead : ∀ l ∈ (t :: rest).head?, s.frame.holds l = false := by
      intro l hl
      obtain rfl : t = l := by simpa using hl
      exact ht
    rw [State.outcome, State.outcome, hfields, hout, hframe, List.nil_append,
      List.singleton_append, layOut_append_of_holds o h hhead, layOut_cons_of_not_holds o ht]
    simp [State.flushFields, State.frame]

/-- A line of a batch waits in the batch. -/
theorem advances_hold {s : State} {t : Text} (ht : s.frame.holds t = true) :
    Advances o s [t] (s.hold t) where
  frame := by rw [Frame.after_cons, Frame.after_nil, Frame.next_of_holds ht]; rfl
  outcome rest := by
    show s.output ++ layOut o s.frame ((s.fields ++ [t]) ++ rest) = _
    rw [List.append_assoc]
    rfl

/-- A line outside a struct body that opens and closes nothing is written at once. -/
theorem advances_write {s : State} (hf : s.fields = []) (hs : s.inStruct = false) {t : Text}
    (hc : kind s.inStruct t ≠ .close) (hd : kind s.inStruct t ≠ .declaration)
    (ho : isLoneOpen t = false) (hvis : t ≠ []) (htrim : trim t = t) :
    Advances o s [t] (s.write o t) := by
  refine advances_of_written o (by simp [hf]) (by simp [Frame.holds, State.frame, hs]) hf ?_ ?_
  · rw [Frame.write_of_visible o (by rwa [htrim]), Frame.depth_of_ne_close (f := s.frame) hc,
      htrim]
    simp [State.write, State.flushFields, State.frame, hf, alignBatch_nil]
  · rw [frame_of_written o (s := s.write o t) rfl, Frame.next_of_plain (f := s.frame) hc hd ho hs]
    rfl

/-! ## The run of attributes ends -/

/-- Attributes outside a struct body are written one by one. -/
theorem advances_attributes {s : State} (hf : s.fields = []) (hs : s.inStruct = false)
    {as : List Text} (has : ∀ l ∈ as, isAttribute l = true ∧ trim l = l) :
    Advances o s as { s with output := s.output ++ as.map (o.indent s.level ++ ·) } := by
  induction as generalizing s with
  | nil => exact ⟨by simp, fun rest => by simp⟩
  | cons a as ih =>
    obtain ⟨ha, htrim⟩ := has a (List.mem_cons_self ..)
    obtain ⟨hc, hd, ho⟩ := Frame.plain_of_isAttribute s.inStruct ha
    have hvis : a ≠ [] := htrim ▸ trim_ne_nil_of_isAttribute ha
    have hstep := advances_write o hf hs hc hd ho hvis htrim
    have hrest := ih (s := s.write o a) hf hs fun l hl => has l (List.mem_cons_of_mem _ hl)
    simpa [State.write] using hstep.trans hrest

/-- **Ending the run of attributes.**  In a struct body they join the batch, and
elsewhere they are written. -/
theorem advances_flushAttributes {s : State} (h : s.Valid) :
    Advances o s (arrangeAttributes o.sortAttributes s.attributes) (s.flushAttributes o) := by
  have has : ∀ l ∈ arrangeAttributes o.sortAttributes s.attributes,
      isAttribute l = true ∧ trim l = l := fun l hl =>
    ⟨isAttribute_of_mem_arrangeAttributes _ h.attributes l hl, (mem_arrangeAttributes hl).1⟩
  cases hs : s.inStruct with
  | true =>
    have hheld : ∀ l ∈ arrangeAttributes o.sortAttributes s.attributes, s.frame.holds l = true :=
      fun l hl => Frame.holds_of_isAttribute hs (has l hl).1
    refine ⟨?_, fun rest => ?_⟩
    · rw [Frame.after_of_holds hheld]
      simp [State.flushAttributes, State.frame, State.lastWritten, hs]
    · simp [State.flushAttributes, State.outcome, State.frame, State.lastWritten, hs]
  | false =>
    have hstep := advances_attributes o (fields_eq_nil h.fields hs) hs has
    refine ⟨hstep.frame ▸ ?_, fun rest => hstep.outcome rest ▸ ?_⟩
    · simp [State.flushAttributes, State.frame, State.lastWritten, hs]
    · simp [State.flushAttributes, State.outcome, State.frame, State.lastWritten, hs]

/-! ## The other lines -/

/-- A closing line ends the batch and is written one level up. -/
theorem advances_feedClose {s : State} (h : ∀ l ∈ s.fields, s.frame.holds l = true) {t : Text}
    (htrim : trim t = t) (hk : kind s.inStruct t = .close) :
    Advances o s [t] (s.feedClose o t) := by
  have hvis : trim t ≠ [] := mt kind_eq_blank_iff.mpr (by rw [hk]; decide)
  refine advances_of_written o h ?_ rfl ?_ ?_
  · simp [Frame.holds, State.frame, hk]
  · rw [Frame.write_of_visible o hvis, Frame.depth_of_close (f := s.frame) hk, htrim]
    rfl
  · rw [frame_of_written o (s := s.feedClose o t) rfl, Frame.next_of_close (f := s.frame) hk]
    rfl

/-- A declaration ends the batch and opens a block if it ends with a brace. -/
theorem advances_feedDeclaration {s : State} (h : ∀ l ∈ s.fields, s.frame.holds l = true)
    {t : Text} (htrim : trim t = t) (hk : kind s.inStruct t = .declaration) :
    Advances o s [t] (s.feedDeclaration o t) := by
  have hvis : trim t ≠ [] := mt kind_eq_blank_iff.mpr (by rw [hk]; decide)
  have hwritten : s.frame.write t o = o.indent s.level ++ t := by
    rw [Frame.write_of_visible o hvis,
      Frame.depth_of_ne_close (f := s.frame) (by rw [State.frame, hk]; decide), htrim]
    rfl
  refine advances_of_written o h ?_ ?_ ?_ ?_
  · simp [Frame.holds, State.frame, hk]
  · unfold State.feedDeclaration
    split_ifs <;> rfl
  · unfold State.feedDeclaration
    rw [hwritten]
    split_ifs <;> rfl
  · unfold State.feedDeclaration
    rw [Frame.next_of_declaration (f := s.frame) hk]
    split_ifs
    · rw [frame_of_written o (s := ((s.flushFields o).write o t).enterBlock (mentionsStruct t)) rfl]
      rfl
    · rw [frame_of_written o (s := (s.flushFields o).write o t) rfl]
      rfl

/-- A brace alone ends the batch and opens a block; in a struct body, or below a line
that mentions a struct, the block is a struct body. -/
theorem advances_feedOpen {s : State} (h : ∀ l ∈ s.fields, s.frame.holds l = true) {t : Text}
    (htrim : trim t = t) (hc : kind s.inStruct t ≠ .close)
    (hd : kind s.inStruct t ≠ .declaration) (ho : isLoneOpen t = true) :
    Advances o s [t] (s.feedOpen o t) := by
  have hbrace : t = [.char '{'] := by
    rw [isLoneOpen, htrim, beq_iff_eq] at ho
    exact ho
  -- in a struct body the line written last does not matter, and elsewhere no batch waits
  have hbody : ((s.flushFields o).inStruct ||
      (s.flushFields o).lastWritten.any mentionsStruct) =
      (s.frame.inStruct || s.frame.afterStruct) := by
    cases hs : s.inStruct with
    | true => simp [State.flushFields, State.frame, hs]
    | false =>
      simp [State.flushFields, State.frame, State.lastWritten, hs, fields_eq_nil h hs,
        alignBatch_nil]
  refine advances_of_written o h (by simp [Frame.holds, ho]) rfl ?_ ?_
  · rw [Frame.write_of_visible o (by rw [htrim, hbrace]; simp),
      Frame.depth_of_ne_close (f := s.frame) hc, htrim]
    rfl
  · rw [Frame.next_of_isLoneOpen (f := s.frame) hc hd ho, ← hbody,
      frame_of_written o (s := s.feedOpen o t) rfl]
    rfl

/-- **Placing a line**, once the run of attributes has ended. -/
theorem advances_place {s : State} (h : ∀ l ∈ s.fields, s.frame.holds l = true) {t : Text}
    (htrim : trim t = t) : Advances o s [t] (s.place o (kind s.inStruct t) t) := by
  unfold State.place
  split_ifs with hc hd ho hs hb
  · exact advances_feedClose o h htrim hc
  · exact advances_feedDeclaration o h htrim hd
  · exact advances_feedOpen o h htrim hc hd ho
  · exact advances_hold o (Frame.holds_iff.mpr ⟨hs, hc, hd, by simpa using ho⟩)
  · have hs' : s.inStruct = false := by simpa using hs
    have hblank := kind_eq_blank_iff.mp hb
    have hnil : t = [] := by rw [← htrim, hblank]
    subst hnil
    refine advances_of_written o h (by simp [Frame.holds, State.frame, hs'])
      (fields_eq_nil h hs') ?_ ?_
    · simp [Frame.write, State.flushFields, fields_eq_nil h hs', alignBatch_nil]
    · rw [Frame.next_of_plain (f := s.frame) hc hd (by simpa using ho) hs']
      simp [State.frame, State.lastWritten, mentionsStruct, hasWord]
  · have hs' : s.inStruct = false := by simpa using hs
    refine advances_write o (fields_eq_nil h hs') hs' hc hd (by simpa using ho) ?_ htrim
    rintro rfl
    exact hb (kind_eq_blank_iff.mpr rfl)

/-! ## Whole runs -/

theorem flushAttributes_fields {s : State} (h : s.Valid) :
    ∀ l ∈ (s.flushAttributes o).fields, (s.flushAttributes o).frame.holds l = true := by
  have has := isAttribute_of_mem_arrangeAttributes o.sortAttributes h.attributes
  cases hs : s.inStruct with
  | true =>
    have hframe : (s.flushAttributes o).frame = s.frame := by
      simp [State.flushAttributes, State.frame, State.lastWritten, hs]
    intro l hl
    rw [hframe]
    simp only [State.flushAttributes, hs, if_true, List.mem_append] at hl
    rcases hl with hl | hl
    · exact h.fields l hl
    · exact Frame.holds_of_isAttribute hs (has l hl)
  | false =>
    intro l hl
    have hnil : (s.flushAttributes o).fields = [] := by
      simp [State.flushAttributes, hs, fields_eq_nil h.fields hs]
    rw [hnil] at hl
    cases hl

@[simp] theorem flushAttributes_inStruct (s : State) :
    (s.flushAttributes o).inStruct = s.inStruct := by
  unfold State.flushAttributes
  split_ifs <;> rfl

@[simp] theorem flushAttributes_attributes (s : State) : (s.flushAttributes o).attributes = [] := by
  unfold State.flushAttributes
  split_ifs <;> rfl

theorem feed_of_isAttribute (s : State) {line : Text} (ha : isAttribute line = true) :
    s.feed o line = { s with attributes := s.attributes ++ [trim line] } := by
  rw [State.feed, if_pos (kind_eq_attribute_iff.mpr ha)]

/-- An attribute waits, and the rest of the state stays as it is. -/
theorem feedAll_concat_of_isAttribute (s : State) (ls : List Text) {line : Text}
    (ha : isAttribute line = true) :
    s.feedAll o (ls ++ [line]) =
      { s.feedAll o ls with attributes := (s.feedAll o ls).attributes ++ [trim line] } := by
  rw [State.feedAll, List.foldl_append, List.foldl_cons, List.foldl_nil, feed_of_isAttribute o _ ha]
  rfl

/-- A line that is no attribute ends the run of attributes and is placed. -/
theorem feed_of_not_isAttribute (s : State) {line : Text} (ha : isAttribute line = false) :
    s.feed o line = (s.flushAttributes o).place o
      (kind (s.flushAttributes o).inStruct (trim line)) (trim line) := by
  have hk : kind s.inStruct line ≠ .attribute := fun hk => by
    rw [kind_eq_attribute_iff.mp hk] at ha
    cases ha
  rw [State.feed, if_neg hk, flushAttributes_inStruct, kind_trim]

/-- Placing a line keeps a state of the pass. -/
theorem valid_place {s : State} (h : ∀ l ∈ s.fields, s.frame.holds l = true)
    (has : s.attributes = []) (t : Text) : (s.place o (kind s.inStruct t) t).Valid := by
  have hdecl : (s.feedDeclaration o t).fields = [] ∧ (s.feedDeclaration o t).attributes = [] := by
    unfold State.feedDeclaration
    split_ifs <;> exact ⟨rfl, has⟩
  unfold State.place
  split_ifs with hc hd ho hs hb
  · exact ⟨fun l hl => absurd hl List.not_mem_nil, by simp [State.feedClose, State.flushFields,
      State.leaveBlock, State.write, has]⟩
  · exact ⟨by simp [hdecl.1], by simp [hdecl.2]⟩
  · exact ⟨fun l hl => absurd hl List.not_mem_nil, by simp [State.feedOpen, State.flushFields,
      State.enterBlock, State.write, has]⟩
  · refine ⟨fun l hl => ?_, by simp [State.hold, has]⟩
    rcases List.mem_append.mp hl with hl | hl
    · exact h l hl
    · rw [List.mem_singleton.mp hl]
      exact Frame.holds_iff.mpr ⟨hs, hc, hd, by simpa using ho⟩
  · exact ⟨by simp [fields_eq_nil h (by simpa using hs)], by simp [has]⟩
  · exact ⟨by simp [State.write, fields_eq_nil h (by simpa using hs)], by simp [State.write, has]⟩

theorem place_attributes {s : State} (has : s.attributes = []) (k : LineKind) (t : Text) :
    (s.place o k t).attributes = [] := by
  unfold State.place State.feedDeclaration
  split_ifs <;> exact has

/-- **Every line keeps a state of the pass.** -/
theorem valid_feed {s : State} (h : s.Valid) (line : Text) : (s.feed o line).Valid := by
  cases ha : isAttribute line with
  | true =>
    rw [feed_of_isAttribute o s ha]
    exact ⟨h.fields, isAttribute_of_mem_concat h.attributes ha⟩
  | false =>
    rw [feed_of_not_isAttribute o s ha]
    exact valid_place o (flushAttributes_fields o h) (flushAttributes_attributes o s) (trim line)

theorem valid_feedAll {s : State} (h : s.Valid) (ls : List Text) : (s.feedAll o ls).Valid := by
  induction ls generalizing s with
  | nil => exact h
  | cons line rest ih => exact ih (valid_feed o h line)

theorem valid_initial : initial.Valid :=
  ⟨fun _ hl => absurd hl List.not_mem_nil, fun _ hl => absurd hl List.not_mem_nil⟩

/-- **A run lays out what it has read**, with the runs of attributes in order. -/
theorem advances_feedAll {s : State} (h : s.Valid) (ls : List Text) :
    Advances o s (arrangeRuns o.sortAttributes s.attributes ls)
      ((s.feedAll o ls).flushAttributes o) := by
  induction ls generalizing s with
  | nil => exact advances_flushAttributes o h
  | cons line rest ih =>
    have hrest : Advances o (s.feed o line)
        (arrangeRuns o.sortAttributes (s.feed o line).attributes rest)
        ((s.feedAll o (line :: rest)).flushAttributes o) := ih (valid_feed o h line)
    cases ha : isAttribute line with
    | true =>
      -- nothing is written, and the run of attributes goes on
      rw [feed_of_isAttribute o s ha] at hrest
      rw [arrangeRuns_cons_of_isAttribute _ ha]
      exact ⟨hrest.frame, hrest.outcome⟩
    | false =>
      have hline := advances_place o (flushAttributes_fields o h) (trim_trim line)
      rw [feed_of_not_isAttribute o s ha,
        place_attributes o (flushAttributes_attributes o s)] at hrest
      rw [arrangeRuns_cons_of_not_isAttribute _ ha]
      simpa using ((advances_flushAttributes o h).trans hline).trans hrest

/-- The frame of the line behind those read, if that line ends the run of
attributes. -/
def frameBelow (ls : List Text) : Frame :=
  Frame.start.after (arrangeRuns o.sortAttributes [] ls)

theorem frame_feedAll (ls : List Text) :
    ((initial.feedAll o ls).flushAttributes o).frame = frameBelow o ls :=
  (advances_feedAll o valid_initial ls).frame

/-- The level of that frame is the level of the pass. -/
theorem level_frameBelow (ls : List Text) :
    (frameBelow o ls).level = (initial.feedAll o ls).level := by
  rw [← frame_feedAll, State.frame, State.flushAttributes]
  split_ifs <;> rfl

/-- That frame is in a struct body if the pass is. -/
theorem inStruct_frameBelow (ls : List Text) :
    (frameBelow o ls).inStruct = (initial.feedAll o ls).inStruct := by
  rw [← frame_feedAll]
  exact flushAttributes_inStruct o _

/-- Behind a line that is no attribute the frame is changed by the lines that follow. -/
theorem frameBelow_append {before : List Text}
    (h : ∀ l ∈ before.getLast?, isAttribute l = false) (ls : List Text) :
    frameBelow o (before ++ ls) =
      (frameBelow o before).after (arrangeRuns o.sortAttributes [] ls) := by
  rw [frameBelow, arrangeRuns_append _ h, Frame.after_append, frameBelow]

/-- **Formatting is laying out the arranged lines.** -/
theorem formatLines_eq_layOut (ls : List Text) :
    formatLines o ls = layOut o Frame.start (arrangeRuns o.sortAttributes [] ls) := by
  have hend := (advances_feedAll o valid_initial ls).outcome []
  rw [List.append_nil, State.outcome, List.append_nil] at hend
  have hnone : ∀ l ∈ ([] : List Text).head?,
      ((initial.feedAll o ls).flushAttributes o).frame.holds l = false := by simp
  have hbatch := layOut_append_of_holds o
    (flushAttributes_fields o (valid_feedAll o valid_initial ls)) hnone
  rw [List.append_nil, layOut_nil, List.append_nil] at hbatch
  rw [hbatch] at hend
  exact hend

theorem length_formatLines (ls : List Text) : (formatLines o ls).length = ls.length := by
  rw [formatLines_eq_layOut, length_layOut, length_arrangeRuns, List.length_nil, Nat.zero_add]

theorem formatLines_ne_nil {ls : List Text} (hne : ls ≠ []) : formatLines o ls ≠ [] := by
  intro hnil
  have hlength := length_formatLines o ls
  rw [hnil, List.length_nil] at hlength
  exact hne (List.eq_nil_of_length_eq_zero hlength.symm)

/-- What is written at a place is written for the arranged line of that place. -/
theorem written_arranged {ls : List Text} {i : Nat} {out : Text}
    (hout : (formatLines o ls)[i]? = some out) :
    ∃ line f, (arrangeRuns o.sortAttributes [] ls)[i]? = some line ∧ Written o f line out := by
  rw [formatLines_eq_layOut] at hout
  obtain ⟨hi, -⟩ := List.getElem?_eq_some_iff.mp hout
  rw [length_layOut] at hi
  exact ⟨_, _, List.getElem?_eq_getElem hi,
    written_of_getElem? o (List.getElem?_eq_getElem hi) hout⟩

/-- What is written is written for a line that was read. -/
theorem exists_written {ls : List Text} {out : Text} (hout : out ∈ formatLines o ls) :
    ∃ line ∈ ls, ∃ f, Written o f (trim line) out := by
  obtain ⟨i, hi⟩ := List.mem_iff_getElem?.mp hout
  obtain ⟨arranged, f, harr, hw⟩ := written_arranged o hi
  obtain ⟨-, line, hline, rfl⟩ := mem_arrangeRuns _ (List.mem_of_getElem? harr)
  exact ⟨line, by simpa using hline, f, hw⟩

/-- A formatted line has no characters but those of the lines, blanks and colons. -/
theorem mem_formatLines {ls : List Text} {out : Text} (hout : out ∈ formatLines o ls)
    {c : CodePoint} (hc : c ∈ out) : (∃ l ∈ ls, c ∈ l) ∨ c = .char ' ' ∨ c = .char ':' := by
  obtain ⟨line, hline, f, hw⟩ := exists_written o hout
  exact (hw.mem hc).imp_left fun hmem => ⟨line, hline, mem_of_mem_trim hmem⟩

/-- **The lines of a formatted text are the formatted lines.** -/
theorem lines_format (t : Text) :
    Text.lines (SchemaEditor.format o t) = formatLines o (Text.lines t) := by
  refine lines_unlines (formatLines_ne_nil o (lines_ne_nil t)) fun out hout hlf => ?_
  rcases mem_formatLines o hout hlf with ⟨l, hl, hc⟩ | hlf | hlf
  · exact not_mem_of_mem_lines hl hc
  · cases hlf
  · cases hlf

end SchemaEditor.Format
