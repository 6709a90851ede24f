import SchemaEditor.Proofs.Service.Traffic

/-!
# What an event does to a service

Whatever happens in the traffic of a service, it is about one document at most, and it
is one of five things (`Move`): nothing, new settings, the document is opened, it is
closed, or it changes in one of the ways of `Change`.  `moves_step` says so for every
event, and tells which events are more than an edit or a look: they *disturb* the
document (`Service.disturbs`), for each opens or closes it, starts a pass on it or applies
a fix to it.  All that is proved about runs follows from this case distinction alone.
-/

namespace SchemaEditor

/-- A pass was started, and not only answered. -/
def PassStart.begins : PassStart → Bool
  | .answered _ => false
  | .reported _ _ => true
  | .running _ _ => true

namespace OpenDocument

/-- The document once a pass has started on it. -/
def start (d : OpenDocument) : OpenDocument := { d with session := d.session.start }

/-- The document with the fixes for one of its diagnostics kept. -/
def keep (d : OpenDocument) (index : Nat) (diagnostic : Diagnostic) : OpenDocument :=
  { d with
    fixes := Entries.insert index (proposeFixes diagnostic d.document.lines) d.fixes }

/-- The document has a file. -/
def hasFile (d : OpenDocument) : Bool := d.document.path.any fun path => !path.isEmpty

end OpenDocument

/-- How a document that stays open can change at an event, while the validators of some
passes are running; the flag tells whether the event disturbs it. -/
inductive Change (running : List Pass) (id : Text) (d : OpenDocument) :
    OpenDocument → Bool → Prop
  | updated (text : Text) : Change running id d (d.update text) false
  | kept (index : Nat) {diagnostic : Diagnostic}
      (h : d.session.diagnostics[index]? = some diagnostic) :
      Change running id d (d.keep index diagnostic) false
  | started : Change running id d d.start true
  | reported (output : Text) :
      Change running id d
        (d.start.conclude (d.session.generation + 1) (.ok (some output))) true
  | cleared (h : d.hasFile = false) : Change running id d d.clear false
  | fixed (fix : QuickFix) : Change running id d (d.applyFix fix) true
  | concluded {pass : Pass} (report : Report) (hrun : pass ∈ running) (hid : pass.id = id)
      (hopening : d.opening = pass.opening) :
      Change running id d (d.conclude pass.generation report) false

/-- What an event can do to a service, about the document with a name; the flag tells
whether it disturbs that document. -/
inductive Move (running : List Pass) (s : Service) (id : Text) : Service → Bool → Prop
  | same : Move running s id s false
  | configured (settings : Settings) : Move running s id (s.configure settings) false
  | opened (text : Text) (path : Option Text) :
      Move running s id (s.openDocument id text path).1 true
  | closed : Move running s id (s.close id) true
  | changed {d d' : OpenDocument} {disturbs : Bool} (hfound : s.find id = .ok d)
      (h : Change running id d d' disturbs) : Move running s id (s.put id d') disturbs

namespace Service

/-- An event disturbs the document open under a name: it opens or closes it, starts a
pass on it, or applies a fix to it. -/
def disturbs (id : Text) (s : Service) : Event → Bool
  | .ask (.openDocument id' _ _) => decide (id' = id)
  | .ask (.close id') => decide (id' = id)
  | .ask (.validate id' output) =>
      decide (id' = id) && (s.startPass id' output).2.toOption.any PassStart.begins
  | .ask (.applyFix id' index fixIndex) =>
      decide (id' = id) && (s.applyFix id' index fixIndex).2.isOk
  | _ => false

/-! ## Finding documents -/

section Find
variable {s : Service} {id : Text} {d : OpenDocument}

theorem find_eq_ok_iff : s.find id = .ok d ↔ Entries.find? id s.documents = some d := by
  unfold find
  cases Entries.find? id s.documents <;> simp

theorem find_eq_error_iff {e : ServiceError} :
    s.find id = .error e ↔ e = .unknownDocument id ∧ Entries.find? id s.documents = none := by
  unfold find
  cases Entries.find? id s.documents <;> simp [eq_comm]

theorem find?_put (s : Service) (id id' : Text) (d : OpenDocument) :
    Entries.find? id (s.put id' d).documents =
      if id' = id then some d else Entries.find? id s.documents :=
  Entries.find?_insert id id' d s.documents

@[simp] theorem find_put (s : Service) (id : Text) (d : OpenDocument) :
    (s.put id d).find id = .ok d :=
  find_eq_ok_iff.mpr (by rw [find?_put, if_pos rfl])

@[simp] theorem put_put (s : Service) (id : Text) (d d' : OpenDocument) :
    (s.put id d).put id d' = s.put id d' :=
  congrArg (fun documents => { s with documents := documents })
    (Entries.insert_insert id d' d s.documents)

end Find

/-! ## The requests one by one -/

section Requests
variable {s : Service} {id : Text} {d : OpenDocument}

/-- Asking for fixes fails and changes nothing, finds the fixes kept, or keeps them. -/
theorem fixesFor_cases (hf : s.find id = .ok d) (index : Int) :
    (∃ e, s.fixesFor id index = (s, .error e)) ∨
      (∃ fixes, Entries.find? index.toNat d.fixes = some fixes ∧
        s.fixesFor id index = (s, .ok fixes)) ∨
      ∃ diagnostic, d.session.diagnostics[index.toNat]? = some diagnostic ∧
        s.fixesFor id index = (s.put id (d.keep index.toNat diagnostic),
          .ok (proposeFixes diagnostic d.document.lines)) := by
  unfold fixesFor
  simp only [hf]
  split_ifs with hneg
  · exact Or.inl ⟨_, rfl⟩
  · cases hk : Entries.find? index.toNat d.fixes with
    | some fixes => exact Or.inr (Or.inl ⟨fixes, rfl, rfl⟩)
    | none =>
      cases hd : d.session.diagnostics[index.toNat]? with
      | none => exact Or.inl ⟨_, rfl⟩
      | some diagnostic => exact Or.inr (Or.inr ⟨diagnostic, rfl, rfl⟩)

theorem fixesFor_of_find_error {e : ServiceError} (hf : s.find id = .error e) (index : Int) :
    s.fixesFor id index = (s, .error e) := by
  simp only [fixesFor, hf]

/-- A fix is applied to the document as it was found, or nothing but what asking for the
fixes does is done. -/
theorem applyFix_cases (s : Service) (id : Text) (index fixIndex : Int) :
    (∃ e, s.applyFix id index fixIndex = ((s.fixesFor id index).1, .error e)) ∨
      ∃ d fix applied, s.find id = .ok d ∧
        s.applyFix id index fixIndex = (s.put id (d.applyFix fix), .ok applied) := by
  unfold applyFix
  cases hf : s.find id with
  | error e =>
    rw [fixesFor_of_find_error hf]
    exact Or.inl ⟨e, rfl⟩
  | ok d =>
    rcases fixesFor_cases hf index with ⟨e, he⟩ | ⟨fixes, -, he⟩ | ⟨diagnostic, -, he⟩
    · rw [he]
      exact Or.inl ⟨e, rfl⟩
    · rw [he]
      simp only [hf]
      cases pick fixes fixIndex with
      | error e => exact Or.inl ⟨e, rfl⟩
      | ok fix => exact Or.inr ⟨d, fix, _, rfl, rfl⟩
    · rw [he]
      simp only [find_put, put_put]
      cases pick (proposeFixes diagnostic d.document.lines) fixIndex with
      | error e => exact Or.inl ⟨e, rfl⟩
      | ok fix => exact Or.inr ⟨d, fix, _, rfl, rfl⟩

/-- The ways in which a pass on an open document starts. -/
theorem startPass_cases (hf : s.find id = .ok d) (output : Option Text) :
    (∃ text, output = some text ∧ s.startPass id output = (s.put id d.start,
        .ok (.reported ⟨id, d.opening, d.session.generation + 1⟩ text))) ∨
      (∃ path, output = none ∧ d.hasFile = true ∧ s.startPass id output = (s.put id d.start,
        .ok (.running ⟨id, d.opening, d.session.generation + 1⟩ path))) ∨
      (d.hasFile = false ∧ s.startPass id output = (s.put id d.clear, .ok (.answered []))) ∨
      s.startPass id output = (s, .ok (.answered d.session.diagnostics)) := by
  unfold startPass
  simp only [hf]
  cases output with
  | some text => exact Or.inl ⟨text, rfl, rfl⟩
  | none =>
    by_cases he : s.settings.enabled = true
    · simp only [he, if_true]
      rcases hp : d.document.path with _ | _ | ⟨c, path⟩
      · exact Or.inr (Or.inr (Or.inl ⟨by simp [OpenDocument.hasFile, hp], rfl⟩))
      · exact Or.inr (Or.inr (Or.inl ⟨by simp [OpenDocument.hasFile, hp], rfl⟩))
      · exact Or.inr (Or.inl ⟨c :: path, trivial, by simp [OpenDocument.hasFile, hp], rfl⟩)
    · simp only [he]
      exact Or.inr (Or.inr (Or.inr rfl))

theorem startPass_of_find_error {e : ServiceError} (hf : s.find id = .error e)
    (output : Option Text) : s.startPass id output = (s, .error e) := by
  simp only [startPass, hf]

/-- A pass ends on the document that it was started on, if that is still open. -/
theorem finishPass_cases (s : Service) (pass : Pass) (report : Report) :
    (∃ d, s.find pass.id = .ok d ∧ d.opening = pass.opening ∧
        (s.finishPass pass report).1 = s.put pass.id (d.conclude pass.generation report)) ∨
      (∀ d, s.find pass.id = .ok d → d.opening ≠ pass.opening) ∧
        (s.finishPass pass report).1 = s := by
  unfold finishPass
  cases hf : s.find pass.id with
  | error e => exact Or.inr ⟨fun d hd => (by cases hd), rfl⟩
  | ok d =>
    by_cases ho : d.opening = pass.opening
    · exact Or.inl ⟨d, rfl, ho, if_pos ho⟩
    · refine Or.inr ⟨fun d' hd' => ?_, if_neg ho⟩
      rw [← Except.ok.inj hd']
      exact ho

/-- The answer to a pass is what is visible when it ends. -/
theorem finishPass_answer (s : Service) (pass : Pass) (report : Report) :
    (s.finishPass pass report).2 = (s.finishPass pass report).1.diagnosticsOf pass.id := rfl

/-- A pass whose output is there already ends as soon as it has started. -/
theorem finishPass_reported (s : Service) (id : Text) (d : OpenDocument) (text : Text) :
    ((s.put id d.start).finishPass ⟨id, d.opening, d.session.generation + 1⟩
        (.ok (some text))).1 =
      s.put id (d.start.conclude (d.session.generation + 1) (.ok (some text))) := by
  simp [finishPass, OpenDocument.start]

end Requests

/-! ## Any event -/

section Moves
variable {running : List Pass} {s s' : Service}

/-- The document that an event is about, and what it does. -/
def Moves (running : List Pass) (s s' : Service) (disturbs : Text → Bool) : Prop :=
  ∃ id b, (∀ id', disturbs id' = (decide (id = id') && b)) ∧ Move running s id s' b

theorem moves_same {f : Text → Bool} (hf : ∀ id, f id = false) : Moves running s s f :=
  ⟨[], false, fun id => by rw [hf, Bool.and_false], .same⟩

theorem moves_fixesFor (id : Text) (index : Int) :
    Moves running s (s.fixesFor id index).1 fun _ => false := by
  cases hf : s.find id with
  | error e =>
    rw [fixesFor_of_find_error hf]
    exact moves_same fun _ => rfl
  | ok d =>
    rcases fixesFor_cases hf index with ⟨e, he⟩ | ⟨fixes, -, he⟩ | ⟨diagnostic, hd, he⟩
    · rw [he]
      exact moves_same fun _ => rfl
    · rw [he]
      exact moves_same fun _ => rfl
    · rw [he]
      exact ⟨id, false, fun _ => (Bool.and_false _).symm, .changed hf (.kept _ hd)⟩

theorem moves_applyFix (id : Text) (index fixIndex : Int) :
    Moves running s (s.applyFix id index fixIndex).1 fun id' =>
      decide (id = id') && (s.applyFix id index fixIndex).2.isOk := by
  rcases applyFix_cases s id index fixIndex with ⟨e, he⟩ | ⟨d, fix, applied, hf, he⟩
  · have hasked : Moves running s (s.fixesFor id index).1 _ := moves_fixesFor id index
    obtain ⟨id', b, hb, hmove⟩ := hasked
    -- no fix is applied, but those asked for may have been kept
    rw [he]
    exact ⟨id', b, fun id => by rw [← hb]; exact Bool.and_false _, hmove⟩
  · rw [he]
    exact ⟨id, true, fun _ => rfl, .changed hf (.fixed fix)⟩

theorem moves_launch {request : Request} {pass : Pass} {path : Text}
    (h : s.launch request = some (s', pass, path)) :
    Moves running s s' fun id => s.disturbs id (.ask request) := by
  obtain ⟨id, rfl, hstart⟩ := launch_eq_some_iff.mp h
  cases hf : s.find id with
  | error e => cases (startPass_of_find_error hf none).symm.trans hstart
  | ok d =>
    rcases startPass_cases hf none with ⟨_, hnone, -⟩ | ⟨path', -, -, he⟩ | ⟨-, he⟩ | he
    · cases hnone
    · obtain ⟨rfl, -⟩ := Prod.mk.inj (he.symm.trans hstart)
      simp only [disturbs, he]
      exact ⟨id, true, fun _ => rfl, .changed hf .started⟩
    · cases he.symm.trans hstart
    · cases he.symm.trans hstart

/-- A validation that calls no validator. -/
theorem moves_validate {id : Text} {output : Option Text}
    (hlaunch : s.launch (.validate id output) = none) :
    Moves running s (machine.answer s (.validate id output)).1 fun id' =>
      s.disturbs id' (.ask (.validate id output)) := by
  simp only [machine, handle, validate, disturbs]
  cases hf : s.find id with
  | error e =>
    rw [startPass_of_find_error hf]
    exact moves_same fun _ => Bool.and_false _
  | ok d =>
    rcases startPass_cases hf output with ⟨text, -, he⟩ | ⟨path, rfl, -, he⟩ | ⟨hfile, he⟩ | he
    · -- the pass starts and ends at once
      rw [he]
      simp only [finishPass_reported]
      exact ⟨id, true, fun _ => rfl, .changed hf (.reported text)⟩
    · cases (launch_validate he).symm.trans hlaunch
    · rw [he]
      exact ⟨id, false, fun _ => rfl, .changed hf (.cleared hfile)⟩
    · rw [he]
      exact moves_same fun _ => Bool.and_false _

theorem moves_finishPass {pass : Pass} (hrun : pass ∈ running) (report : Report) :
    Moves running s (s.finishPass pass report).1 fun _ => false := by
  rcases finishPass_cases s pass report with ⟨d, hf, ho, he⟩ | ⟨-, he⟩
  · rw [he]
    exact ⟨pass.id, false, fun _ => (Bool.and_false _).symm,
      .changed hf (.concluded report hrun rfl ho)⟩
  · rw [he]
    exact moves_same fun _ => rfl

/-- **What an event does to a service.** -/
theorem moves_step (t : Traffic Service) (e : Event) :
    Moves t.running t.service (machine.step t e).1.service fun id => t.service.disturbs id e := by
  cases e with
  | ask request =>
    cases hlaunch : t.service.launch request with
    | some started =>
      obtain ⟨s', pass, path⟩ := started
      rw [Machine.step_ask_of_launch (m := machine) hlaunch]
      exact moves_launch hlaunch
    | none =>
      rw [Machine.step_ask_of_not_launch (m := machine) hlaunch]
      cases request with
      | openDocument id text path =>
        exact ⟨id, true, fun _ => (Bool.and_true _).symm, .opened text path⟩
      | update id text =>
        simp only [machine, handle, update]
        cases hf : t.service.find id with
        | error e => exact moves_same fun _ => rfl
        | ok d => exact ⟨id, false, fun _ => (Bool.and_false _).symm, .changed hf (.updated text)⟩
      | close id => exact ⟨id, true, fun _ => (Bool.and_true _).symm, .closed⟩
      | validate id output => exact moves_validate hlaunch
      | fixes id index => exact moves_fixesFor id index
      | applyFix id index fixIndex => exact moves_applyFix id index fixIndex
      | configure settings =>
        exact ⟨[], false, fun _ => (Bool.and_false _).symm, .configured settings⟩
      | _ => exact moves_same fun _ => rfl
  | report pass report =>
    by_cases hrun : pass ∈ t.running
    · rw [Machine.step_report_of_mem (m := machine) hrun]
      exact moves_finishPass hrun report
    · rw [Machine.step_report_of_not_mem (m := machine) hrun]
      exact moves_same fun _ => rfl

/-! ## The parts of a call -/

theorem exists_move_of_not_launch {request : Request} (h : s.launch request = none) :
    ∃ id b, Move [] s id (machine.answer s request).1 b := by
  obtain ⟨id, b, -, hmove⟩ := moves_step ⟨s, []⟩ (.ask request)
  rw [Machine.step_ask_of_not_launch (m := machine) (t := ⟨s, []⟩) h] at hmove
  exact ⟨id, b, hmove⟩

theorem exists_move_of_launch {request : Request} {pass : Pass} {path : Text}
    (h : s.launch request = some (s', pass, path)) : ∃ id b, Move [] s id s' b := by
  have hmoves : Moves [] s s' _ := moves_launch h
  obtain ⟨id, b, -, hmove⟩ := hmoves
  exact ⟨id, b, hmove⟩

theorem exists_move_finishPass (s : Service) (pass : Pass) (report : Report) :
    ∃ id b, Move [pass] s id (s.finishPass pass report).1 b := by
  obtain ⟨id, b, -, hmove⟩ := moves_finishPass (List.mem_singleton_self pass) report
  exact ⟨id, b, hmove⟩

end Moves

end Service

/-! ## What a change does -/

namespace OpenDocument
variable (d : OpenDocument) (generation : Nat) (report : Report)

theorem conclude_fields :
    (d.conclude generation report).document = d.document ∧
      (d.conclude generation report).version = d.version ∧
      (d.conclude generation report).opening = d.opening ∧
      (d.conclude generation report).session.generation = d.session.generation := by
  unfold conclude Session.publish
  cases report with
  | error e => dsimp only; split_ifs <;> exact ⟨rfl, rfl, rfl, rfl⟩
  | ok output => dsimp only; split_ifs <;> exact ⟨rfl, rfl, rfl, rfl⟩

/-- The report of a pass is taken if the session has given out no later number. -/
theorem conclude_diagnostics :
    (d.conclude generation report).session.diagnostics =
      if d.session.generation = generation then report.diagnostics d.document.lines
      else d.session.diagnostics := by
  unfold conclude Session.publish Report.diagnostics
  by_cases h : d.session.generation = generation
  · cases report <;> simp [Session.accepts_iff.mpr h, h]
  · cases report <;> simp [mt Session.accepts_iff.mp h, h]

/-- Fixes are kept only if the report is not taken. -/
theorem conclude_fixes :
    (d.conclude generation report).fixes = [] ∨
      (d.conclude generation report).fixes = d.fixes ∧ d.session.generation ≠ generation := by
  unfold conclude
  cases report with
  | error e => exact Or.inl rfl
  | ok output =>
    dsimp only
    split_ifs with h
    · exact Or.inl rfl
    · exact Or.inr ⟨rfl, fun he => h (Session.accepts_iff.mpr he)⟩

end OpenDocument

namespace Change
variable {running : List Pass} {id : Text} {d d' : OpenDocument} {b : Bool}

theorem opening_eq (h : Change running id d d' b) : d'.opening = d.opening := by
  cases h with
  | reported output => exact (OpenDocument.conclude_fields _ _ _).2.2.1
  | concluded report _ _ _ => exact (OpenDocument.conclude_fields _ _ _).2.2.1
  | _ => rfl

/-- No change gives a document another file. -/
theorem path_eq (h : Change running id d d' b) : d'.document.path = d.document.path := by
  cases h with
  | reported output => rw [(OpenDocument.conclude_fields _ _ _).1]; rfl
  | concluded report _ _ _ => rw [(OpenDocument.conclude_fields _ _ _).1]
  | _ => rfl

/-- A change that disturbs a document makes the passes on it stale. -/
theorem generation_lt (h : Change running id d d' true) :
    d.session.generation < d'.session.generation := by
  cases h with
  | reported output =>
    rw [(OpenDocument.conclude_fields _ _ _).2.2.2]
    exact Nat.lt_succ_self _
  | started => exact Nat.lt_succ_self _
  | fixed fix => exact Nat.lt_succ_self _

/-- Any other change makes no pass stale, if the document has a file. -/
theorem generation_eq (h : Change running id d d' false) (hfile : d.hasFile = true) :
    d'.session.generation = d.session.generation := by
  cases h with
  | cleared hnone => rw [hfile] at hnone; cases hnone
  | concluded report _ _ _ => exact (OpenDocument.conclude_fields _ _ _).2.2.2
  | _ => rfl

theorem generation_le (h : Change running id d d' b) :
    d.session.generation ≤ d'.session.generation := by
  cases b with
  | true => exact Nat.le_of_lt h.generation_lt
  | false =>
    cases h with
    | cleared _ => exact Nat.le_succ _
    | concluded report _ _ _ => exact Nat.le_of_eq (OpenDocument.conclude_fields _ _ _).2.2.2.symm
    | _ => exact Nat.le_refl _

end Change

/-! ## What a move does -/

namespace Service

/-- Documents are open under distinct names, and each was opened by an opening that has
been counted. -/
structure Sound (s : Service) : Prop where
  keys : (Entries.keys s.documents).Nodup
  opening : ∀ id d, s.find id = .ok d → d.opening < s.openings

end Service

namespace Move
variable {running : List Pass} {s s' : Service} {id : Text} {b : Bool}

/-- A move about one document leaves the others alone. -/
theorem find_of_ne (h : Move running s id s' b) {id' : Text} (hne : id ≠ id') :
    s'.find id' = s.find id' := by
  have hfind : Entries.find? id' s'.documents = Entries.find? id' s.documents := by
    cases h with
    | same => rfl
    | configured settings => rfl
    | opened text path => exact Entries.find?_insert_of_ne hne _ _
    | closed => exact Entries.find?_erase_of_ne hne _
    | changed _ _ => exact Entries.find?_insert_of_ne hne _ _
  rw [Service.find, Service.find, hfind]

theorem openings_le (h : Move running s id s' b) : s.openings ≤ s'.openings := by
  cases h with
  | opened text path => exact Nat.le_succ _
  | _ => exact Nat.le_refl _

theorem find_opened (text : Text) (path : Option Text) :
    (s.openDocument id text path).1.find id =
      .ok (.opened (Document.ofText text path) s.openings) :=
  Service.find_eq_ok_iff.mpr (Entries.find?_insert_self id _ s.documents)

theorem find_closed (h : s.Sound) : (s.close id).find id = .error (.unknownDocument id) :=
  Service.find_eq_error_iff.mpr ⟨rfl, Entries.find?_erase_self h.keys⟩

/-- **A document that is open after a move** was open before, has just been opened, or
has changed. -/
theorem origin (h : Move running s id s' b) (hs : s.Sound) {id' : Text} {d' : OpenDocument}
    (hd' : s'.find id' = .ok d') :
    s.find id' = .ok d' ∨
      (∃ text path, d' = .opened (Document.ofText text path) s.openings ∧
        s.openings < s'.openings) ∨
      ∃ d, s.find id' = .ok d ∧ Change running id' d d' b := by
  by_cases hid : id = id'
  · subst hid
    cases h with
    | same => exact Or.inl hd'
    | configured settings => exact Or.inl hd'
    | opened text path =>
      rw [find_opened] at hd'
      exact Or.inr (Or.inl ⟨text, path, (Except.ok.inj hd').symm, Nat.lt_succ_self _⟩)
    | closed =>
      rw [find_closed hs] at hd'
      cases hd'
    | @changed d _ _ hfound hchange =>
      rw [Service.find_put] at hd'
      exact Or.inr (Or.inr ⟨d, hfound, Except.ok.inj hd' ▸ hchange⟩)
  · exact Or.inl (h.find_of_ne hid ▸ hd')

theorem sound (h : Move running s id s' b) (hs : s.Sound) : s'.Sound where
  keys := by
    cases h with
    | same => exact hs.keys
    | configured settings => exact hs.keys
    | opened text path => exact Entries.nodup_keys_insert hs.keys
    | closed => exact Entries.nodup_keys_erase id hs.keys
    | changed _ _ => exact Entries.nodup_keys_insert hs.keys
  opening := by
    intro id' d' hd'
    rcases h.origin hs hd' with hold | ⟨text, path, rfl, hlt⟩ | ⟨d, hfound, hchange⟩
    · exact Nat.lt_of_lt_of_le (hs.opening id' d' hold) h.openings_le
    · exact hlt
    · rw [hchange.opening_eq]
      exact Nat.lt_of_lt_of_le (hs.opening id' d hfound) h.openings_le

end Move

/-! ## What every run keeps -/

namespace Service

theorem sound_initial (settings : Settings) (owns : Bool) : (initial settings owns).Sound :=
  ⟨List.nodup_nil, fun _ _ h => by cases h⟩

theorem sound_step (t : Traffic Service) (e : Event) (h : t.service.Sound) :
    (machine.step t e).1.service.Sound := by
  obtain ⟨id, b, -, hmove⟩ := moves_step t e
  exact hmove.sound h

theorem Reachable.sound {t : Traffic Service} (h : Reachable t) : t.service.Sound := by
  obtain ⟨settings, owns, events, rfl⟩ := h
  exact Machine.run_induction (P := fun t : Traffic Service => t.service.Sound) sound_step events
    (sound_initial settings owns)

/-- **What holds of every document that is opened, and lasts**, holds of every open document,
whatever has happened. -/
theorem Reachable.open_induction {P : OpenDocument → Prop} {t : Traffic Service}
    (h : Reachable t)
    (opened : ∀ text path opening, P (.opened (Document.ofText text path) opening))
    (change : ∀ {running id d d' b}, Change running id d d' b → P d → P d')
    {id : Text} {d : OpenDocument} (hd : t.service.find id = .ok d) : P d := by
  obtain ⟨settings, owns, events, rfl⟩ := h
  have hstep : ∀ t : Traffic Service,
      (t.service.Sound ∧ ∀ id d, t.service.find id = .ok d → P d) → ∀ e : Event,
        (machine.step t e).1.service.Sound ∧
          ∀ id d, (machine.step t e).1.service.find id = .ok d → P d := by
    intro t ⟨hs, ht⟩ e
    refine ⟨sound_step t e hs, fun id' d' hd' => ?_⟩
    obtain ⟨id, b, -, hmove⟩ := moves_step t e
    rcases hmove.origin hs hd' with hold | ⟨text, path, rfl, -⟩ | ⟨d, hfound, hchange⟩
    · exact ht id' d' hold
    · exact opened _ _ _
    · exact change hchange (ht id' d hfound)
  have hstart : (idleTraffic settings owns).service.Sound ∧
      ∀ id d, (idleTraffic settings owns).service.find id = .ok d → P d :=
    ⟨sound_initial settings owns, fun _ _ hd => by cases hd⟩
  exact (Machine.run_induction (fun t e ht => hstep t ht e) events hstart).2 id d hd

/-- A property of open documents that holds of a fresh document and that every change
keeps. -/
structure Lasting (P : OpenDocument → Prop) : Prop where
  opened : ∀ document opening, P (.opened document opening)
  change : ∀ {running id d d' b}, Change running id d d' b → P d → P d'

/-- **A lasting property holds of every open document**, whatever has happened. -/
theorem Reachable.lasting {P : OpenDocument → Prop} (hP : Lasting P) {t : Traffic Service}
    (h : Reachable t) {id : Text} {d : OpenDocument} (hd : t.service.find id = .ok d) : P d :=
  h.open_induction (fun _ _ _ => hP.opened _ _) hP.change hd

end Service

end SchemaEditor
