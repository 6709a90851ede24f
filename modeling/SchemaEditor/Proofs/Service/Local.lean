import SchemaEditor.Proofs.Service.Refusal

/-!
# Requests are local

What a request about an open document does depends on that document and on the settings, and on
nothing else that the service knows: neither on the other documents nor on how many were opened
before.  So of two services that have the same document open under a name, though by different
openings (`OpenDocument.renumber`), both call a validator for the request or neither does, both
give the same answer, and both put the same document in its place (`local_request`).

The same holds of the end of a pass (`finishPass_of_opening`).
-/

namespace SchemaEditor

/-- The same document, opened by another opening. -/
def OpenDocument.renumber (d : OpenDocument) (opening : Nat) : OpenDocument :=
  { d with opening := opening }

namespace Service
variable {s : Service} {id : Text} {d : OpenDocument}

theorem put_eq_self (hd : s.find id = .ok d) : s.put id d = s :=
  congrArg (fun documents => { s with documents := documents })
    (Entries.insert_eq_self (find_eq_ok_iff.mp hd))

theorem conclude_renumber (d : OpenDocument) (opening generation : Nat) (report : Report) :
    (d.renumber opening).conclude generation report =
      (d.conclude generation report).renumber opening := by
  unfold OpenDocument.conclude
  cases report with
  | error e => rfl
  | ok output =>
    by_cases haccepts : d.session.accepts generation = true
    · simp only [OpenDocument.renumber, haccepts, if_true]
    · simp only [OpenDocument.renumber, haccepts]
      rfl

/-! ## Fixes -/

theorem local_fixesFor (id : Text) (d : OpenDocument) (index : Int) :
    ∃ (d₁ : OpenDocument) (fixes : Result (List QuickFix)), ∀ (s : Service) (opening : Nat),
      s.find id = .ok (d.renumber opening) →
        s.fixesFor id index = (s.put id (d₁.renumber opening), fixes) := by
  by_cases hneg : index < 0
  · refine ⟨d, .error (.negativeDiagnostic index), fun s opening hd => ?_⟩
    rw [put_eq_self hd]
    simp only [fixesFor, hd, if_pos hneg]
  · cases hkept : Entries.find? index.toNat d.fixes with
    | some fixes =>
      refine ⟨d, .ok fixes, fun s opening hd => ?_⟩
      rw [put_eq_self hd]
      simp only [fixesFor, hd, if_neg hneg, OpenDocument.renumber, hkept]
    | none =>
      cases hget : d.session.diagnostics[index.toNat]? with
      | none =>
        refine ⟨d, .error (.noDiagnostic index), fun s opening hd => ?_⟩
        rw [put_eq_self hd]
        simp only [fixesFor, hd, if_neg hneg, OpenDocument.renumber, hkept, hget]
      | some diagnostic =>
        refine ⟨d.keep index.toNat diagnostic, .ok (proposeFixes diagnostic d.document.lines),
          fun s opening hd => ?_⟩
        simp only [fixesFor, hd, if_neg hneg, OpenDocument.renumber, hkept, hget]
        rfl

theorem local_applyFix (id : Text) (d : OpenDocument) (index fixIndex : Int) :
    ∃ (d₁ : OpenDocument) (applied : Result Applied), ∀ (s : Service) (opening : Nat),
      s.find id = .ok (d.renumber opening) →
        s.applyFix id index fixIndex = (s.put id (d₁.renumber opening), applied) := by
  obtain ⟨d₁, fixes, hfixes⟩ := local_fixesFor id d index
  cases fixes with
  | error e =>
    refine ⟨d₁, .error e, fun s opening hd => ?_⟩
    simp only [applyFix, hfixes s opening hd]
  | ok fixes =>
    cases hpick : pick fixes fixIndex with
    | error e =>
      refine ⟨d₁, .error e, fun s opening hd => ?_⟩
      simp only [applyFix, hfixes s opening hd, find_put, hpick]
    | ok fix =>
      refine ⟨d₁.applyFix fix, .ok ⟨(d₁.applyFix fix).summary id, fixIndex.toNat, fix,
        (d₁.applyFix fix).document.text⟩, fun s opening hd => ?_⟩
      simp only [applyFix, hfixes s opening hd, find_put, hpick, put_put]
      rfl

/-! ## Passes -/

/-- The document whose pass reports. -/
theorem finishPass_of_opening {generation opening : Nat} (hd : s.find id = .ok d)
    (hopening : d.opening = opening) (report : Report) :
    s.finishPass ⟨id, opening, generation⟩ report =
      (s.put id (d.conclude generation report),
        .ok (d.conclude generation report).session.diagnostics) := by
  simp only [finishPass, hd, if_pos hopening, diagnosticsOf, find_put]
  rfl

/-- A document that was opened anew while its pass was running. -/
theorem finishPass_of_opening_ne {generation opening : Nat} (hd : s.find id = .ok d)
    (hopening : d.opening ≠ opening) (report : Report) :
    s.finishPass ⟨id, opening, generation⟩ report = (s, .ok d.session.diagnostics) := by
  simp only [finishPass, hd, if_neg hopening, diagnosticsOf]
  rfl

/-! ## Any request -/

/-- Every service with some settings that has a document open under a name, by whatever opening,
calls a validator on a path for a request. -/
def Launches (settings : Settings) (id : Text) (d : OpenDocument) (request : Request)
    (path : Text) : Prop :=
  ∀ (s : Service) (opening : Nat), s.settings = settings → s.find id = .ok (d.renumber opening) →
    s.launch request = some (s.put id (d.start.renumber opening),
      ⟨id, opening, d.session.generation + 1⟩, path)

/-- Every service with some settings that has a document open under a name, by whatever opening,
puts a document in its place at a request and gives an answer. -/
def Answers (settings : Settings) (id : Text) (d : OpenDocument) (request : Request)
    (d₁ : OpenDocument) (answer : Result Answer) : Prop :=
  ∀ (s : Service) (opening : Nat), s.settings = settings → s.find id = .ok (d.renumber opening) →
    s.launch request = none ∧
      machine.answer s request = (s.put id (d₁.renumber opening), answer)

/-- A request that looks at a document leaves it as it is. -/
theorem answers_of_look {settings : Settings} {request : Request} {answer : Result Answer}
    (hlaunch : ∀ s : Service, s.launch request = none)
    (hanswer : ∀ (s : Service) (opening : Nat), s.settings = settings →
      s.find id = .ok (d.renumber opening) → machine.answer s request = (s, answer)) :
    Answers settings id d request d answer := by
  intro s opening hs hd
  rw [put_eq_self hd]
  exact ⟨hlaunch s, hanswer s opening hs hd⟩

/-- A validation whose output is at hand. -/
theorem local_validate_output (settings : Settings) (id : Text) (d : OpenDocument) (text : Text) :
    ∃ d₁ answer, Answers settings id d (.validate id (some text)) d₁ answer := by
  -- the pass ends as soon as it has started
  let d₁ := d.start.conclude (d.session.generation + 1) (.ok (some text))
  refine ⟨d₁, .ok (.diagnostics d₁.session.diagnostics), fun s opening _ hd => ⟨rfl, ?_⟩⟩
  have hstart : s.startPass id (some text) = (s.put id (d.start.renumber opening),
      .ok (.reported ⟨id, opening, d.session.generation + 1⟩ text)) := by
    simp only [startPass, hd]
    rfl
  have hfound := find_put s id (d.start.renumber opening)
  have hopening : (d.start.renumber opening).opening = opening := rfl
  simp only [machine, handle, Service.validate, hstart, finishPass_of_opening hfound hopening,
    conclude_renumber, put_put]
  rfl

/-- A validation that is answered when it starts. -/
theorem answers_of_startPass {settings : Settings} {d₁ : OpenDocument} (ds : List Diagnostic)
    (hstart : ∀ (s : Service) (opening : Nat), s.settings = settings →
      s.find id = .ok (d.renumber opening) →
        s.startPass id none = (s.put id (d₁.renumber opening), .ok (.answered ds))) :
    Answers settings id d (.validate id none) d₁ (.ok (.diagnostics ds)) := by
  intro s opening hs hd
  simp only [launch, machine, handle, Service.validate, hstart s opening hs hd]
  exact ⟨trivial, rfl⟩

/-- A validation without an output calls a validator if validation is on and the document has a
file. -/
theorem local_validate (settings : Settings) (id : Text) (d : OpenDocument) :
    (∃ path, Launches settings id d (.validate id none) path) ∨
      ∃ d₁ answer, Answers settings id d (.validate id none) d₁ answer := by
  by_cases henabled : settings.enabled = true
  · rcases hpath : d.document.path with _ | _ | ⟨c, path⟩
    · refine Or.inr ⟨d.clear, _, answers_of_startPass [] fun s opening hs hd => ?_⟩
      simp only [startPass, hd, hs, henabled, if_true, OpenDocument.renumber, hpath]
      rfl
    · refine Or.inr ⟨d.clear, _, answers_of_startPass [] fun s opening hs hd => ?_⟩
      simp only [startPass, hd, hs, henabled, if_true, OpenDocument.renumber, hpath]
      rfl
    · refine Or.inl ⟨c :: path, fun s opening hs hd => ?_⟩
      simp only [launch, startPass, hd, hs, henabled, if_true, OpenDocument.renumber, hpath]
      rfl
  · refine Or.inr ⟨d, _, answers_of_startPass d.session.diagnostics fun s opening hs hd => ?_⟩
    rw [put_eq_self hd]
    simp only [startPass, hd, hs, henabled]
    rfl

/-- **Requests are local**: what a request about an open document does depends on the settings
and on that document alone. -/
theorem local_request (settings : Settings) (d : OpenDocument) {request : Request}
    (hneeds : request.needs = some id) :
    (∃ path, Launches settings id d request path) ∨
      ∃ d₁ answer, Answers settings id d request d₁ answer := by
  cases request with
  | update id' text =>
    cases hneeds
    refine Or.inr ⟨d.update text, .ok (.summary ((d.update text).summary id)),
      fun s opening _ hd => ⟨rfl, ?_⟩⟩
    simp only [machine, handle, update, hd]
    rfl
  | text id' =>
    cases hneeds
    refine Or.inr ⟨d, .ok (.text d.document.text), answers_of_look (fun _ => rfl) ?_⟩
    intro s opening _ hd
    simp only [machine, handle, textOf, hd]
    rfl
  | lines id' =>
    cases hneeds
    refine Or.inr ⟨d, .ok (.lines d.document.lines), answers_of_look (fun _ => rfl) ?_⟩
    intro s opening _ hd
    simp only [machine, handle, linesOf, hd]
    rfl
  | format id' options =>
    cases hneeds
    refine Or.inr ⟨d, .ok (.formatted (d.format id (options.getD settings.options))),
      answers_of_look (fun _ => rfl) ?_⟩
    intro s opening hs hd
    simp only [machine, handle, format, hd, hs]
    rfl
  | validate id' output =>
    cases hneeds
    cases output with
    | some text => exact Or.inr (local_validate_output settings id d text)
    | none => exact local_validate settings id d
  | diagnostics id' =>
    cases hneeds
    refine Or.inr ⟨d, .ok (.diagnostics d.session.diagnostics),
      answers_of_look (fun _ => rfl) ?_⟩
    intro s opening _ hd
    simp only [machine, handle, diagnosticsOf, hd]
    rfl
  | fixes id' index =>
    cases hneeds
    obtain ⟨d₁, fixes, hfixes⟩ := local_fixesFor id d index
    refine Or.inr ⟨d₁, fixes.map .fixes, fun s opening _ hd => ⟨rfl, ?_⟩⟩
    simp only [machine, handle, hfixes s opening hd]
  | applyFix id' index fixIndex =>
    cases hneeds
    obtain ⟨d₁, applied, happlied⟩ := local_applyFix id d index fixIndex
    refine Or.inr ⟨d₁, applied.map .applied, fun s opening _ hd => ⟨rfl, ?_⟩⟩
    simp only [machine, handle, happlied s opening hd]
  | _ => cases hneeds

end Service

end SchemaEditor
