import SchemaEditor.Proofs.QuickFix.Touch
import SchemaEditor.Proofs.Service.Move
import SchemaEditor.Proofs.Service.Plain

/-!
# The fixes that are kept

What a service keeps for a document depends on the document and on its diagnostics, and
both change in many ways, also while a validator runs.  Whatever happens, the fixes that
are kept for a number are those that would be proposed for the diagnostic with that number
now (`OpenDocument.Coherent`).  So every fix that is answered carries the diagnostic that was
asked about (`Reachable.diagnostic_of_fixesFor`), and kept fixes cannot be told from fixes that
are proposed anew: the service says what a service says that keeps none
(`kept_fixes_unobservable`).

Every part of the service is followed through `Service.plain`.  Only asking for fixes needs
coherence, for all the rest never reads them.
-/

namespace SchemaEditor

/-- The fixes that are kept are those for the current diagnostics, on the current lines. -/
def OpenDocument.Coherent (d : OpenDocument) : Prop :=
  ∀ entry ∈ d.fixes, ∃ diagnostic, d.session.diagnostics[entry.1]? = some diagnostic ∧
    entry.2 = proposeFixes diagnostic d.document.lines

namespace OpenDocument
variable {d d' : OpenDocument}

theorem coherent_of_no_fixes (h : d.fixes = []) : d.Coherent := by
  intro entry hentry
  rw [h] at hentry
  cases hentry

/-- Coherence is about the document, the diagnostics and the fixes. -/
theorem Coherent.congr (h : d.Coherent) (hdoc : d'.document = d.document)
    (hds : d'.session.diagnostics = d.session.diagnostics) (hfixes : d'.fixes = d.fixes) :
    d'.Coherent := by
  rw [Coherent, hdoc, hds, hfixes]
  exact h

theorem Coherent.start (h : d.Coherent) : d.start.Coherent := h.congr rfl rfl rfl

theorem Coherent.keep (h : d.Coherent) {index : Nat} {diagnostic : Diagnostic}
    (hd : d.session.diagnostics[index]? = some diagnostic) :
    (d.keep index diagnostic).Coherent := by
  intro entry hentry
  rcases Entries.mem_insert hentry with rfl | hold
  · exact ⟨diagnostic, hd, rfl⟩
  · exact h entry hold

/-- A report that is taken takes the fixes away, and one that is not taken leaves the
diagnostics as they are. -/
theorem Coherent.conclude (h : d.Coherent) (generation : Nat) (report : Report) :
    (d.conclude generation report).Coherent := by
  rcases d.conclude_fixes generation report with hnone | ⟨hfixes, hne⟩
  · exact coherent_of_no_fixes hnone
  · refine h.congr (d.conclude_fields generation report).1 ?_ hfixes
    rw [conclude_diagnostics, if_neg hne]

/-- A fix that is kept for a number carries the diagnostic with that number. -/
theorem Coherent.diagnostic_eq (h : d.Coherent) {entry : Nat × List QuickFix}
    (hentry : entry ∈ d.fixes) {f : QuickFix} (hf : f ∈ entry.2) :
    d.session.diagnostics[entry.1]? = some f.diagnostic := by
  obtain ⟨diagnostic, hd, hfixes⟩ := h entry hentry
  rw [hfixes] at hf
  rw [hd, QuickFix.diagnostic_of_mem diagnostic d.document.lines hf]

end OpenDocument

namespace Service

/-- **The fixes that are kept are coherent**, whatever has happened. -/
theorem lasting_coherent : Lasting OpenDocument.Coherent where
  opened _ _ := OpenDocument.coherent_of_no_fixes rfl
  change h hd := by
    cases h with
    | updated text => exact OpenDocument.coherent_of_no_fixes rfl
    | kept index hindex => exact hd.keep hindex
    | started => exact hd.start
    | reported output => exact hd.start.conclude _ _
    | cleared _ => exact OpenDocument.coherent_of_no_fixes rfl
    | fixed fix => exact OpenDocument.coherent_of_no_fixes rfl
    | concluded report _ _ _ => exact hd.conclude _ report

/-- **The fixes that are answered are for the diagnostic that was asked about**, kept ones like
new ones. -/
theorem Reachable.diagnostic_of_fixesFor {t : Traffic Service} (ht : Reachable t) {id : Text}
    {d : OpenDocument} (hd : t.service.find id = .ok d) {index : Int} {fixes : List QuickFix}
    (h : (t.service.fixesFor id index).2 = .ok fixes) {f : QuickFix} (hf : f ∈ fixes) :
    d.session.diagnostics[index.toNat]? = some f.diagnostic := by
  rcases fixesFor_cases hd index with
    ⟨e, he⟩ | ⟨kept, hkept, hanswer⟩ | ⟨diagnostic, hasked, hanswer⟩
  · rw [he] at h
    cases h
  · rw [hanswer] at h
    obtain rfl := Except.ok.inj h
    exact (ht.lasting lasting_coherent hd).diagnostic_eq (Entries.mem_of_find? hkept) hf
  · rw [hanswer] at h
    obtain rfl := Except.ok.inj h
    rw [hasked, QuickFix.diagnostic_of_mem diagnostic d.document.lines hf]

/-! ## The requests one by one -/

section Requests
variable (s : Service)

@[simp] theorem find_plain (id : Text) : s.plain.find id = (s.find id).map OpenDocument.plain := by
  rw [PlainService.find, find, plain, Entries.find?_mapValues]
  cases Entries.find? id s.documents <;> rfl

@[simp] theorem put_plain (id : Text) (d : OpenDocument) :
    s.plain.put id d.plain = (s.put id d).plain := by
  simp only [PlainService.put, put, plain, Entries.insert_mapValues]

/-- A document that is put back with other fixes changes nothing that is not forgotten. -/
theorem plain_put {s : Service} {id : Text} {d d' : OpenDocument} (hf : s.find id = .ok d)
    (h : d'.plain = d.plain) : (s.put id d').plain = s.plain := by
  have hsame : Entries.find? id s.plain.documents = some d.plain := by
    rw [plain, Entries.find?_mapValues, find_eq_ok_iff.mp hf]
    rfl
  rw [← put_plain, h, PlainService.put, Entries.insert_eq_self hsame]

@[simp] theorem diagnosticsOf_plain (id : Text) :
    s.plain.diagnosticsOf id = s.diagnosticsOf id := by
  rw [PlainService.diagnosticsOf, diagnosticsOf, find_plain]
  cases s.find id <;> rfl

theorem openDocument_plain (id text : Text) (path : Option Text) :
    s.plain.openDocument id text path =
      ((s.openDocument id text path).1.plain, (s.openDocument id text path).2) := by
  simp only [PlainService.openDocument, openDocument, plain, PlainService.put, put,
    ← Entries.insert_mapValues]
  rfl

theorem update_plain (id text : Text) :
    s.plain.update id text = ((s.update id text).1.plain, (s.update id text).2) := by
  rw [PlainService.update, update, find_plain]
  cases s.find id with
  | error e => rfl
  | ok d => exact congrArg (·, _) (put_plain s id (d.update text))

theorem list_plain : s.plain.documents.map (fun entry => entry.2.summary entry.1) = s.list := by
  rw [plain, Entries.mapValues, List.map_map]
  rfl

theorem conclude_plain (d : OpenDocument) (generation : Nat) (report : Report) :
    d.plain.conclude generation report = (d.conclude generation report).plain := by
  unfold OpenDocument.conclude
  cases report with
  | error e => rfl
  | ok output =>
    dsimp only
    split_ifs with h
    · rfl
    · simp [PlainDocument.conclude, OpenDocument.plain, Session.publish, h]

theorem finishPass_plain (pass : Pass) (report : Report) :
    s.plain.finishPass pass report =
      ((s.finishPass pass report).1.plain, (s.finishPass pass report).2) := by
  have hfinished : (s.plain.finishPass pass report).1 = (s.finishPass pass report).1.plain := by
    rw [PlainService.finishPass, finishPass, find_plain]
    cases s.find pass.id with
    | error e => rfl
    | ok d =>
      simp only [Except.map]
      rw [apply_ite plain, conclude_plain, put_plain]
      rfl
  refine Prod.ext hfinished ?_
  rw [finishPass_answer, ← diagnosticsOf_plain, ← hfinished]
  rfl

/-- A service that keeps coherent fixes answers with what it would propose. -/
theorem fixesFor_plain (h : ∀ id d, s.find id = .ok d → d.Coherent) (id : Text) (index : Int) :
    (s.fixesFor id index).1.plain = s.plain ∧
      s.plain.fixesFor id index = (s.fixesFor id index).2 := by
  rw [PlainService.fixesFor, fixesFor, find_plain]
  cases hfound : s.find id with
  | error e => exact ⟨rfl, rfl⟩
  | ok d =>
    simp only [Except.map, OpenDocument.plain_session, OpenDocument.plain_document]
    split_ifs
    · exact ⟨rfl, rfl⟩
    · cases hkept : Entries.find? index.toNat d.fixes with
      | some fixes =>
        -- coherence: what was kept is what is proposed now
        obtain ⟨diagnostic, hd, rfl⟩ := h id d hfound _ (Entries.mem_of_find? hkept)
        exact ⟨rfl, by rw [hd]⟩
      | none =>
        cases d.session.diagnostics[index.toNat]? with
        | none => exact ⟨rfl, rfl⟩
        | some diagnostic => exact ⟨plain_put hfound rfl, rfl⟩

theorem applyFix_plain (h : ∀ id d, s.find id = .ok d → d.Coherent) (id : Text)
    (index fixIndex : Int) :
    s.plain.applyFix id index fixIndex =
      ((s.applyFix id index fixIndex).1.plain, (s.applyFix id index fixIndex).2) := by
  -- both go on from the service that has been asked for the fixes
  obtain ⟨hplain, hfixes⟩ := fixesFor_plain s h id index
  rw [PlainService.applyFix, applyFix, hfixes, ← hplain]
  obtain ⟨asked, result⟩ := s.fixesFor id index
  cases result with
  | error e => rfl
  | ok fixes =>
    dsimp only
    rw [find_plain]
    cases asked.find id with
    | error e => rfl
    | ok d =>
      cases pick fixes fixIndex with
      | error e => rfl
      | ok fix => exact congrArg (·, _) (put_plain asked id (d.applyFix fix))

/-- A validation that calls no validator. -/
theorem validate_plain {σ : Type} (host : Host σ) (env : σ) {id : Text} {output : Option Text}
    (h : s.launch (.validate id output) = none) :
    s.plain.validate id output =
      ((s.validate host env id output).1.2.plain, (s.validate host env id output).2) := by
  rw [PlainService.validate, validate, startPass, find_plain]
  cases hf : s.find id with
  | error e => rfl
  | ok d =>
    cases output with
    | some text =>
      have hstarted : s.plain.put id d.plain.start = (s.put id d.start).plain :=
        put_plain s id d.start
      dsimp only [Except.map]
      rw [hstarted]
      exact finishPass_plain (s.put id d.start) _ (.ok (some text))
    | none =>
      cases he : s.settings.enabled with
      | false => simp only [Except.map, plain_settings, he, Bool.false_eq_true, if_false,
          OpenDocument.plain_session]
      | true =>
        simp only [Except.map, plain_settings, he, if_true]
        rcases hp : d.document.path with _ | _ | ⟨c, path⟩
        · exact congrArg (·, _) (put_plain s id d.clear)
        · exact congrArg (·, _) (put_plain s id d.clear)
        · -- the document has a file, so that a validator would be called
          simp [launch, startPass, hf, he, hp] at h

end Requests

/-! ## Any event -/

theorem launch_plain (s : Service) (request : Request) :
    s.plain.launch request =
      (s.launch request).map fun (s, pass, path) => (s.plain, pass, path) := by
  cases request with
  | validate id output =>
    cases output with
    | some text => rfl
    | none =>
      rw [PlainService.launch, launch, startPass, find_plain]
      cases s.find id with
      | error e => rfl
      | ok d =>
        cases he : s.settings.enabled with
        | false => simp only [Except.map, plain_settings, he, Bool.false_eq_true, if_false,
            Option.map_none]
        | true =>
          simp only [Except.map, plain_settings, he, if_true, OpenDocument.plain_document]
          rcases d.document.path with _ | _ | ⟨c, path⟩
          · rfl
          · rfl
          · exact congrArg (fun started => some (started, _, _)) (put_plain s id d.start)
  | _ => rfl

theorem answer_plain (s : Service) (h : ∀ id d, s.find id = .ok d → d.Coherent)
    {request : Request} (hlaunch : s.launch request = none) :
    s.plain.answer request =
      ((machine.answer s request).1.plain, (machine.answer s request).2) := by
  cases request with
  | openDocument id text path =>
    rw [PlainService.answer, openDocument_plain]
    rfl
  | update id text =>
    rw [PlainService.answer, update_plain]
    rfl
  | close id =>
    rw [PlainService.answer, plain, Entries.erase_mapValues]
    rfl
  | list =>
    rw [PlainService.answer, list_plain]
    rfl
  | text id =>
    simp only [PlainService.answer, machine, handle, textOf, find_plain]
    cases s.find id <;> rfl
  | lines id =>
    simp only [PlainService.answer, machine, handle, linesOf, find_plain]
    cases s.find id <;> rfl
  | format id options =>
    simp only [PlainService.answer, machine, handle, format, find_plain]
    cases s.find id <;> rfl
  | validate id output =>
    rw [PlainService.answer, validate_plain s Host.idle () hlaunch]
    rfl
  | diagnostics id =>
    rw [PlainService.answer, diagnosticsOf_plain]
    rfl
  | fixes id index =>
    obtain ⟨hplain, hfixes⟩ := fixesFor_plain s h id index
    rw [PlainService.answer, hfixes, ← hplain]
    rfl
  | applyFix id index fixIndex =>
    rw [PlainService.answer, applyFix_plain s h]
    rfl
  | complete before => rfl
  | configure settings => rfl

/-- An event is the same to a service that keeps coherent fixes and to the plain one. -/
theorem step_plain_of_coherent {t : Traffic Service}
    (h : ∀ id d, t.service.find id = .ok d → d.Coherent) (e : Event) :
    PlainService.machine.step (t.map plain) e =
      ((machine.step t e).1.map plain, (machine.step t e).2) :=
  Machine.step_map (launch_plain t.service)
    (fun _ hlaunch => answer_plain t.service h hlaunch) (finishPass_plain t.service) e

/-- **An event is the same to both services.** -/
theorem step_plain {t : Traffic Service} (ht : Reachable t) (e : Event) :
    PlainService.machine.step (t.map plain) e =
      ((machine.step t e).1.map plain, (machine.step t e).2) :=
  step_plain_of_coherent (fun _ _ hd => ht.lasting lasting_coherent hd) e

/-- **A run is the same to both services**, reply by reply. -/
theorem replies_plain {t : Traffic Service} (ht : Reachable t) (events : List Event) :
    PlainService.machine.replies (t.map plain) events = machine.replies t events := by
  induction events generalizing t with
  | nil => rfl
  | cons e events ih =>
    have hrest : PlainService.machine.replies ((machine.step t e).1.map plain) events =
        machine.replies (machine.step t e).1 events := ih (ht.run [e])
    rw [Machine.replies, Machine.replies, step_plain ht, hrest]

/-- **The fixes that are kept cannot be observed**: whatever is asked and reported, in any
order, the service says what one says that keeps none, and what it has kept for a document
is always what it would propose now. -/
theorem kept_fixes_unobservable (settings : Settings) (owns : Bool) (events : List Event) :
    machine.replies (idleTraffic settings owns) events =
        PlainService.machine.replies (PlainService.idleTraffic settings owns) events ∧
      ∀ id d, (machine.run (idleTraffic settings owns) events).service.find id = .ok d →
        d.Coherent := by
  have hstart : Reachable (idleTraffic settings owns) := ⟨settings, owns, [], rfl⟩
  refine ⟨(replies_plain hstart events).symm, fun id d hd => ?_⟩
  exact (hstart.run events).lasting lasting_coherent hd

end Service

end SchemaEditor
