import SchemaEditor.Proofs.Service.KeptFixes
import SchemaEditor.Proofs.Service.Overlap

/-!
# No fix is applied twice

A fix is about the text that was validated.  Once one has been applied to a document, the
service has no fix to offer for it, and none to apply, until a pass that begins after that
has found something (`fix_applied_once`): whatever is asked, opened anew or reported in the
meantime, a request for fixes is refused because there is no diagnostic with the number.

Two things hold from the application of the fix until then (`Spent`).  The document has no
diagnostics, so none can be asked for.  And the passes that were under way are outdated,
since the fix took a number of its own, so that the report of a pass is only taken if the
pass has begun in the meantime.
-/

namespace SchemaEditor.Service

/-! ## What is published -/

/-- The report of a pass is taken by its document, and there are diagnostics in it. -/
def takes (s : Service) (pass : Pass) (report : Report) : Bool :=
  match s.find pass.id with
  | .ok d =>
      decide (d.opening = pass.opening) && d.session.accepts pass.generation &&
        !(report.diagnostics d.document.lines).isEmpty
  | .error _ => false

/-- The pass whose validator an event calls. -/
def begun (s : Service) : Event → List Pass
  | .ask request => ((s.launch request).map fun started => started.2.1).toList
  | .report _ _ => []

/-- At the event a pass publishes diagnostics for the document open under a name, and the
pass begins at this event or is one of those given. -/
def publishes (id : Text) (since : List Pass) (t : Traffic Service) : Event → Bool
  | .ask (.validate id' output) =>
      match t.service.startPass id' output with
      | (started, .ok (.reported pass text)) =>
          decide (id' = id) && started.takes pass (.ok (some text))
      | _ => false
  | .report pass report =>
      decide (pass ∈ t.running ∧ pass ∈ since ∧ pass.id = id) && t.service.takes pass report
  | _ => false

/-- In the course of the events a pass that begins with them, or is one of those given,
publishes diagnostics for the document open under a name. -/
def republished (id : Text) : List Pass → Traffic Service → List Event → Bool
  | _, _, [] => false
  | since, t, e :: events =>
      publishes id since t e ||
        republished id (since ++ t.service.begun e) (machine.step t e).1 events

/-- Why a diagnostic that is not there is refused. -/
def absent (index : Int) : ServiceError :=
  if index < 0 then .negativeDiagnostic index else .noDiagnostic index

/-! ## A document without diagnostics -/

/-- The document open under a name, if there is one, has no diagnostics. -/
def Silent (id : Text) (s : Service) : Prop :=
  ∀ d, s.find id = .ok d → d.session.diagnostics = []

section Silent
variable {id : Text} {s : Service}

theorem Silent.put (h : Silent id s) {id' : Text} {d : OpenDocument}
    (hd : id' = id → d.session.diagnostics = []) : Silent id (s.put id' d) := by
  intro d' hd'
  by_cases hid : id' = id
  · subst hid
    rw [find_put] at hd'
    rw [← Except.ok.inj hd']
    exact hd rfl
  · rw [find_eq_ok_iff, find?_put, if_neg hid, ← find_eq_ok_iff] at hd'
    exact h d' hd'

/-- A document that is put back with the diagnostics that it had. -/
theorem Silent.put_of_find (h : Silent id s) {id' : Text} {d d' : OpenDocument}
    (hf : s.find id' = .ok d) (hd : d'.session.diagnostics = d.session.diagnostics) :
    Silent id (s.put id' d') :=
  h.put fun hid => hd.trans (h d (hid ▸ hf))

theorem Silent.close (h : Silent id s) (hs : s.Sound) (id' : Text) : Silent id (s.close id') := by
  intro d hd
  by_cases hid : id' = id
  · subst hid
    rw [Move.find_closed hs] at hd
    cases hd
  · have hmove : Move [] s id' (s.close id') true := .closed
    rw [hmove.find_of_ne hid] at hd
    exact h d hd

theorem Silent.fixesFor (h : Silent id s) (id' : Text) (index : Int) :
    Silent id (s.fixesFor id' index).1 := by
  cases hf : s.find id' with
  | error e => rwa [fixesFor_of_find_error hf]
  | ok d =>
    rcases fixesFor_cases hf index with ⟨e, he⟩ | ⟨fixes, -, he⟩ | ⟨diagnostic, -, he⟩
    · rwa [he]
    · rwa [he]
    · rw [he]
      exact h.put_of_find hf rfl

/-- The end of a pass leaves a document silent if its report is not taken, or has no
diagnostics. -/
theorem Silent.finishPass (h : Silent id s) {pass : Pass} {report : Report}
    (htakes : pass.id = id → s.takes pass report = false) :
    Silent id (s.finishPass pass report).1 := by
  rcases finishPass_cases s pass report with ⟨d, hf, ho, he⟩ | ⟨-, he⟩
  · rw [he]
    refine h.put fun hid => ?_
    rw [OpenDocument.conclude_diagnostics]
    split_ifs with hg
    · simpa [takes, hf, ho, Session.accepts_iff.mpr hg] using htakes hid
    · exact h d (hid ▸ hf)
  · rwa [he]

/-- A validation that calls no validator. -/
theorem Silent.validate {t : Traffic Service} (h : Silent id t.service) {since : List Pass}
    {id' : Text} {output : Option Text} (hlaunch : t.service.launch (.validate id' output) = none)
    (hno : publishes id since t (.ask (.validate id' output)) = false) :
    Silent id (t.service.validate Host.idle () id' output).1.2 := by
  unfold Service.validate
  cases hf : t.service.find id' with
  | error e => rwa [startPass_of_find_error hf]
  | ok d =>
    rcases startPass_cases hf output with ⟨text, -, he⟩ | ⟨path, rfl, -, he⟩ | ⟨-, he⟩ | he
    · have hstarted : Silent id (t.service.put id' d.start) := h.put_of_find hf rfl
      rw [he]
      refine hstarted.finishPass fun hid => ?_
      obtain rfl : id' = id := hid
      simpa [publishes, he] using hno
    · cases (launch_validate he).symm.trans hlaunch
    · rw [he]
      exact h.put fun _ => rfl
    · rwa [he]

/-- **An event that publishes nothing leaves a document silent.** -/
theorem Silent.answer {t : Traffic Service} (h : Silent id t.service) (hs : t.service.Sound)
    {since : List Pass} {request : Request} (hlaunch : t.service.launch request = none)
    (hno : publishes id since t (.ask request) = false) :
    Silent id (machine.answer t.service request).1 := by
  cases request with
  | openDocument id' text path =>
    have hput : Silent id (t.service.put id' (.opened (Document.ofText text path)
        t.service.openings)) := h.put fun _ => rfl
    exact hput
  | update id' text =>
    simp only [machine, handle, update]
    cases hf : t.service.find id' with
    | error e => exact h
    | ok d => exact h.put_of_find hf rfl
  | close id' => exact h.close hs id'
  | validate id' output => exact h.validate hlaunch hno
  | fixes id' index => exact h.fixesFor id' index
  | applyFix id' index fixIndex =>
    simp only [machine, handle]
    rcases applyFix_cases t.service id' index fixIndex with ⟨e, he⟩ | ⟨d, fix, applied, hf, he⟩
    · rw [he]
      exact h.fixesFor id' index
    · rw [he]
      exact h.put fun _ => rfl
  | _ => exact h

/-- A silent document has no fixes kept. -/
theorem fixes_eq_nil {d : OpenDocument} (hd : d.session.diagnostics = []) (hc : d.Coherent) :
    d.fixes = [] := by
  refine List.eq_nil_iff_forall_not_mem.mpr fun entry hentry => ?_
  obtain ⟨diagnostic, hget, -⟩ := hc entry hentry
  rw [hd] at hget
  cases hget

/-- **A silent document is refused fixes**, whatever their number. -/
theorem Silent.fixesFor_eq (h : Silent id s) {d : OpenDocument} (hf : s.find id = .ok d)
    (hc : d.Coherent) (index : Int) : s.fixesFor id index = (s, .error (absent index)) := by
  have hds := h d hf
  simp only [Service.fixesFor, hf, hds, fixes_eq_nil hds hc, Entries.find?_nil, List.getElem?_nil]
  unfold absent
  split_ifs <;> rfl

theorem Silent.applyFix_eq (h : Silent id s) {d : OpenDocument} (hf : s.find id = .ok d)
    (hc : d.Coherent) (index fixIndex : Int) :
    s.applyFix id index fixIndex = (s, .error (absent index)) := by
  simp only [applyFix, h.fixesFor_eq hf hc index]

end Silent

/-! ## Passes under way -/

/-- The passes that an event leaves running were running, or begin with it. -/
theorem running_step (t : Traffic Service) (e : Event) :
    (machine.step t e).1.running ⊆ t.running ++ t.service.begun e := by
  cases e with
  | ask request =>
    cases hlaunch : t.service.launch request with
    | some started =>
      rw [Machine.step_ask_of_launch (m := machine) hlaunch]
      simp [begun, hlaunch]
    | none =>
      rw [Machine.step_ask_of_not_launch (m := machine) hlaunch]
      exact List.subset_append_left _ _
  | report pass report =>
    by_cases hrun : pass ∈ t.running
    · rw [Machine.step_report_of_mem (m := machine) hrun]
      exact List.Subset.trans List.erase_subset (List.subset_append_left _ _)
    · rw [Machine.step_report_of_not_mem (m := machine) hrun]
      exact List.subset_append_left _ _

/-- What the call of a validator does to a service, and which pass it begins. -/
theorem launch_cases {s started : Service} {request : Request} {pass : Pass} {path : Text}
    (h : s.launch request = some (started, pass, path)) :
    ∃ d, s.find pass.id = .ok d ∧ d.hasFile = true ∧ started = s.put pass.id d.start ∧
      pass.opening = d.opening ∧ pass.generation = d.session.generation + 1 := by
  obtain ⟨id, rfl, hstart⟩ := launch_eq_some_iff.mp h
  cases hf : s.find id with
  | error e => cases (startPass_of_find_error hf none).symm.trans hstart
  | ok d =>
    rcases startPass_cases hf none with ⟨_, hnone, -⟩ | ⟨path', -, hfile, he⟩ | ⟨-, he⟩ | he
    · cases hnone
    · obtain ⟨rfl, hpass⟩ := Prod.mk.inj (he.symm.trans hstart)
      obtain ⟨rfl, rfl⟩ := PassStart.running.inj (Except.ok.inj hpass)
      exact ⟨d, hf, hfile, rfl, rfl, rfl⟩
    · cases he.symm.trans hstart
    · cases he.symm.trans hstart

/-- A pass that begins is awaited. -/
theorem awaited_of_begun {t : Traffic Service} {e : Event} {pass : Pass}
    (h : pass ∈ t.service.begun e) : Awaited pass (machine.step t e).1.service := by
  cases e with
  | ask request =>
    obtain ⟨⟨started, pass', path⟩, hlaunch, rfl⟩ :=
      Option.map_eq_some_iff.mp (Option.mem_toList.mp h)
    rw [Machine.step_ask_of_launch (m := machine) hlaunch]
    obtain ⟨d, -, hfile, rfl, hopening, hgeneration⟩ := launch_cases hlaunch
    exact ⟨d.start, find_put _ _ _, hopening.symm, hgeneration.symm, hfile⟩
  | report pass report => cases h

theorem outdated_step {t : Traffic Service} {pass : Pass} (hs : t.service.Sound)
    (ho : Outdated pass t.service) (e : Event) : Outdated pass (machine.step t e).1.service := by
  obtain ⟨_, _, -, hmove⟩ := moves_step t e
  exact ho.move hmove hs

/-- What is awaited or outdated remains so. -/
theorem awaited_or_outdated_step {t : Traffic Service} {pass : Pass} (hs : t.service.Sound)
    (h : Awaited pass t.service ∨ Outdated pass t.service) (e : Event) :
    Awaited pass (machine.step t e).1.service ∨ Outdated pass (machine.step t e).1.service := by
  rcases h with ha | ho
  · cases hd : t.service.disturbs pass.id e with
    | false => exact Or.inl (awaited_step hd ha)
    | true => exact Or.inr (outdated_step_of_disturbs hd hs ha)
  · exact Or.inr (outdated_step hs ho e)

/-- **A pass that is under way is awaited or outdated.** -/
theorem Reachable.awaited_or_outdated {t : Traffic Service} (ht : Reachable t) {pass : Pass}
    (hrun : pass ∈ t.running) : Awaited pass t.service ∨ Outdated pass t.service := by
  obtain ⟨settings, owns, events, rfl⟩ := ht
  refine (Machine.run_induction (P := fun t : Traffic Service => t.service.Sound ∧
    ∀ pass ∈ t.running, Awaited pass t.service ∨ Outdated pass t.service)
    (fun t e h => ⟨sound_step t e h.1, fun pass hpass => ?_⟩) events
    ⟨sound_initial settings owns, fun pass h => (by cases h)⟩).2 pass hrun
  rcases List.mem_append.mp (running_step t e hpass) with hold | hnew
  · exact awaited_or_outdated_step h.1 (h.2 pass hold) e
  · exact Or.inl (awaited_of_begun hnew)

/-- The report of an outdated pass is not taken. -/
theorem Outdated.takes_eq {s : Service} {pass : Pass} (h : Outdated pass s) (report : Report) :
    s.takes pass report = false := by
  unfold takes
  cases hf : s.find pass.id with
  | error e => rfl
  | ok d =>
    by_cases ho : d.opening = pass.opening
    · have hlt := h.2 d hf ho
      have haccepts : d.session.accepts pass.generation = false :=
        Bool.eq_false_iff.mpr (mt Session.accepts_iff.mp (Nat.ne_of_gt hlt))
      simp [haccepts]
    · simp [ho]

/-! ## After a fix -/

/-- The fixes for a document are used up: it has no diagnostics, and of the passes that are
under way on it only those that have begun since then may still be taken. -/
structure Spent (id : Text) (since : List Pass) (t : Traffic Service) : Prop where
  sound : t.service.Sound
  silent : Silent id t.service
  outdated : ∀ pass ∈ t.running, pass.id = id → pass ∈ since ∨ Outdated pass t.service

/-- **Fixes remain used up at an event that publishes nothing new.** -/
theorem Spent.step {id : Text} {since : List Pass} {t : Traffic Service} (h : Spent id since t)
    {e : Event} (hno : publishes id since t e = false) :
    Spent id (since ++ t.service.begun e) (machine.step t e).1 where
  sound := sound_step t e h.sound
  silent := by
    cases e with
    | ask request =>
      cases hlaunch : t.service.launch request with
      | some started =>
        obtain ⟨started, pass, path⟩ := started
        obtain ⟨d, hf, -, rfl, -, -⟩ := launch_cases hlaunch
        rw [Machine.step_ask_of_launch (m := machine) hlaunch]
        exact h.silent.put_of_find hf rfl
      | none =>
        rw [Machine.step_ask_of_not_launch (m := machine) hlaunch]
        exact h.silent.answer h.sound hlaunch hno
    | report pass report =>
      by_cases hrun : pass ∈ t.running
      · rw [Machine.step_report_of_mem (m := machine) hrun]
        refine h.silent.finishPass fun hid => ?_
        rcases h.outdated pass hrun hid with hsince | hout
        · simpa [publishes, hrun, hsince, hid] using hno
        · exact hout.takes_eq report
      · rw [Machine.step_report_of_not_mem (m := machine) hrun]
        exact h.silent
  outdated pass hpass hid := by
    rcases List.mem_append.mp (running_step t e hpass) with hold | hnew
    · rcases h.outdated pass hold hid with hsince | hout
      · exact Or.inl (List.mem_append_left _ hsince)
      · exact Or.inr (outdated_step h.sound hout e)
    · exact Or.inl (List.mem_append_right _ hnew)

theorem Spent.run {id : Text} {since : List Pass} {t : Traffic Service} (h : Spent id since t)
    {events : List Event} (hno : republished id since t events = false) :
    ∃ since', Spent id since' (machine.run t events) := by
  induction events generalizing since t with
  | nil => exact ⟨since, h⟩
  | cons e events ih =>
    rw [republished, Bool.or_eq_false_iff] at hno
    exact ih (h.step hno.1) hno.2

/-- A fix that is applied uses up the fixes. -/
theorem spent_of_applyFix {t : Traffic Service} (ht : Reachable t) {id : Text} {i j : Int}
    {answer : Answer}
    (hfix : (machine.step t (.ask (.applyFix id i j))).2 = .answered (.ok answer)) :
    Spent id [] (machine.step t (.ask (.applyFix id i j))).1 := by
  rcases applyFix_cases t.service id i j with ⟨e, he⟩ | ⟨d, fix, applied, hf, he⟩
  · rw [step_applyFix, he] at hfix
    cases hfix
  · have hdisturbs : t.service.disturbs id (.ask (.applyFix id i j)) = true := by
      simp [disturbs, he, Except.isOk, Except.toBool]
    refine ⟨sound_step t _ ht.sound, ?_, fun pass hpass hid => Or.inr ?_⟩
    · rw [step_applyFix, he]
      intro d' hd'
      rw [find_put] at hd'
      rw [← Except.ok.inj hd']
      rfl
    · subst hid
      rcases ht.awaited_or_outdated hpass with ha | ho
      · exact outdated_step_of_disturbs hdisturbs ht.sound ha
      · exact outdated_step ht.sound ho _

/-- **No fix is applied twice for one validation.**  From the application of a fix on, the
passes that were under way on the document are outdated; and until a pass that begins later
publishes diagnostics for it, every request for its fixes is refused, and so is every
request to apply one. -/
theorem fix_applied_once {t : Traffic Service} (ht : Reachable t) {id : Text} {i j : Int}
    {answer : Answer}
    (hfix : (machine.step t (.ask (.applyFix id i j))).2 = .answered (.ok answer))
    (events : List Event) :
    let fixed := (machine.step t (.ask (.applyFix id i j))).1
    let now := machine.run fixed events
    (∀ pass ∈ t.running, pass.id = id → Outdated pass now.service) ∧
      (republished id [] fixed events = false → ∀ d, now.service.find id = .ok d → ∀ i,
        (machine.step now (.ask (.fixes id i))).2 = .answered (.error (absent i)) ∧
          ∀ j, (machine.step now (.ask (.applyFix id i j))).2 = .answered (.error (absent i))) := by
  intro fixed now
  have hspent : Spent id [] fixed := spent_of_applyFix ht hfix
  refine ⟨fun pass hpass hid => ?_, fun hno d hd i => ?_⟩
  · rcases hspent.outdated pass hpass hid with hnone | hout
    · cases hnone
    · exact outdated_run events hspent.sound hout
  · obtain ⟨since, hnow⟩ := hspent.run hno
    have hcoherent := ((ht.run [_]).run events).lasting lasting_coherent hd
    refine ⟨?_, fun j => ?_⟩
    · rw [step_fixes, hnow.silent.fixesFor_eq hd hcoherent]
      rfl
    · rw [step_applyFix, hnow.silent.applyFix_eq hd hcoherent]
      rfl

/-- The report of a pass that was under way when a fix was applied does not bring the fix
back, and neither does an edit. -/
theorem fix_applied_once_stale :
    let id := Text.ofString "a"
    let output := some (Text.ofString "error: missing colon")
    let pass : Pass := ⟨id, 0, 1⟩
    let t := machine.run (idleTraffic {} false)
      [.ask (.openDocument id (Text.ofString "a b") (some (Text.ofString "a.lumos"))),
        .ask (.validate id none), .ask (.validate id output)]
    let fixed := (machine.step t (.ask (.applyFix id 0 0))).1
    let events := [Event.report pass (.ok output), .ask (.update id (Text.ofString "a b"))]
    Reachable t ∧ pass ∈ t.running ∧
      (∃ answer, (machine.step t (.ask (.applyFix id 0 0))).2 = .answered (.ok answer)) ∧
        republished id [] fixed events = false ∧
          (machine.step (machine.run fixed events) (.ask (.applyFix id 0 0))).2 =
            .answered (.error (.noDiagnostic 0)) := by
  intro id output pass t fixed events
  have ht : Reachable t := ⟨_, _, _, rfl⟩
  have hrun : pass ∈ t.running := by decide
  have hno : republished id [] fixed events = false := by decide
  have hfix : (t.service.applyFix id 0 0).2.isOk = true := by decide
  have hopen : ((machine.run fixed events).service.find id).isOk = true := by decide
  obtain ⟨applied, happlied⟩ := exists_of_isOk hfix
  obtain ⟨d, hd⟩ := exists_of_isOk hopen
  have hanswer : (machine.step t (.ask (.applyFix id 0 0))).2 =
      .answered (.ok (.applied applied)) := by
    rw [step_applyFix, happlied]
    rfl
  exact ⟨ht, hrun, ⟨_, hanswer⟩, hno, ((fix_applied_once ht hanswer events).2 hno d hd 0).2 0⟩

end SchemaEditor.Service
