import SchemaEditor.Proofs.Service.Move

/-!
# Overlapping passes

While the validator of a pass runs, anything may happen to the service, further passes
on the same document included.  When the validator reports, its report becomes what is
visible of the document exactly if nothing has disturbed the document in the meantime:
no other pass was started on it, no fix was applied to it, and it was neither closed nor
opened anew.  Otherwise what is visible stays as the meantime has left it, and a
document that is not open is not brought back (`validate_overlapping`).

A pass whose document is undisturbed is still awaited (`Awaited`): the document is open
by the same opening and its session has given out no later number.  Once the document
has been disturbed the pass is outdated (`Outdated`), and then it remains so whatever
happens, for openings are counted and the numbers of a session only grow.
-/

namespace SchemaEditor.Service

/-- None of the events disturbs the document open under a name. -/
def undisturbed (id : Text) : Traffic Service → List Event → Bool
  | _, [] => true
  | t, e :: events => !t.service.disturbs id e && undisturbed id (machine.step t e).1 events

/-- A service in which the report of a pass will be taken. -/
def Awaited (pass : Pass) (s : Service) : Prop :=
  ∃ d, s.find pass.id = .ok d ∧ d.opening = pass.opening ∧
    d.session.generation = pass.generation ∧ d.hasFile = true

/-- A service in which the report of a pass will never be taken. -/
def Outdated (pass : Pass) (s : Service) : Prop :=
  pass.opening < s.openings ∧ ∀ d, s.find pass.id = .ok d → d.opening = pass.opening →
    pass.generation < d.session.generation

section Steps
variable {pass : Pass} {running : List Pass} {s s' : Service}

theorem awaited_of_move (h : Move running s pass.id s' false) (ha : Awaited pass s) :
    Awaited pass s' := by
  obtain ⟨d, hd, ho, hg, hfile⟩ := ha
  cases h with
  | same => exact ⟨d, hd, ho, hg, hfile⟩
  | configured settings => exact ⟨d, hd, ho, hg, hfile⟩
  | @changed d₀ d' _ hfound hchange =>
    obtain rfl : d₀ = d := Except.ok.inj (hfound.symm.trans hd)
    refine ⟨d', find_put s pass.id d', ?_, ?_, ?_⟩
    · rw [hchange.opening_eq, ho]
    · rw [hchange.generation_eq hfile, hg]
    · rw [OpenDocument.hasFile, hchange.path_eq]
      exact hfile

theorem outdated_of_move (h : Move running s pass.id s' true) (hs : s.Sound)
    (ha : Awaited pass s) : Outdated pass s' := by
  obtain ⟨d, hd, ho, hg, -⟩ := ha
  have hlt : pass.opening < s.openings := ho ▸ hs.opening pass.id d hd
  refine ⟨Nat.lt_of_lt_of_le hlt h.openings_le, fun d' hd' ho' => ?_⟩
  cases h with
  | opened text path =>
    -- the new document was opened by a later opening
    rw [Move.find_opened] at hd'
    rw [← Except.ok.inj hd'] at ho'
    exact absurd ho' (Nat.ne_of_gt hlt)
  | closed =>
    rw [Move.find_closed hs] at hd'
    cases hd'
  | @changed d₀ d₁ _ hfound hchange =>
    obtain rfl : d₀ = d := Except.ok.inj (hfound.symm.trans hd)
    rw [find_put] at hd'
    rw [← Except.ok.inj hd', ← hg]
    exact hchange.generation_lt

/-- **An outdated pass remains outdated.** -/
theorem Outdated.move {id : Text} {b : Bool} (h : Move running s id s' b) (hs : s.Sound)
    (ho : Outdated pass s) : Outdated pass s' := by
  refine ⟨Nat.lt_of_lt_of_le ho.1 h.openings_le, fun d' hd' hopen => ?_⟩
  rcases h.origin hs hd' with hold | ⟨text, path, rfl, -⟩ | ⟨d, hfound, hchange⟩
  · exact ho.2 d' hold hopen
  · -- its opening is counted after the one of the pass
    exact absurd hopen (Nat.ne_of_gt ho.1)
  · rw [hchange.opening_eq] at hopen
    exact Nat.lt_of_lt_of_le (ho.2 d hfound hopen) hchange.generation_le

end Steps

section Runs
variable {pass : Pass} {t : Traffic Service}

theorem awaited_step {e : Event} (h : t.service.disturbs pass.id e = false)
    (ha : Awaited pass t.service) : Awaited pass (machine.step t e).1.service := by
  obtain ⟨id, b, hb, hmove⟩ := moves_step t e
  by_cases hid : id = pass.id
  · have hfalse : b = false := by simpa [hid, h] using (hb pass.id).symm
    subst hid hfalse
    exact awaited_of_move hmove ha
  · rwa [Awaited, hmove.find_of_ne hid]

theorem outdated_step_of_disturbs {e : Event} (h : t.service.disturbs pass.id e = true)
    (hs : t.service.Sound) (ha : Awaited pass t.service) :
    Outdated pass (machine.step t e).1.service := by
  obtain ⟨id, b, hb, hmove⟩ := moves_step t e
  have hboth : id = pass.id ∧ b = true := by simpa [h] using (hb pass.id).symm
  obtain ⟨rfl, rfl⟩ := hboth
  exact outdated_of_move hmove hs ha

theorem outdated_run (events : List Event) (hs : t.service.Sound) (ho : Outdated pass t.service) :
    Outdated pass (machine.run t events).service := by
  refine (Machine.run_induction (P := fun t : Traffic Service =>
    t.service.Sound ∧ Outdated pass t.service) (fun t e h => ?_) events ⟨hs, ho⟩).2
  obtain ⟨_, _, -, hmove⟩ := moves_step t e
  exact ⟨sound_step t e h.1, h.2.move hmove h.1⟩

/-- **A pass is awaited until its document is disturbed**, and outdated from then on. -/
theorem awaited_run (events : List Event) (hs : t.service.Sound) (ha : Awaited pass t.service) :
    (undisturbed pass.id t events = true → Awaited pass (machine.run t events).service) ∧
      (undisturbed pass.id t events = false → Outdated pass (machine.run t events).service) := by
  induction events generalizing t with
  | nil => exact ⟨fun _ => ha, fun h => (by cases h)⟩
  | cons e events ih =>
    rw [undisturbed, Machine.run_cons]
    cases h : t.service.disturbs pass.id e with
    | false => exact ih (sound_step t e hs) (awaited_step h ha)
    | true =>
      -- from here on nothing can make the pass awaited again
      refine ⟨fun hu => (by cases hu), fun _ => ?_⟩
      exact outdated_run events (sound_step t e hs) (outdated_step_of_disturbs h hs ha)

end Runs

/-! ## The report -/

section Finish
variable {s : Service} {pass : Pass} (report : Report)

/-- The report of an awaited pass is what is visible from then on. -/
theorem Awaited.finishPass (h : Awaited pass s) :
    ∃ d, s.find pass.id = .ok d ∧ (s.finishPass pass report).1.diagnosticsOf pass.id =
      .ok (report.diagnostics d.document.lines) := by
  obtain ⟨d, hd, ho, hg, -⟩ := h
  rcases finishPass_cases s pass report with ⟨d', hd', -, he⟩ | ⟨hne, -⟩
  · obtain rfl : d' = d := Except.ok.inj (hd'.symm.trans hd)
    refine ⟨d', hd, ?_⟩
    rw [he, diagnosticsOf, find_put, Except.map, OpenDocument.conclude_diagnostics, if_pos hg]
  · exact absurd ho (hne d hd)

/-- The report of an outdated pass changes nothing that is visible. -/
theorem Outdated.finishPass (h : Outdated pass s) :
    (s.finishPass pass report).1.diagnosticsOf pass.id = s.diagnosticsOf pass.id := by
  rcases finishPass_cases s pass report with ⟨d, hd, ho, he⟩ | ⟨-, he⟩
  · rw [he, diagnosticsOf, diagnosticsOf, find_put, hd, Except.map, Except.map,
      OpenDocument.conclude_diagnostics, if_neg (Nat.ne_of_gt (h.2 d hd ho))]
  · rw [he]

/-- A report on a document that is not open changes nothing. -/
theorem finishPass_of_find_error {e : ServiceError} (h : s.find pass.id = .error e) :
    s.finishPass pass report = (s, .error (.unknownDocument pass.id)) := by
  obtain ⟨rfl, -⟩ := find_eq_error_iff.mp h
  simp only [finishPass, h, diagnosticsOf, Except.map]

end Finish

/-- What a pass comes to: `back` is the service when its validator reports, and `final`
the service once it has answered. -/
structure Concluded (id : Text) (report : Report) (undisturbed : Bool) (back final : Service)
    (answer : Result (List Diagnostic)) : Prop where
  /-- The report is about the lines the document has now, and becomes what is visible. -/
  published : undisturbed = true → ∃ d, back.find id = .ok d ∧
    final.diagnosticsOf id = .ok (report.diagnostics d.document.lines)
  /-- What is visible is what was visible when the validator reported. -/
  dropped : undisturbed = false → final.diagnosticsOf id = back.diagnosticsOf id
  /-- The answer is what is visible. -/
  answered : answer = final.diagnosticsOf id
  /-- A document that is not open is an error, and is not brought back. -/
  absent : ∀ e, back.find id = .error e →
    answer = .error (.unknownDocument id) ∧ final = back

/-- **Overlapping passes never overwrite what is newer.**  Whatever the host has the
service do while the validator of a pass runs, the report is taken if the document was
not disturbed, and else what is visible stays as it is. -/
theorem validate_overlapping {σ : Type} (host : Host σ) (env : σ) {t : Traffic Service}
    (ht : Reachable t) {id : Text} {started : Service} {pass : Pass} {path : Text}
    (hstart : t.service.startPass id none = (started, .ok (.running pass path)))
    {meanwhile : List Event}
    (hmeanwhile : (started.runValidator host env path).2.2 =
      (machine.run ⟨started, t.running⟩ meanwhile).service) :
    Concluded id (started.runValidator host env path).1
      (undisturbed id ⟨started, t.running⟩ meanwhile)
      (machine.run ⟨started, t.running⟩ meanwhile).service
      (t.service.validate host env id none).1.2 (t.service.validate host env id none).2 := by
  cases hf : t.service.find id with
  | error e => cases (startPass_of_find_error hf none).symm.trans hstart
  | ok d =>
    rcases startPass_cases hf none with ⟨_, hnone, -⟩ | ⟨path', -, hfile, he⟩ | ⟨-, he⟩ | he
    · cases hnone
    · obtain ⟨rfl, hpass⟩ := Prod.mk.inj (he.symm.trans hstart)
      obtain ⟨rfl, rfl⟩ := PassStart.running.inj (Except.ok.inj hpass)
      have hawaited : Awaited ⟨id, d.opening, d.session.generation + 1⟩
          (t.service.put id d.start) := ⟨d.start, find_put _ _ _, rfl, rfl, hfile⟩
      have hmove : Move [] t.service id (t.service.put id d.start) true := .changed hf .started
      obtain ⟨hyes, hno⟩ := awaited_run (t := ⟨t.service.put id d.start, t.running⟩) meanwhile
        (hmove.sound ht.sound) hawaited
      -- the call ends with the report, in the service that the meantime has left
      rw [validate_of_running host env he, hmeanwhile]
      exact ⟨fun hu => (hyes hu).finishPass _, fun hu => (hno hu).finishPass _, rfl,
        fun e he => by rw [finishPass_of_find_error _ he]; exact ⟨rfl, rfl⟩⟩
    · cases he.symm.trans hstart
    · cases he.symm.trans hstart

/-- The report of a pass is dropped when another one, whose output is there already, goes
all its way in the meantime. -/
theorem validate_overlapping_dropped :
    let id := Text.ofString "a"
    let opened := machine.run (idleTraffic {} false)
      [.ask (.openDocument id [] (some (Text.ofString "a.lumos")))]
    let meanwhile := [Event.ask (.validate id (some (Text.ofString "error")))]
    let host := busyHost [] meanwhile (.ok none) .notFound
    let started := (opened.service.startPass id none).1
    Reachable opened ∧
      (∃ pass path, opened.service.startPass id none = (started, .ok (.running pass path))) ∧
      undisturbed id ⟨started, []⟩ meanwhile = false ∧
      Concluded id (.ok none) false (machine.run ⟨started, []⟩ meanwhile).service
        (opened.service.validate host () id none).1.2
        (opened.service.validate host () id none).2 := by
  intro id opened meanwhile host started
  have hopened : Reachable opened := ⟨_, _, _, rfl⟩
  have hmeanwhile := runValidator_busyHost started [] meanwhile (.ok none) .notFound
    (Text.ofString "a.lumos")
  exact ⟨hopened, ⟨_, _, rfl⟩, rfl, validate_overlapping host () hopened rfl hmeanwhile⟩

end SchemaEditor.Service
