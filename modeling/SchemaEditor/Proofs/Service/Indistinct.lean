import SchemaEditor.Proofs.Service.KeptFixes

/-!
# Services that cannot be told apart

Two services that differ in the fixes that they keep, and in nothing else, give the same answers
for ever (`Indistinct.replies`).  Their documents, settings and numbers are those of one plain
service, and what each of them keeps is coherent, so at every event both do what the plain
service does, and are of the same kind again (`Indistinct.step`).

The same holds of whole calls (`Indistinct.handle`), if the world outside knows the services by
their answers alone.  A `Script` is such a world: it puts the service through some events while a
validator runs, and says what comes back then.
-/

namespace SchemaEditor
namespace Service

/-! ## Consistent services -/

/-- Openings are counted and the fixes that are kept are coherent. -/
structure Consistent (s : Service) : Prop where
  sound : s.Sound
  coherent : ∀ id d, s.find id = .ok d → d.Coherent

/-- **Whatever a service does keeps it consistent.** -/
theorem Consistent.move {running : List Pass} {s s' : Service} {id : Text} {b : Bool}
    (hs : s.Consistent) (h : Move running s id s' b) : s'.Consistent := by
  refine ⟨h.sound hs.sound, fun id' d' hd' => ?_⟩
  rcases h.origin hs.sound hd' with hold | ⟨text, path, rfl, -⟩ | ⟨d, hfound, hchange⟩
  · exact hs.coherent id' d' hold
  · exact lasting_coherent.opened _ _
  · exact lasting_coherent.change hchange (hs.coherent id' d hfound)

theorem Consistent.step {t : Traffic Service} (h : t.service.Consistent) (e : Event) :
    (machine.step t e).1.service.Consistent := by
  obtain ⟨_, _, -, hmove⟩ := moves_step t e
  exact h.move hmove

theorem Consistent.launch {s started : Service} {request : Request} {pass : Pass} {path : Text}
    (h : s.Consistent) (hlaunch : s.launch request = some (started, pass, path)) :
    started.Consistent := by
  obtain ⟨_, _, hmove⟩ := exists_move_of_launch hlaunch
  exact h.move hmove

theorem Consistent.finishPass {s : Service} (h : s.Consistent) (pass : Pass) (report : Report) :
    (s.finishPass pass report).1.Consistent := by
  obtain ⟨_, _, hmove⟩ := exists_move_finishPass s pass report
  exact h.move hmove

theorem Reachable.consistent {t : Traffic Service} (h : Reachable t) : t.service.Consistent :=
  ⟨h.sound, fun _ _ hd => h.lasting lasting_coherent hd⟩

/-! ## The relation -/

/-- The services of two traffics differ at most in the fixes that they keep, and keep those that
they would propose; the same validators are running. -/
structure Indistinct (t t' : Traffic Service) : Prop where
  plain : t'.map plain = t.map plain
  left : t.service.Consistent
  right : t'.service.Consistent

namespace Indistinct
variable {t t' : Traffic Service}

theorem running_eq (h : Indistinct t t') : t'.running = t.running :=
  congrArg (fun t : Traffic PlainService => t.running) h.plain

theorem service_plain (h : Indistinct t t') : t'.service.plain = t.service.plain :=
  congrArg (fun t : Traffic PlainService => t.service) h.plain

theorem settings_eq (h : Indistinct t t') : t'.service.settings = t.service.settings :=
  congrArg PlainService.settings h.service_plain

theorem runner_eq (h : Indistinct t t') : t'.service.runner = t.service.runner :=
  congrArg PlainService.runner h.service_plain

theorem services (h : Indistinct t t') : Indistinct t ⟨t'.service, t.running⟩ := by
  rw [← h.running_eq]
  exact h

/-- **At every event both say the same**, and still cannot be told apart. -/
theorem step (h : Indistinct t t') (e : Event) :
    (machine.step t' e).2 = (machine.step t e).2 ∧
      Indistinct (machine.step t e).1 (machine.step t' e).1 := by
  -- both follow the plain service
  have hleft := step_plain_of_coherent h.left.coherent e
  have hright := step_plain_of_coherent h.right.coherent e
  rw [h.plain, hleft] at hright
  obtain ⟨htraffic, hreply⟩ := Prod.mk.inj hright
  exact ⟨hreply.symm, htraffic.symm, h.left.step e, h.right.step e⟩

theorem run (h : Indistinct t t') (events : List Event) :
    Indistinct (machine.run t events) (machine.run t' events) := by
  induction events generalizing t t' with
  | nil => exact h
  | cons e events ih => exact ih (h.step e).2

/-- **Both say the same for ever**, whatever is asked and reported. -/
theorem replies (h : Indistinct t t') (events : List Event) :
    machine.replies t' events = machine.replies t events := by
  induction events generalizing t t' with
  | nil => rfl
  | cons e events ih =>
    obtain ⟨hreply, hnext⟩ := h.step e
    rw [Machine.replies, Machine.replies, hreply, ih hnext]

end Indistinct

/-! ## Whole calls -/

/-- A world that knows a service by its answers alone: when a validator is called it puts the
service through some events, and then says what comes back. -/
structure Script (σ : Type) where
  validate : Text → σ → List Event × Report × σ
  spawn : ProcessCall → σ → List Event × Outcome × σ

/-- The host that follows a script; the passes that are running are part of its state. -/
def Script.host {σ : Type} (script : Script σ) : Host (σ × List Pass) where
  validate path world :=
    let (events, report, env) := script.validate path world.1.1
    let t := machine.run ⟨world.2, world.1.2⟩ events
    (report, (env, t.running), t.service)
  spawn call world :=
    let (events, outcome, env) := script.spawn call world.1.1
    let t := machine.run ⟨world.2, world.1.2⟩ events
    (outcome, (env, t.running), t.service)

/-- Two worlds with services that cannot be told apart. -/
structure Matched {σ : Type} (world world' : (σ × List Pass) × Service) : Prop where
  outside : world'.1 = world.1
  inside : Indistinct ⟨world.2, world.1.2⟩ ⟨world'.2, world.1.2⟩

namespace Indistinct
variable {s s' : Service} {running : List Pass}

/-- Both call a validator for the same requests, on the same path and by the same pass. -/
theorem launch (h : Indistinct ⟨s, running⟩ ⟨s', running⟩) (request : Request) :
    (s.launch request = none ∧ s'.launch request = none) ∨
      ∃ started started' pass path, s.launch request = some (started, pass, path) ∧
        s'.launch request = some (started', pass, path) ∧
          Indistinct ⟨started, running⟩ ⟨started', running⟩ := by
  have hplain : s'.plain = s.plain := h.service_plain
  have hboth := launch_plain s' request
  rw [hplain, launch_plain s request] at hboth
  cases hl : s.launch request with
  | none =>
    rw [hl] at hboth
    exact Or.inl ⟨rfl, Option.map_eq_none_iff.mp hboth.symm⟩
  | some launched =>
    obtain ⟨started, pass, path⟩ := launched
    rw [hl] at hboth
    obtain ⟨⟨started', pass', path'⟩, hl', heq⟩ := Option.map_eq_some_iff.mp hboth.symm
    obtain ⟨hstarted, rfl, rfl⟩ : started'.plain = started.plain ∧ pass' = pass ∧ path' = path := by
      simpa using heq
    refine Or.inr ⟨started, started', _, _, rfl, hl', ?_, ?_, ?_⟩
    · rw [Traffic.map, Traffic.map, hstarted]
    · exact Consistent.launch (s := s) h.left hl
    · exact Consistent.launch (s := s') h.right hl'

/-- Both answer a request that calls no validator alike. -/
theorem answer (h : Indistinct ⟨s, running⟩ ⟨s', running⟩) {request : Request}
    (hlaunch : s.launch request = none) (hlaunch' : s'.launch request = none) :
    (machine.answer s' request).2 = (machine.answer s request).2 ∧
      Indistinct ⟨(machine.answer s request).1, running⟩
        ⟨(machine.answer s' request).1, running⟩ := by
  have hstep := h.step (.ask request)
  rw [Machine.step_ask_of_not_launch (m := machine) (t := ⟨s, running⟩) hlaunch,
    Machine.step_ask_of_not_launch (m := machine) (t := ⟨s', running⟩) hlaunch'] at hstep
  exact ⟨Reply.answered.inj hstep.1, hstep.2⟩

/-- Both take a report alike. -/
theorem finishPass (h : Indistinct ⟨s, running⟩ ⟨s', running⟩) (pass : Pass) (report : Report) :
    (s'.finishPass pass report).2 = (s.finishPass pass report).2 ∧
      Indistinct ⟨(s.finishPass pass report).1, running⟩
        ⟨(s'.finishPass pass report).1, running⟩ := by
  have hplain : s'.plain = s.plain := h.service_plain
  have hboth := finishPass_plain s' pass report
  rw [hplain, finishPass_plain s pass report] at hboth
  obtain ⟨hservice, hanswer⟩ := Prod.mk.inj hboth
  refine ⟨hanswer.symm, ?_, ?_, ?_⟩
  · rw [Traffic.map, Traffic.map, hservice]
  · exact Consistent.finishPass (s := s) h.left pass report
  · exact Consistent.finishPass (s := s') h.right pass report

variable {σ : Type} (script : Script σ) (env : σ)

/-- Both have the same validator called, which reports the same. -/
theorem runValidator (h : Indistinct ⟨s, running⟩ ⟨s', running⟩) (path : Text) :
    (s'.runValidator script.host (env, running) path).1 =
        (s.runValidator script.host (env, running) path).1 ∧
      Matched (s.runValidator script.host (env, running) path).2
        (s'.runValidator script.host (env, running) path).2 := by
  have hrunner : s'.runner = s.runner := h.runner_eq
  unfold Service.runValidator
  rw [hrunner]
  cases s.runner with
  | process validator =>
    have hrun := h.run (script.spawn (validator.call path) env).1
    exact ⟨rfl, congrArg (Prod.mk _) hrun.running_eq, hrun.services⟩
  | outside =>
    have hrun := h.run (script.validate path env).1
    exact ⟨rfl, congrArg (Prod.mk _) hrun.running_eq, hrun.services⟩

/-- **Both answer every call alike**, whatever the script has them do in the meantime. -/
theorem handle (h : Indistinct ⟨s, running⟩ ⟨s', running⟩) (request : Request) :
    (s'.handle script.host (env, running) request).2 =
        (s.handle script.host (env, running) request).2 ∧
      Matched (s.handle script.host (env, running) request).1
        (s'.handle script.host (env, running) request).1 := by
  rcases h.launch request with ⟨hlaunch, hlaunch'⟩ | ⟨started, started', pass, path, hlaunch,
    hlaunch', hstarted⟩
  · rw [handle_of_not_launch _ _ hlaunch, handle_of_not_launch _ _ hlaunch']
    obtain ⟨hanswer, hnext⟩ := h.answer hlaunch hlaunch'
    exact ⟨hanswer, rfl, hnext⟩
  · rw [handle_of_launch _ _ hlaunch, handle_of_launch _ _ hlaunch']
    obtain ⟨hreport, hworld⟩ := hstarted.runValidator script env path
    obtain ⟨hanswer, hnext⟩ := hworld.inside.finishPass pass
      (started.runValidator script.host (env, running) path).1
    rw [hreport, hanswer]
    exact ⟨rfl, hworld.outside, hnext⟩

end Indistinct

end Service

end SchemaEditor
