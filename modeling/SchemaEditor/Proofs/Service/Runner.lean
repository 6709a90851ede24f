import SchemaEditor.Proofs.Service.Nested

/-!
# The runner of a service

A service keeps what checks its files as a part of its state (`Service.runner`).  It makes it from
its settings when it starts, and anew whenever it is given other ones; or the runner was put in
from outside, and then it stays.  So the runner and the settings are two parts of the state that
have to agree (`Service.Equipped`).

They agree initially, and every move keeps that: only new settings touch either of the two, and
they touch both.  Hence they agree in all traffic (`Reachable.equipped`) and in all runs of nested
steps (`equipped_performAll`), and a validation goes by the settings of the moment at which its
validator is called (`Reachable.runValidator_eq`).
-/

namespace SchemaEditor

/-- The runner is the one that the settings describe, or one that was put in from outside. -/
def Service.Equipped (s : Service) : Prop :=
  s.runner = if s.ownsValidator then .process s.settings.validator else .outside

instance (s : Service) : Decidable s.Equipped := inferInstanceAs (Decidable (_ = _))

/-- No move puts a runner in or takes one out. -/
theorem Move.ownsValidator_eq {running : List Pass} {s s' : Service} {id : Text} {b : Bool}
    (h : Move running s id s' b) : s'.ownsValidator = s.ownsValidator := by
  cases h <;> rfl

theorem Move.equipped {running : List Pass} {s s' : Service} {id : Text} {b : Bool}
    (h : Move running s id s' b) (hs : s.Equipped) : s'.Equipped := by
  cases h with
  | configured settings =>
    -- with a runner from outside there is nothing to agree with
    unfold Service.Equipped at hs ⊢
    unfold Service.configure
    dsimp only
    split_ifs with howns
    · rfl
    · rwa [if_neg howns] at hs
  | same => exact hs
  | opened text path => exact hs
  | closed => exact hs
  | changed _ _ => exact hs

namespace Service

theorem equipped_initial (settings : Settings) (owns : Bool) : (initial settings owns).Equipped :=
  rfl

theorem stable_ownsValidator (owns : Bool) : Stable fun s => s.ownsValidator = owns :=
  ⟨fun hmove h => hmove.ownsValidator_eq.trans h⟩

theorem stable_equipped : Stable Equipped := ⟨fun hmove h => hmove.equipped h⟩

theorem equipped_step (t : Traffic Service) (e : Event) (h : t.service.Equipped) :
    (machine.step t e).1.service.Equipped := by
  obtain ⟨_, _, -, hmove⟩ := moves_step t e
  exact hmove.equipped h

/-- **The runner agrees with the settings**, whatever has happened. -/
theorem Reachable.equipped {t : Traffic Service} (h : Reachable t) : t.service.Equipped := by
  obtain ⟨settings, owns, events, rfl⟩ := h
  exact Machine.run_induction (P := fun t : Traffic Service => t.service.Equipped) equipped_step
    events (equipped_initial settings owns)

/-- The runner agrees with the settings after any steps, and the steps during them. -/
theorem equipped_performAll (settings : Settings) (owns : Bool) (steps : List Step) :
    (performAll steps (initial settings owns)).2.Equipped :=
  stable_equipped.performAll steps (equipped_initial settings owns)

/-! ## What the runner does -/

section Runs
variable {s : Service}

theorem runner_of_owns (hs : s.Equipped) (howns : s.ownsValidator = true) :
    s.runner = .process s.settings.validator := by
  rw [Equipped, if_pos howns] at hs
  exact hs

theorem runner_of_not_owns (hs : s.Equipped) (howns : s.ownsValidator = false) :
    s.runner = .outside := by
  rw [Equipped, if_neg (Bool.eq_false_iff.mp howns)] at hs
  exact hs

/-- A service that makes its runner from its settings calls the process that they describe. -/
theorem spawned_of_owns (hs : s.Equipped) (howns : s.ownsValidator = true) (path : Text) :
    s.spawned path = [.called (s.settings.validator.call path)] := by
  rw [spawned, runner_of_owns hs howns]

/-- **A validation goes by the settings of the moment**: the process that is called has the
command and the time limit of the settings, and what it did is reported by them; a runner from
outside is asked whatever the settings are. -/
theorem Reachable.runValidator_eq {t : Traffic Service} (ht : Reachable t) {σ : Type}
    (host : Host σ) (env : σ) (path : Text) :
    (t.service.ownsValidator = true →
      t.service.runValidator host env path =
        (t.service.settings.validator.report
            (host.spawn (t.service.settings.validator.call path) (env, t.service)).1,
          (host.spawn (t.service.settings.validator.call path) (env, t.service)).2)) ∧
      (t.service.ownsValidator = false →
        t.service.runValidator host env path = host.validate path (env, t.service)) := by
  constructor
  · intro howns
    rw [runValidator, runner_of_owns ht.equipped howns]
  · intro howns
    rw [runValidator, runner_of_not_owns ht.equipped howns]

end Runs

end Service

end SchemaEditor
