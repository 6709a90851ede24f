import Mathlib.Data.List.Induction
import SchemaEditor.Proofs.Entries
import SchemaEditor.Session

/-!
# Passes that share a session

Any number of passes use one session: each takes a number and may then publish under it
as often as it likes, and in between the session may be cleared (`Step`).  `Shared` is the
session together with the numbers that its passes took, so the steps of all passes in the
order in which they happen have one outcome (`Shared.run`).

What is visible is said without numbers, by looking back over the steps.  A pass is
*current* if its start is the last thing that made other passes stale (`Current`), and
the diagnostics are those that a current pass published last, unless they were cleared
since (`Shows`).  The numbers agree with this (`passes_agree`): a session accepts a pass
exactly if it is current, for numbers only grow and the last one is given out by the
last start.
-/

namespace SchemaEditor.Session

/-- A step in the use of a session. -/
inductive Step (P : Type) where
  /-- A pass takes its number. -/
  | start (pass : P)
  /-- A pass publishes under the number that it took. -/
  | publish (pass : P) (diagnostics : List Diagnostic)
  /-- The diagnostics are forgotten. -/
  | clear
  deriving DecidableEq

/-- The step makes the passes stale that were started before it. -/
def Step.outdates {P : Type} : Step P → Bool
  | .start _ => true
  | .publish _ _ => false
  | .clear => true

/-- A session and the numbers that its passes took. -/
structure Shared (P : Type) where
  session : Session
  numbers : Entries P Nat

namespace Shared
variable {P : Type} [DecidableEq P]

/-- A session that no pass has used. -/
def unused : Shared P := ⟨fresh, []⟩

variable (u : Shared P)

/-- The session accepts what the pass publishes.  A pass without a number has nothing to
publish under. -/
def accepts (pass : P) : Bool :=
  (Entries.find? pass u.numbers).any fun (number : Nat) => u.session.accepts number

/-- One step. -/
def step : Step P → Shared P
  | .start pass =>
      ⟨u.session.start, Entries.insert pass u.session.start.generation u.numbers⟩
  | .publish pass ds =>
      match Entries.find? pass u.numbers with
      | some number => { u with session := u.session.publish number ds }
      | none => u
  | .clear => { u with session := u.session.clear }

/-- The session after steps. -/
def run (steps : List (Step P)) : Shared P := steps.foldl step unused

/-- The numbers given out in the course of steps. -/
def given : Shared P → List (Step P) → List Nat
  | _, [] => []
  | u, .start pass :: steps =>
      (u.step (.start pass)).session.generation :: given (u.step (.start pass)) steps
  | u, s :: steps => given (u.step s) steps

@[simp] theorem run_nil : run ([] : List (Step P)) = unused := rfl

theorem run_concat (steps : List (Step P)) (s : Step P) :
    run (steps ++ [s]) = (run steps).step s := by
  simp [run]

variable {u}

/-- What the session accepts is what is visible next. -/
theorem step_publish_of_accepts {pass : P} (h : u.accepts pass = true) (ds : List Diagnostic) :
    u.step (.publish pass ds) = { u with session := { u.session with diagnostics := ds } } := by
  unfold accepts at h
  cases hn : Entries.find? pass u.numbers with
  | none => rw [hn] at h; cases h
  | some number =>
    rw [hn, Option.any_some] at h
    simp only [step, hn, Session.publish, h, if_true]

/-- What it does not accept changes nothing. -/
theorem step_publish_of_not_accepts {pass : P} (h : u.accepts pass = false)
    (ds : List Diagnostic) : u.step (.publish pass ds) = u := by
  unfold accepts at h
  cases hn : Entries.find? pass u.numbers with
  | none => simp only [step, hn]
  | some number =>
    rw [hn, Option.any_some] at h
    simp [step, hn, Session.publish, h]

theorem step_publish_numbers (pass : P) (ds : List Diagnostic) :
    (u.step (.publish pass ds)).numbers = u.numbers ∧
      (u.step (.publish pass ds)).session.generation = u.session.generation := by
  cases h : u.accepts pass with
  | true => rw [step_publish_of_accepts h]; exact ⟨rfl, rfl⟩
  | false => rw [step_publish_of_not_accepts h]; exact ⟨rfl, rfl⟩

theorem generation_le_step (s : Step P) : u.session.generation ≤ (u.step s).session.generation := by
  cases s with
  | start pass => exact Nat.le_succ _
  | publish pass ds => exact Nat.le_of_eq (step_publish_numbers pass ds).2.symm
  | clear => exact Nat.le_succ _

/-! ## Numbers -/

/-- No pass has a number that was not given out. -/
theorem number_le (steps : List (Step P)) {pass : P} {number : Nat}
    (h : Entries.find? pass (run steps).numbers = some number) :
    number ≤ (run steps).session.generation := by
  induction steps using List.reverseRecOn with
  | nil => cases h
  | append_singleton steps s ih =>
    rw [run_concat] at h ⊢
    cases s with
    | start p =>
      simp only [step, Entries.find?_insert] at h
      split_ifs at h with hp
      · exact Nat.le_of_eq (Option.some.inj h).symm
      · exact Nat.le_succ_of_le (ih h)
    | publish p ds =>
      rw [(step_publish_numbers p ds).1] at h
      rw [(step_publish_numbers p ds).2]
      exact ih h
    | clear => exact Nat.le_succ_of_le (ih h)

/-- A number that is given out is greater than all before it. -/
theorem lt_of_mem_given {steps : List (Step P)} {n : Nat} (h : n ∈ given u steps) :
    u.session.generation < n := by
  induction steps generalizing u with
  | nil => cases h
  | cons s steps ih =>
    have hrest : n ∈ given (u.step s) steps → u.session.generation < n := fun hmem =>
      Nat.lt_of_le_of_lt (generation_le_step s) (ih hmem)
    cases s with
    | start pass =>
      rcases List.mem_cons.mp h with rfl | h
      · exact Nat.lt_succ_self _
      · exact hrest h
    | publish pass ds => exact hrest h
    | clear => exact hrest h

/-- **The numbers given out increase strictly.** -/
theorem pairwise_given (u : Shared P) (steps : List (Step P)) :
    (given u steps).Pairwise (· < ·) := by
  induction steps generalizing u with
  | nil => exact List.Pairwise.nil
  | cons s steps ih =>
    cases s with
    | start pass => exact List.pairwise_cons.mpr ⟨fun n hn => lt_of_mem_given hn, ih _⟩
    | publish pass ds => exact ih _
    | clear => exact ih _

end Shared

/-! ## Looking back over the steps -/

section History
variable {P : Type}

/-- The pass was started, and since then no pass was started and nothing was cleared. -/
def Current (pass : P) (steps : List (Step P)) : Prop :=
  ∃ before after, steps = before ++ .start pass :: after ∧ ∀ s ∈ after, s.outdates = false

/-- After the steps `before`, the steps `after` neither clear the diagnostics nor publish
any by a pass that is current then. -/
def Quiet (before after : List (Step P)) : Prop :=
  .clear ∉ after ∧
    ∀ meanwhile pass ds rest, after = meanwhile ++ .publish pass ds :: rest →
      ¬ Current pass (before ++ meanwhile)

/-- Looking back over the steps, the diagnostics are those that a current pass published
last, with nothing cleared since; or there are none, because nothing was so published
since the last clearing, or at all. -/
def Shows (steps : List (Step P)) (ds : List Diagnostic) : Prop :=
  (∃ before pass after, steps = before ++ .publish pass ds :: after ∧ Current pass before ∧
      Quiet (before ++ [.publish pass ds]) after) ∨
    ds = [] ∧ ∃ before after, steps = before ++ after ∧
      (before = [] ∨ before.getLast? = some .clear) ∧ Quiet before after

theorem not_current_nil (pass : P) : ¬ Current pass [] := by
  rintro ⟨before, after, h, -⟩
  simp at h

/-- The last step decides, or it outdates nothing and the steps before it decide. -/
theorem current_concat {pass : P} {steps : List (Step P)} {s : Step P} :
    Current pass (steps ++ [s]) ↔ s = .start pass ∨ s.outdates = false ∧ Current pass steps := by
  constructor
  · rintro ⟨before, after, h, hafter⟩
    rcases List.eq_nil_or_concat after with rfl | ⟨after, last, rfl⟩
    · exact Or.inl (List.head_eq_of_cons_eq (List.append_inj' h rfl).2)
    · rw [List.concat_eq_append] at h hafter
      rw [← List.cons_append, ← List.append_assoc] at h
      obtain ⟨hsteps, hlast⟩ := List.append_inj' h rfl
      obtain rfl := List.head_eq_of_cons_eq hlast
      exact Or.inr ⟨hafter s (by simp), before, after, hsteps,
        fun s hs => hafter s (List.mem_append_left _ hs)⟩
  · rintro (rfl | ⟨hs, before, after, rfl, hafter⟩)
    · exact ⟨steps, [], rfl, by simp⟩
    · refine ⟨before, after ++ [s], by simp, fun s' hs' => ?_⟩
      rcases List.mem_append.mp hs' with hs' | hs'
      · exact hafter s' hs'
      · rwa [List.mem_singleton.mp hs']

/-- At most one pass is current. -/
theorem Current.unique {pass pass' : P} {steps : List (Step P)} (h : Current pass steps)
    (h' : Current pass' steps) : pass = pass' := by
  induction steps using List.reverseRecOn with
  | nil => exact absurd h (not_current_nil pass)
  | append_singleton steps s ih =>
    rcases current_concat.mp h with rfl | ⟨hs, h⟩
    · rcases current_concat.mp h' with hs | ⟨hs, -⟩
      · cases hs
        rfl
      · cases hs
    · rcases current_concat.mp h' with rfl | ⟨-, h'⟩
      · cases hs
      · exact ih h h'

theorem quiet_nil (before : List (Step P)) : Quiet before [] := by
  refine ⟨List.not_mem_nil, fun meanwhile pass ds rest h => ?_⟩
  simp at h

theorem Quiet.concat {before after : List (Step P)} (h : Quiet before after) {s : Step P}
    (hclear : s ≠ .clear)
    (hpublish : ∀ pass ds, s = .publish pass ds → ¬ Current pass (before ++ after)) :
    Quiet before (after ++ [s]) := by
  refine ⟨?_, fun meanwhile pass ds rest hsplit => ?_⟩
  · rw [List.mem_append, List.mem_singleton, not_or]
    exact ⟨h.1, Ne.symm hclear⟩
  · rcases List.eq_nil_or_concat rest with rfl | ⟨rest, last, rfl⟩
    · -- the publication is the last step
      obtain ⟨rfl, hlast⟩ := List.append_inj' hsplit rfl
      exact hpublish pass ds (List.head_eq_of_cons_eq hlast)
    · rw [List.concat_eq_append, ← List.cons_append, ← List.append_assoc] at hsplit
      exact h.2 meanwhile pass ds rest (List.append_inj' hsplit rfl).1

/-- A step that neither clears nor publishes as a current pass leaves visible what was. -/
theorem Shows.concat {steps : List (Step P)} {ds : List Diagnostic} (h : Shows steps ds)
    {s : Step P} (hclear : s ≠ .clear)
    (hpublish : ∀ pass ds, s = .publish pass ds → ¬ Current pass steps) :
    Shows (steps ++ [s]) ds := by
  rcases h with ⟨before, pass, after, rfl, hcurrent, hquiet⟩ | ⟨hds, before, after, rfl, hb, hquiet⟩
  · refine Or.inl ⟨before, pass, after ++ [s], by simp, hcurrent, hquiet.concat hclear ?_⟩
    simpa using hpublish
  · exact Or.inr ⟨hds, before, after ++ [s], by simp, hb, hquiet.concat hclear hpublish⟩

/-- Of two current passes, the one that publishes later is the same or was started after
the first one published. -/
theorem Current.forward {first second : P} {before between : List (Step P)}
    {ds : List Diagnostic} (h : Current first before)
    (h' : Current second (before ++ .publish first ds :: between)) :
    second = first ∨ .start second ∈ between := by
  induction between using List.reverseRecOn with
  | nil =>
    rcases current_concat.mp h' with hs | ⟨-, hsecond⟩
    · cases hs
    · exact Or.inl (hsecond.unique h)
  | append_singleton between s ih =>
    rw [← List.cons_append, ← List.append_assoc, current_concat] at h'
    rcases h' with rfl | ⟨-, h'⟩
    · exact Or.inr (by simp)
    · exact (ih h').imp_right (List.mem_append_left _)

end History

/-! ## Agreement -/

namespace Shared
variable {P : Type} [DecidableEq P]

/-- **A session accepts a pass exactly if it is current.** -/
theorem accepts_iff_current (pass : P) (steps : List (Step P)) :
    (run steps).accepts pass = true ↔ Current pass steps := by
  induction steps using List.reverseRecOn with
  | nil => exact ⟨fun h => (by cases h), fun h => absurd h (not_current_nil pass)⟩
  | append_singleton steps s ih =>
    have hle := @number_le P _ steps pass
    rw [run_concat, current_concat, ← ih]
    cases s with
    | start p =>
      simp only [accepts, step, Entries.find?_insert]
      split_ifs with hp
      · simp [hp, Session.accepts]
      · cases hn : Entries.find? pass (run steps).numbers with
        | none => simp [hp, Step.outdates]
        | some number =>
          -- the number of an earlier start is no longer the last one
          have hstale : (run steps).session.generation + 1 ≠ number := by
            have := hle hn
            omega
          simp [hp, accepts_iff, hstale, Step.outdates]
    | publish p ds =>
      obtain ⟨hnumbers, hgeneration⟩ := step_publish_numbers (u := run steps) p ds
      simp [accepts, hnumbers, Session.accepts, hgeneration, Step.outdates]
    | clear =>
      simp only [accepts, step]
      cases hn : Entries.find? pass (run steps).numbers with
      | none => simp [Step.outdates]
      | some number =>
        have hstale : (run steps).session.generation + 1 ≠ number := by
          have := hle hn
          omega
        simp [accepts_iff, hstale, Step.outdates]

/-- **What is visible is what a current pass published last.** -/
theorem shows_run (steps : List (Step P)) : Shows steps (run steps).session.diagnostics := by
  induction steps using List.reverseRecOn with
  | nil => exact Or.inr ⟨rfl, [], [], rfl, Or.inl rfl, quiet_nil []⟩
  | append_singleton steps s ih =>
    rw [run_concat]
    cases s with
    | start p =>
      exact ih.concat (by simp) (by simp)
    | publish p ds =>
      cases ha : (run steps).accepts p with
      | true =>
        rw [step_publish_of_accepts ha]
        exact Or.inl ⟨steps, p, [], rfl, (accepts_iff_current p steps).mp ha, quiet_nil _⟩
      | false =>
        rw [step_publish_of_not_accepts ha]
        refine ih.concat (by simp) fun pass ds' h => ?_
        obtain ⟨rfl, rfl⟩ := Step.publish.inj h
        rw [← accepts_iff_current, ha]
        exact Bool.false_ne_true
    | clear =>
      exact Or.inr ⟨rfl, steps ++ [.clear], [], by simp, Or.inr (by simp), quiet_nil _⟩

end Shared

/-- What the passes that share a session can rely on, in the course of some steps. -/
structure Agreement {P : Type} [DecidableEq P] (steps : List (Step P)) : Prop where
  /-- The numbers given out increase strictly, so no two of them are equal. -/
  numbers : (Shared.unused.given steps).Pairwise (· < ·)
  /-- A pass is accepted exactly if no pass was started and nothing was cleared since it
  was started. -/
  accepted : ∀ before pass ds after, steps = before ++ .publish pass ds :: after →
    ((Shared.run before).accepts pass = true ↔ Current pass before)
  /-- A pass that is not accepted changes nothing. -/
  rejected : ∀ before pass ds after, steps = before ++ .publish pass ds :: after →
    (Shared.run before).accepts pass = false →
      Shared.run (before ++ [.publish pass ds]) = Shared.run before
  /-- At every moment the list that an accepted pass published last is visible as it was
  published, unless the session was cleared since. -/
  visible : ∀ before after, steps = before ++ after →
    Shows before (Shared.run before).session.diagnostics
  /-- After one pass no other is accepted that was started before the first published. -/
  forward : ∀ before first ds between second ds' after,
    steps = before ++ .publish first ds :: (between ++ .publish second ds' :: after) →
    (Shared.run before).accepts first = true →
    (Shared.run (before ++ .publish first ds :: between)).accepts second = true →
      second = first ∨ .start second ∈ between

/-- **Passes that share a session agree**, however their steps are interleaved. -/
theorem passes_agree {P : Type} [DecidableEq P] (steps : List (Step P)) : Agreement steps where
  numbers := Shared.pairwise_given Shared.unused steps
  accepted before pass _ _ _ := Shared.accepts_iff_current pass before
  rejected before pass ds _ _ h := by
    rw [Shared.run_concat, Shared.step_publish_of_not_accepts h]
  visible before _ _ := Shared.shows_run before
  forward before first ds between second ds' after _ h h' := by
    rw [Shared.accepts_iff_current] at h h'
    exact h.forward h'

end SchemaEditor.Session
