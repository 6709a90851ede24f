import Mathlib.Logic.Function.Basic
import SchemaEditor.Proofs.Service.Runner
import SchemaEditor.Proofs.Service.Version

/-!
# When the validator is called

A service that makes its runner from its settings calls it exactly when and how they say.  What is
said about that needs no service: the settings were the last ones that were given, and the file of
a document is the one that it was opened with last.  A `Desk` has these two things and nothing
else, and the calls that are due are read off the steps with it (`Desk.callsAll`).

Every part of the service is then followed on the desk (`Service.desk`), and `calls_eq_due` compares
whole runs, in which the steps made during a call may change the settings or open the document
anew.
-/

namespace SchemaEditor

/-- What decides whether and how a validator is called. -/
structure Desk where
  settings : Settings
  /-- The file of each open document, if it was opened with one. -/
  file : Text → Option (Option Text)

namespace Desk

/-- The desk before any document is opened. -/
def empty (settings : Settings) : Desk := ⟨settings, fun _ => none⟩

section
variable (desk : Desk)

/-- The desk after a request. -/
def next : Request → Desk
  | .openDocument id _ path => { desk with file := Function.update desk.file id (some path) }
  | .close id => { desk with file := Function.update desk.file id none }
  | .configure settings => { desk with settings := settings }
  | _ => desk

/-- The file on which a validator is called for a request. -/
def path? : Request → Option Text
  | .validate id none =>
      if desk.settings.enabled then (desk.file id).join.filter (· ≠ []) else none
  | _ => none

/-- The call of the validator on a file. -/
def call (path : Text) : ProcessCall where
  args := [desk.settings.validatorPath, Text.ofString "validate", (FilePath.ofText path).toText]
  directory := (FilePath.ofText path).parent.toText
  timeout := desk.settings.timeout

end

mutual
/-- The calls that are due for a step, in the order in which they begin, and the desk then. -/
def calls : Step → Desk → List ProcessCall × Desk
  | .mk request _ _ during, desk =>
      match desk.path? request with
      | some path =>
          let (inner, after) := callsAll during desk
          (desk.call path :: inner, after)
      | none => ([], desk.next request)

/-- The calls that are due for steps, in the order in which they begin, and the desk then. -/
def callsAll : List Step → Desk → List ProcessCall × Desk
  | [], desk => ([], desk)
  | step :: steps, desk =>
      let (first, desk) := calls step desk
      let (later, desk) := callsAll steps desk
      (first ++ later, desk)
end

theorem calls_of_path {desk : Desk} {request : Request} {path : Text} (report : Report)
    (outcome : Outcome) (during : List Step) (h : desk.path? request = some path) :
    calls (.mk request report outcome during) desk =
      (desk.call path :: (callsAll during desk).1, (callsAll during desk).2) := by
  simp only [calls, h]

theorem calls_of_no_path {desk : Desk} {request : Request} (report : Report) (outcome : Outcome)
    (during : List Step) (h : desk.path? request = none) :
    calls (.mk request report outcome during) desk = ([], desk.next request) := by
  simp only [calls, h]

theorem callsAll_cons (step : Step) (steps : List Step) (desk : Desk) :
    callsAll (step :: steps) desk =
      ((calls step desk).1 ++ (callsAll steps (calls step desk).2).1,
        (callsAll steps (calls step desk).2).2) := rfl

end Desk

/-- The process that a note is about. -/
def Note.call? : Note → Option ProcessCall
  | .called call => some call
  | .answered _ _ _ => none

namespace Service

/-- The settings of a service, and the files of its documents. -/
def desk (s : Service) : Desk :=
  ⟨s.settings, fun id => (Entries.find? id s.documents).map fun d => d.document.path⟩

/-! ## The desk of a service -/

section Desk
variable {s s' : Service} {id : Text} {d d' : OpenDocument} {request : Request}

theorem desk_file (s : Service) (id : Text) :
    s.desk.file id = (Entries.find? id s.documents).map fun d => d.document.path := rfl

theorem desk_of_retains (h : Retains s s') : s'.desk = s.desk := by
  have hfile : ∀ id, s'.desk.file id = s.desk.file id := by
    intro id
    have hfound := congrArg (Option.map fun edition : Document × Nat => edition.1.path)
      (h.found id)
    rw [Option.map_map, Option.map_map] at hfound
    exact hfound
  rw [desk, desk, Desk.mk.injEq]
  exact ⟨h.settings, funext hfile⟩

/-- A document that keeps its file is put back. -/
theorem desk_put (hd : s.find id = .ok d) (hpath : d'.document.path = d.document.path) :
    (s.put id d').desk = s.desk := by
  rw [desk, desk, Desk.mk.injEq]
  refine ⟨rfl, funext fun id' => ?_⟩
  rw [find?_put]
  split_ifs with hid
  · rw [← hid, find_eq_ok_iff.mp hd, Option.map_some, Option.map_some, hpath]
  · rfl

theorem desk_openDocument (id text : Text) (path : Option Text) :
    (s.openDocument id text path).1.desk = s.desk.next (.openDocument id text path) := by
  rw [desk, Desk.next, Desk.mk.injEq]
  refine ⟨rfl, funext fun id' => ?_⟩
  by_cases hid : id = id'
  · subst hid
    rw [Function.update_self, find_eq_ok_iff.mp (Move.find_opened text path)]
    rfl
  · have hmove : Move [] s id (s.openDocument id text path).1 true := .opened text path
    have hsame := Entries.find?_insert_of_ne hid
      (OpenDocument.opened (Document.ofText text path) s.openings) s.documents
    rw [Function.update_of_ne (Ne.symm hid)]
    exact congrArg (Option.map fun d : OpenDocument => d.document.path) hsame

theorem desk_close (hs : s.Sound) (id : Text) : (s.close id).desk = s.desk.next (.close id) := by
  rw [desk, Desk.next, Desk.mk.injEq]
  refine ⟨rfl, funext fun id' => ?_⟩
  by_cases hid : id = id'
  · subst hid
    rw [Function.update_self, close, Entries.find?_erase_self hs.keys]
    rfl
  · rw [Function.update_of_ne (Ne.symm hid), close, Entries.find?_erase_of_ne hid]
    rfl

/-- No edit gives a document another file. -/
theorem desk_update (id text : Text) : (s.update id text).1.desk = s.desk := by
  rw [update]
  cases hd : s.find id with
  | error e => rfl
  | ok d => exact desk_put hd rfl

/-- No fix gives a document another file. -/
theorem desk_applyFix (id : Text) (index fixIndex : Int) :
    (s.applyFix id index fixIndex).1.desk = s.desk := by
  rcases applyFix_cases s id index fixIndex with ⟨e, he⟩ | ⟨d, fix, applied, hd, he⟩
  · rw [he]
    exact desk_of_retains (Retains.fixesFor s id index)
  · rw [he]
    exact desk_put hd rfl

/-- **A request that calls no validator does to the desk what it says.** -/
theorem desk_answer (hs : s.Sound) (hlaunch : s.launch request = none) :
    (machine.answer s request).1.desk = s.desk.next request := by
  cases request with
  | openDocument id text path => exact desk_openDocument id text path
  | update id text => exact desk_update id text
  | close id => exact desk_close hs id
  | validate id output => exact desk_of_retains (Retains.validate Host.idle () hlaunch)
  | fixes id index => exact desk_of_retains (Retains.fixesFor s id index)
  | applyFix id index fixIndex => exact desk_applyFix id index fixIndex
  | _ => rfl

/-- **A validator is called for a request if the desk says so**, and on the file that it says. -/
theorem launch_path (s : Service) (request : Request) :
    (s.launch request).map (fun launched => launched.2.2) = s.desk.path? request := by
  cases request with
  | validate id output =>
    cases output with
    | some text => rfl
    | none =>
      rw [launch, Desk.path?]
      cases hd : s.find id with
      | error e =>
        rw [startPass_of_find_error hd, desk_file, (find_eq_error_iff.mp hd).2]
        exact (ite_self none).symm
      | ok d =>
        rw [desk_file, find_eq_ok_iff.mp hd, Option.map_some, Option.join_some, startPass]
        simp only [hd]
        by_cases he : s.settings.enabled = true
        · have he' : s.desk.settings.enabled = true := he
          simp only [he, he', if_true]
          rcases d.document.path with _ | _ | ⟨c, path⟩ <;> rfl
        · have he' : ¬ s.desk.settings.enabled = true := he
          simp only [he, he']
          rfl
  | _ => rfl

end Desk

/-! ## Runs -/

mutual
/-- The calls that a step makes are those that are due. -/
theorem calls_perform (step : Step) {s : Service} (hs : s.Sound) (hrunner : s.Equipped)
    (howns : s.ownsValidator = true) :
    (perform step s).1.filterMap Note.call? = (Desk.calls step s.desk).1 ∧
      (perform step s).2.desk = (Desk.calls step s.desk).2 := by
  obtain ⟨request, report, outcome, during⟩ := step
  have hpath := launch_path s request
  cases hlaunch : s.launch request with
  | none =>
    rw [hlaunch, Option.map_none] at hpath
    rw [perform_of_not_launch report outcome during hlaunch,
      Desk.calls_of_no_path report outcome during hpath.symm]
    exact ⟨rfl, desk_answer hs hlaunch⟩
  | some launched =>
    obtain ⟨started, pass, path⟩ := launched
    rw [hlaunch, Option.map_some] at hpath
    obtain ⟨_, _, hmove⟩ := exists_move_of_launch hlaunch
    have hstarted : started.ownsValidator = true := hmove.ownsValidator_eq.trans howns
    have hequipped : started.Equipped := hmove.equipped hrunner
    have hdesk : started.desk = s.desk := desk_of_retains (Retains.launch hlaunch)
    obtain ⟨hinner, hback⟩ := calls_performAll during (hmove.sound hs) hequipped hstarted
    have hfinished := desk_of_retains (Retains.finishPass (performAll during started).2 pass
      (started.reported report outcome))
    -- the call comes first, then those of the steps that are made during it
    have hspawned : (started.spawned path).filterMap Note.call? = [s.desk.call path] := by
      rw [spawned_of_owns hequipped hstarted, ← hdesk]
      rfl
    rw [perform_of_launch report outcome during hlaunch,
      Desk.calls_of_path report outcome during hpath.symm]
    refine ⟨?_, ?_⟩
    · rw [List.filterMap_append, List.filterMap_append, hspawned, hinner, hdesk]
      exact List.append_nil _
    · rw [hfinished, hback, hdesk]
termination_by structural step

/-- The calls that steps make are those that are due. -/
theorem calls_performAll (steps : List Step) {s : Service} (hs : s.Sound) (hrunner : s.Equipped)
    (howns : s.ownsValidator = true) :
    (performAll steps s).1.filterMap Note.call? = (Desk.callsAll steps s.desk).1 ∧
      (performAll steps s).2.desk = (Desk.callsAll steps s.desk).2 := by
  cases steps with
  | nil => exact ⟨rfl, rfl⟩
  | cons step steps =>
    obtain ⟨hfirst, hdesk⟩ := calls_perform step hs hrunner howns
    obtain ⟨hlater, hend⟩ := calls_performAll steps (stable_sound.perform step hs)
      (stable_equipped.perform step hrunner) ((stable_ownsValidator true).perform step howns)
    rw [performAll_cons, Desk.callsAll_cons, List.filterMap_append, hfirst, hlater, hend, hdesk]
    exact ⟨rfl, rfl⟩
termination_by structural steps
end

/-- **The validator is called exactly when and how the settings say.**  In every run of a service
that has its own validator, the processes that are called are those that are due; the settings
and the files that decide it are those that were given last, and no edit, fix or look at a
document gives it another file. -/
theorem calls_eq_due (settings : Settings) (steps : List Step) :
    let run := performAll steps (initial settings true)
    let due := Desk.callsAll steps (.empty settings)
    run.1.filterMap Note.call? = due.1 ∧ run.2.desk = due.2 ∧
      ∀ id text options index fixIndex report outcome during,
        ∀ request ∈ [Request.update id text, .applyFix id index fixIndex, .format id options,
            .fixes id index],
          (perform (.mk request report outcome during) run.2).2.desk = run.2.desk := by
  intro run due
  have hs := stable_sound.performAll steps (sound_initial settings true)
  have hrunner := equipped_performAll settings true steps
  have howns := (stable_ownsValidator true).performAll steps (s := initial settings true) rfl
  obtain ⟨hcalls, hdesk⟩ :=
    calls_performAll steps (sound_initial settings true) (equipped_initial settings true) rfl
  refine ⟨hcalls, hdesk, fun id text options index fixIndex report outcome during request h => ?_⟩
  rw [(calls_perform (.mk request report outcome during) hs hrunner howns).2]
  -- none of these requests calls a validator or does anything to the desk
  simp only [List.mem_cons, List.not_mem_nil, or_false] at h
  rcases h with rfl | rfl | rfl | rfl <;> rfl

/-- While a validator runs the settings are changed and the document is opened from another file;
the next call is by the new settings and on the new file. -/
example :
    let a := Text.ofString "a"
    let other : Settings := { validatorPath := Text.ofString "v" }
    let step (request : Request) (during : List Step) := Step.mk request (.ok none) .notFound during
    let steps := [step (.openDocument a [] (some (Text.ofString "x//s.lumos"))) [],
      step (.validate a none)
        [step (.configure other) [],
          step (.openDocument a [] (some (Text.ofString "./t.lumos"))) [],
          step (.validate a none) []]]
    ((performAll steps (initial {} true)).1.filterMap Note.call?).map
        (fun call => (call.args, call.directory)) =
      [([Text.ofString "lumos", Text.ofString "validate", Text.ofString "x/s.lumos"],
          Text.ofString "x"),
        ([Text.ofString "v", Text.ofString "validate", Text.ofString "t.lumos"],
          Text.ofString ".")] := by
  decide

end Service

end SchemaEditor
