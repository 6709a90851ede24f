import SchemaEditor.Proofs.Service.Move

/-!
# Versions

The version of a document counts its edits.  What is counted can be read off what was said: an
edit is a new text or a fix that was applied, and the count starts anew when the document is
opened (`History.edits`).

One event is looked at first.  A document that is open afterwards has just been opened, or it
was edited, or neither its version nor its document has changed (`Descent`); `descent` finds out
which for every event, and the two results about runs follow from it by induction.
-/

namespace SchemaEditor

/-- The event opens the document with a name. -/
def Event.opens (id : Text) : Event → Bool
  | .ask (.openDocument id' _ _) => decide (id' = id)
  | _ => false

/-- The event asks for an edit of the document with a name. -/
def Event.asksEdit (id : Text) : Event → Bool
  | .ask (.update id' _) => decide (id' = id)
  | .ask (.applyFix id' _ _) => decide (id' = id)
  | _ => false

/-- What was asked for was done. -/
def Reply.succeeds : Reply → Bool
  | .answered answer => answer.isOk
  | _ => false

/-- The document with a name was edited: it was asked for, and done. -/
def edited (id : Text) (e : Event) (reply : Reply) : Bool := e.asksEdit id && reply.succeeds

/-- Events, each with what was said at it. -/
abbrev History := List (Event × Reply)

namespace History

/-- The number of edits of a document since it was opened, after one more event. -/
def countEdit (id : Text) (n : Nat) (said : Event × Reply) : Nat :=
  if said.1.opens id then 0 else if edited id said.1 said.2 then n + 1 else n

/-- How often a document was edited since it was opened last. -/
def edits (id : Text) (history : History) : Nat := history.foldl (countEdit id) 0

end History

/-- Events with what a machine says at them. -/
def Machine.history {S : Type} (m : Machine S) (t : Traffic S) (events : List Event) : History :=
  events.zip (m.replies t events)

/-- A document with its version. -/
def OpenDocument.edition (d : OpenDocument) : Document × Nat := (d.document, d.version)

namespace Service

/-! ## Documents that stay as they are -/

/-- The same documents are open under the same settings, with the same texts and versions. -/
structure Retains (s s' : Service) : Prop where
  settings : s'.settings = s.settings
  found : ∀ id, (Entries.find? id s'.documents).map OpenDocument.edition =
    (Entries.find? id s.documents).map OpenDocument.edition

namespace Retains
variable {s : Service} {id : Text}

theorem refl (s : Service) : Retains s s := ⟨rfl, fun _ => rfl⟩

theorem trans {s' s'' : Service} (h : Retains s s') (h' : Retains s' s'') : Retains s s'' :=
  ⟨h'.settings.trans h.settings, fun id => (h'.found id).trans (h.found id)⟩

/-- What is open afterwards was open before. -/
theorem exists_edition {s' : Service} {d' : OpenDocument} (h : Retains s s')
    (hd' : s'.find id = .ok d') : ∃ d, s.find id = .ok d ∧ d'.edition = d.edition := by
  have hfound := h.found id
  rw [find_eq_ok_iff.mp hd'] at hfound
  obtain ⟨d, hd, heq⟩ := Option.map_eq_some_iff.mp hfound.symm
  exact ⟨d, find_eq_ok_iff.mpr hd, heq.symm⟩

theorem put {d d' : OpenDocument} (hd : s.find id = .ok d) (h : d'.edition = d.edition) :
    Retains s (s.put id d') := by
  refine ⟨rfl, fun id' => ?_⟩
  rw [find?_put]
  split_ifs with hid
  · rw [← hid, find_eq_ok_iff.mp hd, Option.map_some, Option.map_some, h]
  · rfl

theorem fixesFor (s : Service) (id : Text) (index : Int) : Retains s (s.fixesFor id index).1 := by
  cases hf : s.find id with
  | error e =>
    rw [fixesFor_of_find_error hf]
    exact refl s
  | ok d =>
    rcases fixesFor_cases hf index with ⟨e, he⟩ | ⟨fixes, -, he⟩ | ⟨diagnostic, -, he⟩
    · rw [he]
      exact refl s
    · rw [he]
      exact refl s
    · rw [he]
      exact put hf rfl

theorem startPass (s : Service) (id : Text) (output : Option Text) :
    Retains s (s.startPass id output).1 := by
  cases hf : s.find id with
  | error e =>
    rw [startPass_of_find_error hf]
    exact refl s
  | ok d =>
    rcases startPass_cases hf output with ⟨text, -, he⟩ | ⟨path, -, -, he⟩ | ⟨-, he⟩ | he
    · rw [he]
      exact put hf rfl
    · rw [he]
      exact put hf rfl
    · rw [he]
      exact put hf rfl
    · rw [he]
      exact refl s

theorem finishPass (s : Service) (pass : Pass) (report : Report) :
    Retains s (s.finishPass pass report).1 := by
  rcases finishPass_cases s pass report with ⟨d, hd, -, he⟩ | ⟨-, he⟩
  · obtain ⟨hdocument, hversion, -, -⟩ := d.conclude_fields pass.generation report
    rw [he]
    exact put hd (Prod.ext hdocument hversion)
  · rw [he]
    exact refl s

/-- A validation that calls no validator. -/
theorem validate {σ : Type} (host : Host σ) (env : σ) {output : Option Text}
    (hlaunch : s.launch (.validate id output) = none) :
    Retains s (s.validate host env id output).1.2 := by
  have hstarted := startPass s id output
  unfold Service.validate
  rcases hstart : s.startPass id output with ⟨started, result⟩
  rw [hstart] at hstarted
  cases result with
  | error e => exact hstarted
  | ok start =>
    cases start with
    | answered ds => exact hstarted
    | reported pass text => exact hstarted.trans (finishPass started pass _)
    | running pass path => cases (launch_validate hstart).symm.trans hlaunch

theorem launch {request : Request} {started : Service} {pass : Pass} {path : Text}
    (h : s.launch request = some (started, pass, path)) : Retains s started := by
  obtain ⟨id, rfl, hstart⟩ := launch_eq_some_iff.mp h
  have hstarted := startPass s id none
  rw [hstart] at hstarted
  exact hstarted

end Retains

/-! ## One event -/

/-- Where a document comes from that is open under a name after an event. -/
inductive Descent (s : Service) (id : Text) (e : Event) (reply : Reply) (d' : OpenDocument) : Prop
  | opened (hopens : e.opens id = true) (hversion : d'.version = 1)
  | edited {d : OpenDocument} (hopens : e.opens id = false) (hedited : edited id e reply = true)
      (hd : s.find id = .ok d) (hversion : d'.version = d.version + 1)
  | retained {d : OpenDocument} (hopens : e.opens id = false) (hedited : edited id e reply = false)
      (hd : s.find id = .ok d) (hversion : d'.version = d.version)
      (hdocument : d'.document = d.document)

section Events
variable {s s' : Service} {id : Text} {e : Event} {reply : Reply} {d' : OpenDocument}

theorem descent_of_retains (h : Retains s s') (hd' : s'.find id = .ok d')
    (hopens : e.opens id = false) (hedited : edited id e reply = false) :
    Descent s id e reply d' := by
  obtain ⟨d, hd, hedition⟩ := h.exists_edition hd'
  obtain ⟨hdocument, hversion⟩ := Prod.mk.inj hedition
  exact .retained hopens hedited hd hversion hdocument

/-- A document is put in place of another one, which was edited. -/
theorem descent_of_put {id' : Text} {d₀ d₁ : OpenDocument} (hd₀ : s.find id' = .ok d₀)
    (hversion : d₁.version = d₀.version + 1) (hd' : (s.put id' d₁).find id = .ok d')
    (hopens : e.opens id = false) (hedited : edited id e reply = decide (id' = id)) :
    Descent s id e reply d' := by
  by_cases hid : id' = id
  · subst hid
    rw [find_put] at hd'
    obtain rfl := Except.ok.inj hd'
    exact .edited hopens (by rw [hedited, decide_eq_true rfl]) hd₀ hversion
  · rw [find_eq_ok_iff, find?_put, if_neg hid] at hd'
    exact .retained hopens (by rw [hedited, decide_eq_false hid]) (find_eq_ok_iff.mpr hd') rfl rfl

/-- **Where a document comes from** that is open after an event. -/
theorem descent {t : Traffic Service} (hs : t.service.Sound)
    (hd' : (machine.step t e).1.service.find id = .ok d') :
    Descent t.service id e (machine.step t e).2 d' := by
  cases e with
  | ask request =>
    cases hlaunch : t.service.launch request with
    | some launched =>
      obtain ⟨started, pass, path⟩ := launched
      rw [Machine.step_ask_of_launch (m := machine) hlaunch] at hd' ⊢
      obtain ⟨id', rfl, -⟩ := launch_eq_some_iff.mp hlaunch
      exact descent_of_retains (Retains.launch hlaunch) hd' rfl rfl
    | none =>
      rw [Machine.step_ask_of_not_launch (m := machine) hlaunch] at hd' ⊢
      cases request with
      | openDocument id' text path =>
        have hmove : Move t.running t.service id' (t.service.openDocument id' text path).1 true :=
          .opened text path
        by_cases hid : id' = id
        · subst hid
          have hopened : (t.service.openDocument id' text path).1.find id' =
              .ok (.opened (Document.ofText text path) t.service.openings) :=
            Move.find_opened text path
          obtain rfl := Except.ok.inj (hopened.symm.trans hd')
          exact .opened (decide_eq_true rfl) rfl
        · exact .retained (decide_eq_false hid) rfl (hmove.find_of_ne hid ▸ hd') rfl rfl
      | update id' text =>
        simp only [machine, handle, update] at hd' ⊢
        cases hf : t.service.find id' with
        | error e =>
          rw [hf] at hd'
          exact descent_of_retains (Retains.refl _) hd' rfl (Bool.and_false _)
        | ok d =>
          rw [hf] at hd'
          exact descent_of_put hf rfl hd' rfl (Bool.and_true _)
      | applyFix id' index fixIndex =>
        simp only [machine, handle] at hd' ⊢
        rcases applyFix_cases t.service id' index fixIndex with ⟨e, he⟩ |
          ⟨d, fix, applied, hf, he⟩
        · rw [he] at hd' ⊢
          exact descent_of_retains (Retains.fixesFor _ id' index) hd' rfl (Bool.and_false _)
        · rw [he] at hd' ⊢
          exact descent_of_put hf rfl hd' rfl (Bool.and_true _)
      | close id' =>
        have hmove : Move t.running t.service id' (t.service.close id') true := .closed
        by_cases hid : id' = id
        · subst hid
          cases (Move.find_closed hs).symm.trans hd'
        · exact .retained rfl rfl (hmove.find_of_ne hid ▸ hd') rfl rfl
      | validate id' output =>
        exact descent_of_retains (Retains.validate Host.idle () hlaunch) hd' rfl rfl
      | fixes id' index => exact descent_of_retains (Retains.fixesFor _ id' index) hd' rfl rfl
      | _ => exact descent_of_retains (Retains.refl _) hd' rfl rfl
  | report pass report =>
    by_cases hrun : pass ∈ t.running
    · rw [Machine.step_report_of_mem (m := machine) hrun] at hd' ⊢
      exact descent_of_retains (Retains.finishPass _ pass report) hd' rfl rfl
    · rw [Machine.step_report_of_not_mem (m := machine) hrun] at hd' ⊢
      exact descent_of_retains (Retains.refl _) hd' rfl rfl

end Events

/-! ## Runs -/

variable {t : Traffic Service} {id : Text}

theorem version_run (hs : t.service.Sound) {n : Nat}
    (hn : ∀ d, t.service.find id = .ok d → d.version = 1 + n) (events : List Event)
    {d : OpenDocument} (hd : (machine.run t events).service.find id = .ok d) :
    d.version = 1 + (machine.history t events).foldl (History.countEdit id) n := by
  induction events generalizing t n with
  | nil => exact hn d hd
  | cons e events ih =>
    refine ih (sound_step t e hs) (fun d' hd' => ?_) hd
    cases descent hs hd' with
    | opened hopens hversion => rw [History.countEdit, if_pos hopens, hversion]
    | edited hopens hedited hfound hversion =>
      rw [History.countEdit, hopens, if_neg Bool.false_ne_true, if_pos hedited, hversion,
        hn _ hfound, Nat.add_assoc]
    | retained hopens hedited hfound hversion _ =>
      rw [History.countEdit, hopens, hedited, if_neg Bool.false_ne_true,
        if_neg Bool.false_ne_true, hversion, hn _ hfound]

/-- **A version is one more than the number of edits** since the document was opened. -/
theorem version_eq_edits (settings : Settings) (owns : Bool) (events : List Event) {id : Text}
    {d : OpenDocument}
    (hd : (machine.run (idleTraffic settings owns) events).service.find id = .ok d) :
    d.version = 1 + (machine.history (idleTraffic settings owns) events).edits id :=
  version_run (sound_initial settings owns) (fun _ hnone => by cases hnone) events hd

/-- **A text changes by edits only**, or when its document is opened anew. -/
theorem document_eq_of_not_edited (hs : t.service.Sound) {e : Event} {d d' : OpenDocument}
    (hd : t.service.find id = .ok d) (hd' : (machine.step t e).1.service.find id = .ok d')
    (hopens : e.opens id = false) (hedited : edited id e (machine.step t e).2 = false) :
    d'.document = d.document := by
  cases descent hs hd' with
  | opened hopens' _ => cases hopens.symm.trans hopens'
  | edited _ hedited' _ _ => cases hedited.symm.trans hedited'
  | retained _ _ hfound _ hdocument =>
    obtain rfl := Except.ok.inj (hfound.symm.trans hd)
    exact hdocument

end Service

end SchemaEditor
