import SchemaEditor.Proofs.Service.Local
import SchemaEditor.Proofs.Service.Nested

/-!
# Documents do not interfere

Take a run of steps, nested in any way, and delete every step that is addressed to another
document than the one with a given name.  If the deleted step had called a validator, the steps
that were made meanwhile and are kept are made in its place (`Service.only`).  Nothing that can be
seen of the document with the name is changed by that: neither the answers to the steps on it nor
what is listed of it after each step that is kept (`documents_independent`).

The two services agree on the settings, on the runner and on the document, but not on the number of
its opening, because openings of all documents are counted together.  A pass that is under way knows
its document by that number.  So the relation between the two services (`Mirror`) has a mark for
each such pass: the two numbers by which the pass knows its document in the one service and in the
other.  The document that is open now has both numbers of a mark, or it has neither.
-/

namespace SchemaEditor

/-- The document that a request is addressed to. -/
def Request.about : Request → Option Text
  | .openDocument id _ _ => some id
  | .update id _ => some id
  | .close id => some id
  | .text id => some id
  | .lines id => some id
  | .format id _ => some id
  | .validate id _ => some id
  | .diagnostics id => some id
  | .fixes id _ => some id
  | .applyFix id _ _ => some id
  | .list => none
  | .complete _ => none
  | .configure _ => none

/-- The request is addressed to no other document than the one with a name. -/
def Request.spares (id : Text) (request : Request) : Bool := request.about.all (· = id)

/-- What is seen of the document with a name when a request is answered that is addressed to no
other one: the answer, if it is addressed to that document, and what is listed of it then. -/
def Note.seen (id : Text) :
    Note → Option (Request × Option (Result Answer) × Option Summary)
  | .called _ => none
  | .answered request answer listed =>
      if request.spares id then
        some (request, if request.about = some id then some answer else none,
          listed.find? (·.id = id))
      else none

namespace Service

mutual
/-- What is left of a step, made by a service, if those addressed to other documents than the one
with a name are deleted. -/
def only (id : Text) : Step → Service → List Step
  | .mk request report outcome during, s =>
      let inner :=
        match s.launch request with
        | some (started, _, _) => onlyAll id during started
        | none => []
      if request.spares id then [.mk request report outcome inner] else inner

/-- What is left of steps, made by a service, if those addressed to other documents than the one
with a name are deleted. -/
def onlyAll (id : Text) : List Step → Service → List Step
  | [], _ => []
  | step :: steps, s => only id step s ++ onlyAll id steps (perform step s).2
end

mutual
/-- A step is addressed to no other document than the one with a name, and neither are the steps
during it. -/
def spares (id : Text) : Step → Bool
  | .mk request _ _ during => request.spares id && sparesAll id during

/-- Steps are addressed to no other document than the one with a name. -/
def sparesAll (id : Text) : List Step → Bool
  | [] => true
  | step :: steps => spares id step && sparesAll id steps
end

theorem sparesAll_append (id : Text) (steps later : List Step) :
    sparesAll id (steps ++ later) = (sparesAll id steps && sparesAll id later) := by
  induction steps with
  | nil => rfl
  | cons step steps ih =>
    rw [List.cons_append, sparesAll, sparesAll, ih, Bool.and_assoc]

/-! ## Services that agree on a document -/

/-- Two services agree on the settings, on the runner and on the document with a name, but for the
number of its opening, and on which of the passes under way know it. -/
structure Mirror (id : Text) (marks : List (Nat × Nat)) (s s' : Service) : Prop where
  settings : s'.settings = s.settings
  ownsValidator : s'.ownsValidator = s.ownsValidator
  runner : s'.runner = s.runner
  left : s.Sound
  right : s'.Sound
  found : (s.find id = .error (.unknownDocument id) ∧ s'.find id = .error (.unknownDocument id)) ∨
    ∃ d opening, s.find id = .ok d ∧ s'.find id = .ok (d.renumber opening) ∧
      ∀ mark ∈ marks, d.opening = mark.1 ↔ opening = mark.2
  /-- The numbers of all marks were given out. -/
  below : ∀ mark ∈ marks, mark.1 < s.openings ∧ mark.2 < s'.openings

/-- A service that is changed elsewhere. -/
structure Elsewhere (id : Text) (s s₁ : Service) : Prop where
  settings : s₁.settings = s.settings
  ownsValidator : s₁.ownsValidator = s.ownsValidator
  runner : s₁.runner = s.runner
  find : s₁.find id = s.find id
  openings : s.openings ≤ s₁.openings

section Elsewhere
variable {s s₁ : Service} {id id₁ : Text} {request : Request}

theorem Elsewhere.refl (id : Text) (s : Service) : Elsewhere id s s :=
  ⟨rfl, rfl, rfl, rfl, Nat.le_refl _⟩

theorem Elsewhere.put (hne : id₁ ≠ id) (d : OpenDocument) : Elsewhere id s (s.put id₁ d) := by
  refine ⟨rfl, rfl, rfl, ?_, Nat.le_refl _⟩
  rw [Service.find, find?_put, if_neg hne]
  rfl

/-- A request for which a document must be open is addressed to that document. -/
theorem about_of_needs (h : request.needs = some id) : request.about = some id := by
  cases request <;> first | exact h | cases h

/-- No validator is called for a document that is not open. -/
theorem launch_of_find_error (hneeds : request.needs = some id)
    (hnone : s.find id = .error (.unknownDocument id)) : s.launch request = none := by
  cases hlaunch : s.launch request with
  | none => rfl
  | some launched =>
    obtain ⟨started, pass, path⟩ := launched
    obtain ⟨id₁, rfl, hstart⟩ := launch_eq_some_iff.mp hlaunch
    cases hneeds
    cases (startPass_of_find_error hnone none).symm.trans hstart

/-- A request that is addressed to another document changes a service elsewhere. -/
theorem elsewhere_answer (hspares : request.spares id = false) (hlaunch : s.launch request = none) :
    Elsewhere id s (machine.answer s request).1 := by
  cases hneeds : request.needs with
  | some id₁ =>
    have hne : id₁ ≠ id := by
      rintro rfl
      simp [Request.spares, about_of_needs hneeds] at hspares
    cases hd : s.find id₁ with
    | error e =>
      obtain ⟨rfl, -⟩ := find_eq_error_iff.mp hd
      rw [answer_of_find_error hneeds hd]
      exact .refl id s
    | ok d =>
      rcases local_request s.settings d hneeds with ⟨path, hlocal⟩ | ⟨d₁, answer, hlocal⟩
      · cases (hlocal s d.opening rfl hd).symm.trans hlaunch
      · rw [(hlocal s d.opening rfl hd).2]
        exact .put hne _
  | none =>
    cases request with
    | openDocument id₁ text path =>
      have hne : id₁ ≠ id := by simpa [Request.spares, Request.about] using hspares
      have hmove : Move [] s id₁ (s.openDocument id₁ text path).1 true := .opened text path
      exact ⟨rfl, rfl, rfl, hmove.find_of_ne hne, hmove.openings_le⟩
    | close id₁ =>
      have hne : id₁ ≠ id := by simpa [Request.spares, Request.about] using hspares
      have hmove : Move [] s id₁ (s.close id₁) true := .closed
      exact ⟨rfl, rfl, rfl, hmove.find_of_ne hne, hmove.openings_le⟩
    | list => cases hspares
    | complete before => cases hspares
    | configure settings => cases hspares
    | _ => cases hneeds

theorem elsewhere_finishPass {pass : Pass} (hne : pass.id ≠ id) (report : Report) :
    Elsewhere id s (s.finishPass pass report).1 := by
  rcases finishPass_cases s pass report with ⟨d, -, -, he⟩ | ⟨-, he⟩
  · rw [he]
    exact .put hne _
  · rw [he]
    exact .refl id s

end Elsewhere

/-- What is listed of the document with a name. -/
theorem find?_list (s : Service) (id : Text) :
    s.list.find? (·.id = id) = (Entries.find? id s.documents).map (·.summary id) := by
  rw [Service.list]
  induction s.documents with
  | nil => rfl
  | cons entry rest ih =>
    obtain ⟨id₁, d⟩ := entry
    by_cases hid : id₁ = id
    · subst hid
      rw [List.map_cons, List.find?_cons_of_pos (by simp [OpenDocument.summary]), Entries.find?,
        if_pos rfl, Option.map_some]
    · rw [List.map_cons, List.find?_cons_of_neg (by simp [OpenDocument.summary, hid]),
        Entries.find?, if_neg hid, ih]

namespace Mirror
variable {id : Text} {marks : List (Nat × Nat)} {s s' s₁ : Service} {request : Request}

theorem elsewhere (h : Mirror id marks s s') (hmoved : Elsewhere id s s₁) (hsound : s₁.Sound) :
    Mirror id marks s₁ s' where
  settings := h.settings.trans hmoved.settings.symm
  ownsValidator := h.ownsValidator.trans hmoved.ownsValidator.symm
  runner := h.runner.trans hmoved.runner.symm
  left := hsound
  right := h.right
  found := by
    rw [hmoved.find]
    exact h.found
  below mark hmark :=
    ⟨Nat.lt_of_lt_of_le (h.below mark hmark).1 hmoved.openings, (h.below mark hmark).2⟩

/-- The document that is open has both numbers of a mark, or it has neither. -/
theorem known (h : Mirror id marks s s') {d : OpenDocument} {opening : Nat}
    (hd : s.find id = .ok d) (hd' : s'.find id = .ok (d.renumber opening)) :
    ∀ mark ∈ marks, d.opening = mark.1 ↔ opening = mark.2 := by
  rcases h.found with ⟨hnone, -⟩ | ⟨d₀, opening₀, hd₀, hd₀', hmarks⟩
  · cases hnone.symm.trans hd
  · obtain rfl := Except.ok.inj (hd₀.symm.trans hd)
    have hopening : opening₀ = opening :=
      congrArg OpenDocument.opening (Except.ok.inj (hd₀'.symm.trans hd'))
    exact hopening ▸ hmarks

/-- The document that is open is marked. -/
theorem mark (h : Mirror id marks s s') {d : OpenDocument} {opening : Nat}
    (hd : s.find id = .ok d) (hd' : s'.find id = .ok (d.renumber opening)) :
    Mirror id ((d.opening, opening) :: marks) s s' where
  settings := h.settings
  ownsValidator := h.ownsValidator
  runner := h.runner
  left := h.left
  right := h.right
  found := by
    refine Or.inr ⟨d, opening, hd, hd', fun mark hmark => ?_⟩
    rcases List.mem_cons.mp hmark with rfl | hold
    · exact ⟨fun _ => rfl, fun _ => rfl⟩
    · exact h.known hd hd' mark hold
  below := by
    intro mark hmark
    rcases List.mem_cons.mp hmark with rfl | hold
    · exact ⟨h.left.opening _ _ hd, h.right.opening _ _ hd'⟩
    · exact h.below mark hold

theorem unmark {first : Nat × Nat} (h : Mirror id (first :: marks) s s') :
    Mirror id marks s s' where
  settings := h.settings
  ownsValidator := h.ownsValidator
  runner := h.runner
  left := h.left
  right := h.right
  found := by
    refine h.found.imp_right ?_
    rintro ⟨d, opening, hd, hd', hmarks⟩
    exact ⟨d, opening, hd, hd', fun mark hmark => hmarks mark (List.mem_cons_of_mem _ hmark)⟩
  below mark hmark := h.below mark (List.mem_cons_of_mem _ hmark)

/-- Both put the same document in its place. -/
theorem put (h : Mirror id marks s s') {d d₁ : OpenDocument} {opening : Nat}
    (hd : s.find id = .ok d) (hd' : s'.find id = .ok (d.renumber opening))
    (hopening : d₁.opening = d.opening) (hleft : (s.put id d₁).Sound)
    (hright : (s'.put id (d₁.renumber opening)).Sound) :
    Mirror id marks (s.put id d₁) (s'.put id (d₁.renumber opening)) where
  settings := h.settings
  ownsValidator := h.ownsValidator
  runner := h.runner
  left := hleft
  right := hright
  found :=
    Or.inr ⟨d₁, opening, find_put s id d₁, find_put s' id _, hopening ▸ h.known hd hd'⟩
  below := h.below

/-- What is listed of the document is the same. -/
theorem listed (h : Mirror id marks s s') :
    s'.list.find? (·.id = id) = s.list.find? (·.id = id) := by
  rw [find?_list, find?_list]
  rcases h.found with ⟨hnone, hnone'⟩ | ⟨d, opening, hd, hd', -⟩
  · rw [(find_eq_error_iff.mp hnone).2, (find_eq_error_iff.mp hnone').2]
  · rw [find_eq_ok_iff.mp hd, find_eq_ok_iff.mp hd']
    rfl

/-- Both call a validator for a request about the document, and both passes are marked. -/
theorem launch (h : Mirror id marks s s') {started : Service} {pass : Pass} {path : Text}
    (hspares : request.spares id = true)
    (hlaunch : s.launch request = some (started, pass, path)) :
    pass.id = id ∧ ∃ started' opening,
      s'.launch request = some (started', ⟨id, opening, pass.generation⟩, path) ∧
        Mirror id ((pass.opening, opening) :: marks) started started' := by
  obtain ⟨id₁, rfl, hstart⟩ := launch_eq_some_iff.mp hlaunch
  obtain rfl : id₁ = id := by simpa [Request.spares, Request.about] using hspares
  rcases h.found with ⟨hnone, -⟩ | ⟨d, opening, hd, hd', -⟩
  · cases (startPass_of_find_error hnone none).symm.trans hstart
  · have hneeds : (Request.validate id₁ none).needs = some id₁ := rfl
    rcases local_request s.settings d hneeds with ⟨path₁, hlocal⟩ | ⟨d₁, answer, hlocal⟩
    · have hlaunch₁ := (hlocal s d.opening rfl hd).symm.trans hlaunch
      obtain ⟨rfl, rfl, rfl⟩ := by simpa using hlaunch₁
      have hlaunch' := hlocal s' opening h.settings hd'
      obtain ⟨_, _, hmove⟩ := exists_move_of_launch hlaunch
      obtain ⟨_, _, hmove'⟩ := exists_move_of_launch hlaunch'
      exact ⟨rfl, _, opening, hlaunch',
        (h.mark hd hd').put hd hd' rfl (hmove.sound h.left) (hmove'.sound h.right)⟩
    · cases (hlocal s d.opening rfl hd).1.symm.trans hlaunch

/-- Both answer a request alike that calls no validator and is about no other document. -/
theorem answer_needs (h : Mirror id marks s s') (hneeds : request.needs = some id)
    (hlaunch : s.launch request = none) :
    s'.launch request = none ∧
      (machine.answer s' request).2 = (machine.answer s request).2 ∧
        Mirror id marks (machine.answer s request).1 (machine.answer s' request).1 := by
  rcases h.found with ⟨hnone, hnone'⟩ | ⟨d, opening, hd, hd', -⟩
  · rw [answer_of_find_error hneeds hnone, answer_of_find_error hneeds hnone']
    exact ⟨launch_of_find_error hneeds hnone', rfl, h⟩
  · rcases local_request s.settings d hneeds with ⟨path, hlocal⟩ | ⟨d₁, answer, hlocal⟩
    · cases (hlocal s d.opening rfl hd).symm.trans hlaunch
    · obtain ⟨-, hanswer⟩ := hlocal s d.opening rfl hd
      obtain ⟨hlaunch', hanswer'⟩ := hlocal s' opening h.settings hd'
      obtain ⟨_, _, hmove⟩ := exists_move_of_not_launch hlaunch
      obtain ⟨_, _, hmove'⟩ := exists_move_of_not_launch hlaunch'
      have hleft := hmove.sound h.left
      have hright := hmove'.sound h.right
      rw [hanswer] at hleft ⊢
      rw [hanswer'] at hright ⊢
      exact ⟨hlaunch', rfl, h.put hd hd' rfl hleft hright⟩

/-- The document is opened in both. -/
theorem openDocument (h : Mirror id marks s s') (text : Text) (path : Option Text) :
    (s'.openDocument id text path).2 = (s.openDocument id text path).2 ∧
      Mirror id marks (s.openDocument id text path).1 (s'.openDocument id text path).1 := by
  have hmove : Move [] s id (s.openDocument id text path).1 true := .opened text path
  have hmove' : Move [] s' id (s'.openDocument id text path).1 true := .opened text path
  -- the new openings are those of no mark
  have hmarks : ∀ mark ∈ marks, s.openings = mark.1 ↔ s'.openings = mark.2 := by
    intro mark hmark
    obtain ⟨hlt, hlt'⟩ := h.below mark hmark
    exact iff_of_false (Nat.ne_of_gt hlt) (Nat.ne_of_gt hlt')
  refine ⟨rfl, ?_⟩
  exact { settings := h.settings, ownsValidator := h.ownsValidator, runner := h.runner,
          left := hmove.sound h.left, right := hmove'.sound h.right,
          found := Or.inr ⟨_, s'.openings, Move.find_opened text path,
            Move.find_opened text path, hmarks⟩,
          below := fun mark hmark =>
            ⟨Nat.lt_succ_of_lt (h.below mark hmark).1, Nat.lt_succ_of_lt (h.below mark hmark).2⟩ }

/-- The document is closed in both. -/
theorem close (h : Mirror id marks s s') : Mirror id marks (s.close id) (s'.close id) := by
  have hmove : Move [] s id (s.close id) true := .closed
  have hmove' : Move [] s' id (s'.close id) true := .closed
  exact { settings := h.settings, ownsValidator := h.ownsValidator, runner := h.runner,
          left := hmove.sound h.left, right := hmove'.sound h.right,
          found := Or.inl ⟨Move.find_closed h.left, Move.find_closed h.right⟩,
          below := h.below }

/-- Both are given the same settings. -/
theorem configure (h : Mirror id marks s s') (settings : Settings) :
    Mirror id marks (s.configure settings) (s'.configure settings) := by
  have hmove : Move [] s id (s.configure settings) false := .configured settings
  have hmove' : Move [] s' id (s'.configure settings) false := .configured settings
  have hrunner : (s'.configure settings).runner = (s.configure settings).runner := by
    rw [Service.configure, Service.configure, h.ownsValidator, h.runner]
  exact { settings := rfl, ownsValidator := h.ownsValidator, runner := hrunner,
          left := hmove.sound h.left, right := hmove'.sound h.right,
          found := h.found, below := h.below }

/-- **Both answer a request alike** that calls no validator, if it is addressed to the
document. -/
theorem answer (h : Mirror id marks s s') (hspares : request.spares id = true)
    (hlaunch : s.launch request = none) :
    s'.launch request = none ∧
      (request.about = some id →
        (machine.answer s' request).2 = (machine.answer s request).2) ∧
        Mirror id marks (machine.answer s request).1 (machine.answer s' request).1 := by
  cases hneeds : request.needs with
  | some id₁ =>
    obtain rfl : id₁ = id := by simpa [Request.spares, about_of_needs hneeds] using hspares
    obtain ⟨hlaunch', hanswer, hnext⟩ := h.answer_needs hneeds hlaunch
    exact ⟨hlaunch', fun _ => hanswer, hnext⟩
  | none =>
    cases request with
    | openDocument id₁ text path =>
      obtain rfl : id₁ = id := by simpa [Request.spares, Request.about] using hspares
      obtain ⟨hanswer, hnext⟩ := h.openDocument text path
      exact ⟨rfl, fun _ => congrArg (Except.ok ∘ Answer.summary) hanswer, hnext⟩
    | close id₁ =>
      obtain rfl : id₁ = id := by simpa [Request.spares, Request.about] using hspares
      exact ⟨rfl, fun _ => rfl, h.close⟩
    | list => exact ⟨rfl, fun habout => (by cases habout), h⟩
    | complete before => exact ⟨rfl, fun habout => (by cases habout), h⟩
    | configure settings => exact ⟨rfl, fun habout => (by cases habout), h.configure settings⟩
    | _ => cases hneeds

/-- **Both take a report alike** to a pass that is marked. -/
theorem finishPass {opening opening' : Nat} (h : Mirror id ((opening, opening') :: marks) s s')
    (generation : Nat) (report : Report) :
    (s'.finishPass ⟨id, opening', generation⟩ report).2 =
        (s.finishPass ⟨id, opening, generation⟩ report).2 ∧
      Mirror id marks (s.finishPass ⟨id, opening, generation⟩ report).1
        (s'.finishPass ⟨id, opening', generation⟩ report).1 := by
  rcases h.found with ⟨hnone, hnone'⟩ | ⟨d, o, hd, hd', -⟩
  · have hleft : s.finishPass ⟨id, opening, generation⟩ report =
        (s, .error (.unknownDocument id)) := finishPass_of_find_error report hnone
    have hright : s'.finishPass ⟨id, opening', generation⟩ report =
        (s', .error (.unknownDocument id)) := finishPass_of_find_error report hnone'
    rw [hleft, hright]
    exact ⟨rfl, h.unmark⟩
  · have hknown := h.known hd hd' _ List.mem_cons_self
    by_cases hopening : d.opening = opening
    · obtain ⟨_, _, hmove⟩ := exists_move_finishPass s ⟨id, opening, generation⟩ report
      obtain ⟨_, _, hmove'⟩ := exists_move_finishPass s' ⟨id, opening', generation⟩ report
      have hleft := hmove.sound h.left
      have hright := hmove'.sound h.right
      rw [finishPass_of_opening hd hopening] at hleft ⊢
      rw [finishPass_of_opening hd' (hknown.mp hopening), conclude_renumber] at hright ⊢
      exact ⟨rfl, h.unmark.put hd hd' (d.conclude_fields generation report).2.2.1 hleft hright⟩
    · rw [finishPass_of_opening_ne hd hopening,
        finishPass_of_opening_ne hd' (fun heq => hopening (hknown.mpr heq))]
      exact ⟨rfl, h.unmark⟩

/-- Both go by the same report. -/
theorem reported (h : Mirror id marks s s') (report : Report) (outcome : Outcome) :
    s'.reported report outcome = s.reported report outcome := by
  rw [Service.reported, Service.reported, h.runner]

end Mirror

/-! ## Runs -/

section Only
variable {s started : Service} {id : Text} {request : Request} {pass : Pass} {path : Text}
  (report : Report) (outcome : Outcome) (during : List Step)

theorem only_of_not_launch (hlaunch : s.launch request = none) :
    only id (.mk request report outcome during) s =
      if request.spares id then [.mk request report outcome []] else [] := by
  simp only [only, hlaunch]

theorem only_of_launch (hlaunch : s.launch request = some (started, pass, path)) :
    only id (.mk request report outcome during) s =
      if request.spares id then [.mk request report outcome (onlyAll id during started)]
      else onlyAll id during started := by
  simp only [only, hlaunch]

theorem onlyAll_cons (id : Text) (step : Step) (steps : List Step) (s : Service) :
    onlyAll id (step :: steps) s = only id step s ++ onlyAll id steps (perform step s).2 := rfl

/-- What is seen of a step that calls a validator: what is seen of the steps during it, and its
answer. -/
theorem filterMap_seen_launched (notes : List Note) (note : Note) :
    (started.spawned path ++ notes ++ [note]).filterMap (Note.seen id) =
      notes.filterMap (Note.seen id) ++ (note.seen id).toList := by
  have hspawned : (started.spawned path).filterMap (Note.seen id) = [] := by
    unfold spawned
    cases started.runner <;> rfl
  rw [List.filterMap_append, List.filterMap_append, hspawned, List.nil_append]
  cases hseen : note.seen id <;> simp [hseen]

theorem seen_of_not_spares (hspares : request.spares id = false) (answer : Result Answer)
    (listed : List Summary) : (Note.answered request answer listed).seen id = none := by
  rw [Note.seen, hspares]
  rfl

/-- Two answers that are seen alike. -/
theorem seen_congr {answer answer' : Result Answer} {listed listed' : List Summary}
    (hanswer : request.about = some id → answer' = answer)
    (hlisted : listed'.find? (·.id = id) = listed.find? (·.id = id)) :
    (Note.answered request answer' listed').seen id =
      (Note.answered request answer listed).seen id := by
  rw [Note.seen, Note.seen, hlisted]
  by_cases habout : request.about = some id
  · rw [hanswer habout]
  · simp only [habout, if_false]

/-- The pass of a request is one on the document that the request is addressed to. -/
theorem about_of_launch (hlaunch : s.launch request = some (started, pass, path)) :
    request.about = some pass.id := by
  obtain ⟨id₁, rfl, hstart⟩ := launch_eq_some_iff.mp hlaunch
  cases hd : s.find id₁ with
  | error e => cases (startPass_of_find_error hd none).symm.trans hstart
  | ok d =>
    rcases startPass_cases hd none with ⟨_, hnone, -⟩ | ⟨_, -, -, he⟩ | ⟨-, he⟩ | he
    · cases hnone
    · cases he.symm.trans hstart
      rfl
    · cases he.symm.trans hstart
    · cases he.symm.trans hstart

end Only

mutual
/-- What is left of a step shows the same of the document as the whole step. -/
theorem only_perform (id : Text) (step : Step) {marks : List (Nat × Nat)} {s s' : Service}
    (h : Mirror id marks s s') :
    (performAll (only id step s) s').1.filterMap (Note.seen id) =
        (perform step s).1.filterMap (Note.seen id) ∧
      Mirror id marks (perform step s).2 (performAll (only id step s) s').2 := by
  obtain ⟨request, report, outcome, during⟩ := step
  cases hlaunch : s.launch request with
  | none =>
    rw [perform_of_not_launch report outcome during hlaunch,
      only_of_not_launch report outcome during hlaunch]
    cases hspares : request.spares id with
    | true =>
      obtain ⟨hlaunch', hanswer, hnext⟩ := h.answer hspares hlaunch
      rw [if_pos rfl, performAll_singleton, perform_of_not_launch report outcome [] hlaunch']
      refine ⟨?_, hnext⟩
      rw [List.filterMap_cons, List.filterMap_cons, seen_congr hanswer hnext.listed]
    | false =>
      obtain ⟨_, _, hmove⟩ := exists_move_of_not_launch hlaunch
      rw [if_neg Bool.false_ne_true, performAll_nil, List.filterMap_cons,
        seen_of_not_spares hspares]
      exact ⟨rfl, h.elsewhere (elsewhere_answer hspares hlaunch) (hmove.sound h.left)⟩
  | some launched =>
    obtain ⟨started, ⟨id₁, opening, generation⟩, path⟩ := launched
    rw [perform_of_launch report outcome during hlaunch,
      only_of_launch report outcome during hlaunch]
    cases hspares : request.spares id with
    | true =>
      obtain ⟨rfl, started', opening', hlaunch', hstarted⟩ := h.launch hspares hlaunch
      obtain ⟨hinner, hback⟩ := onlyAll_performAll id₁ during hstarted
      obtain ⟨hanswer, hnext⟩ := hback.finishPass generation (started.reported report outcome)
      rw [if_pos rfl, performAll_singleton, perform_of_launch report outcome _ hlaunch',
        hstarted.reported]
      refine ⟨?_, hnext⟩
      rw [filterMap_seen_launched, filterMap_seen_launched, hinner, hanswer,
        seen_congr (fun _ => rfl) hnext.listed]
    | false =>
      have hne : id₁ ≠ id := by
        intro hid
        simp [Request.spares, about_of_launch hlaunch, hid] at hspares
      -- the pass starts and ends on another document
      obtain ⟨d, -, -, rfl, -, -⟩ := launch_cases hlaunch
      obtain ⟨_, _, hmove⟩ := exists_move_of_launch hlaunch
      have hstarted := h.elsewhere (Elsewhere.put hne d.start) (hmove.sound h.left)
      obtain ⟨hinner, hback⟩ := onlyAll_performAll id during hstarted
      obtain ⟨_, _, hfinish⟩ := exists_move_finishPass (performAll during _).2
        ⟨id₁, opening, generation⟩ ((s.put id₁ d.start).reported report outcome)
      rw [if_neg Bool.false_ne_true, filterMap_seen_launched, seen_of_not_spares hspares,
        Option.toList_none, List.append_nil]
      exact ⟨hinner, hback.elsewhere (elsewhere_finishPass hne _) (hfinish.sound hback.left)⟩
termination_by structural step

/-- What is left of steps shows the same of the document as all the steps. -/
theorem onlyAll_performAll (id : Text) (steps : List Step) {marks : List (Nat × Nat)}
    {s s' : Service} (h : Mirror id marks s s') :
    (performAll (onlyAll id steps s) s').1.filterMap (Note.seen id) =
        (performAll steps s).1.filterMap (Note.seen id) ∧
      Mirror id marks (performAll steps s).2 (performAll (onlyAll id steps s) s').2 := by
  cases steps with
  | nil => exact ⟨rfl, h⟩
  | cons step steps =>
    obtain ⟨hfirst, hmirror⟩ := only_perform id step h
    obtain ⟨hlater, hend⟩ := onlyAll_performAll id steps hmirror
    rw [onlyAll_cons, performAll_append, performAll_cons, List.filterMap_append,
      List.filterMap_append, hfirst, hlater]
    exact ⟨rfl, hend⟩
termination_by structural steps
end

mutual
/-- What is left of a step is addressed to no other document. -/
theorem spares_only (id : Text) (step : Step) (s : Service) :
    sparesAll id (only id step s) = true := by
  obtain ⟨request, report, outcome, during⟩ := step
  cases hlaunch : s.launch request with
  | none =>
    rw [only_of_not_launch report outcome during hlaunch]
    split_ifs with hspares
    · simp [sparesAll, spares, hspares]
    · rfl
  | some launched =>
    obtain ⟨started, pass, path⟩ := launched
    have hinner := spares_onlyAll id during started
    rw [only_of_launch report outcome during hlaunch]
    split_ifs with hspares
    · simp [sparesAll, spares, hspares, hinner]
    · exact hinner
termination_by structural step

/-- What is left of steps is addressed to no other document. -/
theorem spares_onlyAll (id : Text) (steps : List Step) (s : Service) :
    sparesAll id (onlyAll id steps s) = true := by
  cases steps with
  | nil => rfl
  | cons step steps =>
    rw [onlyAll_cons, sparesAll_append, spares_only id step s,
      spares_onlyAll id steps (perform step s).2]
    rfl
termination_by structural steps
end

/-- **Documents do not interfere.**  In every run, with steps made during other steps, let the
steps be deleted that are addressed to other documents than the one with a name.  No such step is
left, and all that is seen of the document stays as it was: which steps are made that are
addressed to no other one, in which order, what is answered to those on it, and what is listed of
it after each. -/
theorem documents_independent (settings : Settings) (owns : Bool) (id : Text)
    (steps : List Step) :
    let s := initial settings owns
    let left := onlyAll id steps s
    sparesAll id left = true ∧
      (performAll left s).1.filterMap (Note.seen id) =
        (performAll steps s).1.filterMap (Note.seen id) := by
  intro s left
  have hstart : Mirror id [] s s :=
    { settings := rfl, ownsValidator := rfl, runner := rfl
      left := sound_initial settings owns, right := sound_initial settings owns
      found := Or.inl ⟨rfl, rfl⟩
      below := fun _ hmark => by cases hmark }
  exact ⟨spares_onlyAll id steps s, (onlyAll_performAll id steps hstart).1⟩

/-- While the validator of another document runs, a document is edited and validated, and the
other one is opened anew meanwhile: three of the six steps are left. -/
example :
    let a := Text.ofString "a"
    let b := Text.ofString "b"
    let file := some (Text.ofString "s.lumos")
    let step (request : Request) (during : List Step) := Step.mk request (.ok none) .notFound during
    let steps := [step (.openDocument a [] file) [], step (.openDocument b [] file) [],
      step (.validate b none)
        [step (.update a a) [], step (.validate a none) [step (.openDocument b b none) []]]]
    let s := initial {} true
    (onlyAll a steps s).length = 3 ∧
      ((performAll steps s).1.filterMap (Note.seen a)).map (·.1) =
        [.openDocument a [] file, .update a a, .validate a none] := by
  decide

end Service

end SchemaEditor
