import SchemaEditor.Proofs.Service.AppliedOnce
import SchemaEditor.Proofs.Service.Indistinct

/-!
# Requests that are refused

A request is refused if it is about a document that is not open, or about a diagnostic or a fix
that is not there (`Refused`); and if nothing else happens while it is answered, it is refused
for no other reason (`handle_error_iff`).

A refusal leaves the service as it was, with one exception: a request to apply a fix that is not
there has asked for the fixes of its diagnostic, which are kept (`answer_of_error`).  Nobody can
tell (`indistinct_of_error`).
-/

namespace SchemaEditor

/-- The document that must be open for a request. -/
def Request.needs : Request → Option Text
  | .update id _ => some id
  | .text id => some id
  | .lines id => some id
  | .format id _ => some id
  | .validate id _ => some id
  | .diagnostics id => some id
  | .fixes id _ => some id
  | .applyFix id _ _ => some id
  | _ => none

/-- The document and the number of the diagnostic that must be there for a request. -/
def Request.points : Request → Option (Text × Int)
  | .fixes id index => some (id, index)
  | .applyFix id index _ => some (id, index)
  | _ => none

/-- A host that does nothing to the service while a validator runs. -/
structure Host.Quiet {σ : Type} (host : Host σ) : Prop where
  validate : ∀ path world, (host.validate path world).2.2 = world.2
  spawn : ∀ call world, (host.spawn call world).2.2 = world.2

namespace Service

/-- Why a request is refused. -/
inductive Refused (s : Service) : Request → ServiceError → Prop
  | unknownDocument {request : Request} {id : Text} (hneeds : request.needs = some id)
      (h : Entries.find? id s.documents = none) : Refused s request (.unknownDocument id)
  | negativeDiagnostic {request : Request} {id : Text} {index : Int} {d : OpenDocument}
      (hpoints : request.points = some (id, index)) (hd : s.find id = .ok d) (h : index < 0) :
      Refused s request (.negativeDiagnostic index)
  | noDiagnostic {request : Request} {id : Text} {index : Int} {d : OpenDocument}
      (hpoints : request.points = some (id, index)) (hd : s.find id = .ok d) (hpos : 0 ≤ index)
      (h : d.session.diagnostics.length ≤ index.toNat) : Refused s request (.noDiagnostic index)
  | negativeFix {id : Text} {index fixIndex : Int} {d : OpenDocument} {diagnostic : Diagnostic}
      (hd : s.find id = .ok d) (hpos : 0 ≤ index)
      (hdiagnostic : d.session.diagnostics[index.toNat]? = some diagnostic) (h : fixIndex < 0) :
      Refused s (.applyFix id index fixIndex) (.negativeFix fixIndex)
  | noFix {id : Text} {index fixIndex : Int} {d : OpenDocument} {diagnostic : Diagnostic}
      (hd : s.find id = .ok d) (hpos : 0 ≤ index)
      (hdiagnostic : d.session.diagnostics[index.toNat]? = some diagnostic) (hpos' : 0 ≤ fixIndex)
      (h : (proposeFixes diagnostic d.document.lines).length ≤ fixIndex.toNat) :
      Refused s (.applyFix id index fixIndex) (.noFix fixIndex)

variable {s : Service} {id : Text} {d : OpenDocument} {e : ServiceError}

/-! ## Fixes -/

/-- What is answered when fixes are asked for. -/
theorem fixesFor_answer (hf : s.find id = .ok d) (hc : d.Coherent) (index : Int) :
    (s.fixesFor id index).2 =
      if index < 0 then .error (.negativeDiagnostic index)
      else
        match d.session.diagnostics[index.toNat]? with
        | none => .error (.noDiagnostic index)
        | some diagnostic => .ok (proposeFixes diagnostic d.document.lines) := by
  simp only [fixesFor, hf]
  split_ifs
  · rfl
  · cases hkept : Entries.find? index.toNat d.fixes with
    | some fixes =>
      -- what was kept is what is proposed now
      obtain ⟨diagnostic, hdiagnostic, rfl⟩ := hc _ (Entries.mem_of_find? hkept)
      rw [hdiagnostic]
    | none => cases d.session.diagnostics[index.toNat]? <;> rfl

theorem refused_fixes_iff (hf : s.find id = .ok d) (hc : d.Coherent) (index : Int) :
    (s.fixesFor id index).2 = .error e ↔ Refused s (.fixes id index) e := by
  rw [fixesFor_answer hf hc]
  constructor
  · intro h
    split_ifs at h with hneg
    · cases h
      exact .negativeDiagnostic rfl hf hneg
    · cases hdiagnostic : d.session.diagnostics[index.toNat]? with
      | some diagnostic =>
        rw [hdiagnostic] at h
        cases h
      | none =>
        rw [hdiagnostic] at h
        cases h
        exact .noDiagnostic rfl hf (Int.not_lt.mp hneg) (List.getElem?_eq_none_iff.mp hdiagnostic)
  · intro h
    cases h with
    | unknownDocument hneeds hnone =>
      cases hneeds
      rw [find_eq_ok_iff, hnone] at hf
      cases hf
    | negativeDiagnostic hpoints hd hneg =>
      cases hpoints
      rw [if_pos hneg]
    | noDiagnostic hpoints hd hpos hlength =>
      cases hpoints
      obtain rfl : d = _ := Except.ok.inj (hf.symm.trans hd)
      rw [if_neg (Int.not_lt.mpr hpos), List.getElem?_eq_none hlength]

theorem pick_eq_error_iff {fixes : List QuickFix} {index : Int} :
    pick fixes index = .error e ↔ index < 0 ∧ e = .negativeFix index ∨
      0 ≤ index ∧ fixes.length ≤ index.toNat ∧ e = .noFix index := by
  unfold pick
  split_ifs with hneg
  · simp [hneg, Int.not_le.mpr hneg, eq_comm]
  · cases hget : fixes[index.toNat]? with
    | none => simp [hneg, Int.not_lt.mp hneg, List.getElem?_eq_none_iff.mp hget, eq_comm]
    | some fix =>
      obtain ⟨hlt, -⟩ := List.getElem?_eq_some_iff.mp hget
      simp [hneg, Nat.not_le.mpr hlt]

/-- A request to apply a fix fails like the request for the fixes, or for the number of the
fix. -/
theorem applyFix_eq_error_iff (hf : s.find id = .ok d) (index fixIndex : Int) :
    (s.applyFix id index fixIndex).2 = .error e ↔ (s.fixesFor id index).2 = .error e ∨
      ∃ fixes, (s.fixesFor id index).2 = .ok fixes ∧ pick fixes fixIndex = .error e := by
  unfold applyFix
  rcases fixesFor_cases hf index with ⟨e', he⟩ | ⟨fixes, -, he⟩ | ⟨diagnostic, -, he⟩
  · rw [he]
    simp
  · rw [he]
    simp only [hf]
    cases hpick : pick fixes fixIndex <;> simp [hpick]
  · rw [he]
    simp only [find_put]
    cases hpick : pick (proposeFixes diagnostic d.document.lines) fixIndex <;> simp [hpick]

theorem refused_applyFix_iff (hf : s.find id = .ok d) (hc : d.Coherent) (index fixIndex : Int) :
    (s.applyFix id index fixIndex).2 = .error e ↔ Refused s (.applyFix id index fixIndex) e := by
  have hanswer := fixesFor_answer hf hc index
  rw [applyFix_eq_error_iff hf]
  constructor
  · rintro (hrefused | ⟨fixes, hfixes, hpick⟩)
    · -- the fixes are refused, and so is the request to apply one
      cases (refused_fixes_iff hf hc index).mp hrefused with
      | unknownDocument hneeds hnone => exact .unknownDocument hneeds hnone
      | negativeDiagnostic hpoints hd hneg => exact .negativeDiagnostic hpoints hd hneg
      | noDiagnostic hpoints hd hpos hlength => exact .noDiagnostic hpoints hd hpos hlength
    · rw [hfixes] at hanswer
      split_ifs at hanswer with hneg
      cases hget : d.session.diagnostics[index.toNat]? with
      | none =>
        rw [hget] at hanswer
        cases hanswer
      | some diagnostic =>
        rw [hget] at hanswer
        cases hanswer
        rcases pick_eq_error_iff.mp hpick with ⟨hneg', rfl⟩ | ⟨hpos', hlength, rfl⟩
        · exact .negativeFix hf (Int.not_lt.mp hneg) hget hneg'
        · exact .noFix hf (Int.not_lt.mp hneg) hget hpos' hlength
  · intro h
    -- the diagnostic is there if the number of the fix is to blame
    have hthere : ∀ {diagnostic : Diagnostic}, 0 ≤ index →
        d.session.diagnostics[index.toNat]? = some diagnostic →
          (s.fixesFor id index).2 = .ok (proposeFixes diagnostic d.document.lines) := by
      intro diagnostic hpos hget
      rw [hanswer, if_neg (Int.not_lt.mpr hpos), hget]
    cases h with
    | unknownDocument hneeds hnone =>
      exact Or.inl ((refused_fixes_iff hf hc index).mpr (.unknownDocument hneeds hnone))
    | negativeDiagnostic hpoints hd hneg =>
      exact Or.inl ((refused_fixes_iff hf hc index).mpr (.negativeDiagnostic hpoints hd hneg))
    | noDiagnostic hpoints hd hpos hlength =>
      exact Or.inl ((refused_fixes_iff hf hc index).mpr (.noDiagnostic hpoints hd hpos hlength))
    | negativeFix hd hpos hget hneg =>
      obtain rfl : d = _ := Except.ok.inj (hf.symm.trans hd)
      exact Or.inr ⟨_, hthere hpos hget, pick_eq_error_iff.mpr (Or.inl ⟨hneg, rfl⟩)⟩
    | noFix hd hpos hget hpos' hlength =>
      obtain rfl : d = _ := Except.ok.inj (hf.symm.trans hd)
      exact Or.inr ⟨_, hthere hpos hget, pick_eq_error_iff.mpr (Or.inr ⟨hpos', hlength, rfl⟩)⟩

/-! ## Any request -/

theorem needs_of_points {request : Request} {index : Int}
    (h : request.points = some (id, index)) : request.needs = some id := by
  cases request <;> simp_all [Request.points, Request.needs]

/-- A request for a document that is not open is refused for that, and for nothing else. -/
theorem refused_iff_of_find_error {request : Request} (hneeds : request.needs = some id)
    (hnone : s.find id = .error (.unknownDocument id)) :
    Refused s request e ↔ e = .unknownDocument id := by
  constructor
  · intro h
    -- in all other cases the document is open
    have hopen : ∀ {d : OpenDocument} {id' : Text}, request.needs = some id' →
        s.find id' ≠ .ok d := by
      rintro d id' hneeds' hd
      obtain rfl : id = id' := Option.some.inj (hneeds.symm.trans hneeds')
      cases hnone.symm.trans hd
    cases h with
    | unknownDocument hneeds' _ => rw [Option.some.inj (hneeds.symm.trans hneeds')]
    | negativeDiagnostic hpoints hd _ => exact absurd hd (hopen (needs_of_points hpoints))
    | noDiagnostic hpoints hd _ _ => exact absurd hd (hopen (needs_of_points hpoints))
    | negativeFix hd _ _ _ => exact absurd hd (hopen rfl)
    | noFix hd _ _ _ _ => exact absurd hd (hopen rfl)
  · rintro rfl
    exact .unknownDocument hneeds (find_eq_error_iff.mp hnone).2

/-- A request that points to no diagnostic is not refused if its document is open. -/
theorem not_refused_of_find_ok {request : Request} (hneeds : ∀ id, request.needs = some id →
    ∃ d, s.find id = .ok d) (hpoints : request.points = none) : ¬ Refused s request e := by
  intro h
  cases h with
  | unknownDocument hneeds' hnone =>
    obtain ⟨d, hd⟩ := hneeds _ hneeds'
    rw [find_eq_ok_iff, hnone] at hd
    cases hd
  | negativeDiagnostic hpoints' _ _ => cases hpoints.symm.trans hpoints'
  | noDiagnostic hpoints' _ _ _ => cases hpoints.symm.trans hpoints'
  | negativeFix _ _ _ _ => cases hpoints
  | noFix _ _ _ _ _ => cases hpoints

/-- The end of a pass is answered if its document is open. -/
theorem finishPass_of_find_ok {pass : Pass} (hd : s.find pass.id = .ok d) (report : Report) :
    ∃ ds, (s.finishPass pass report).2 = .ok ds := by
  rcases finishPass_cases s pass report with ⟨d', -, -, he⟩ | ⟨-, he⟩
  · rw [finishPass_answer, he, diagnosticsOf, find_put]
    exact ⟨_, rfl⟩
  · rw [finishPass_answer, he, diagnosticsOf, hd]
    exact ⟨_, rfl⟩

/-- A validation that calls no validator is refused only for want of its document. -/
theorem validate_of_find_ok {σ : Type} (host : Host σ) (env : σ) {output : Option Text}
    (hd : s.find id = .ok d) (hlaunch : s.launch (.validate id output) = none) :
    ∃ ds, (s.validate host env id output).2 = .ok ds := by
  unfold Service.validate
  rcases startPass_cases hd output with ⟨text, -, he⟩ | ⟨path, rfl, -, he⟩ | ⟨-, he⟩ | he
  · rw [he]
    exact finishPass_of_find_ok (find_put s id d.start) (.ok (some text))
  · cases (launch_validate he).symm.trans hlaunch
  · rw [he]
    exact ⟨_, rfl⟩
  · rw [he]
    exact ⟨_, rfl⟩

theorem answer_of_find_error {request : Request} (hneeds : request.needs = some id)
    (hnone : s.find id = .error (.unknownDocument id)) :
    machine.answer s request = (s, .error (.unknownDocument id)) := by
  cases request with
  | update id' text =>
    cases hneeds
    simp only [machine, handle, update, hnone]
    rfl
  | text id' =>
    cases hneeds
    simp only [machine, handle, textOf, hnone]
    rfl
  | lines id' =>
    cases hneeds
    simp only [machine, handle, linesOf, hnone]
    rfl
  | format id' options =>
    cases hneeds
    simp only [machine, handle, format, hnone]
    rfl
  | validate id' output =>
    cases hneeds
    simp only [machine, handle, Service.validate, startPass_of_find_error hnone]
    rfl
  | diagnostics id' =>
    cases hneeds
    simp only [machine, handle, diagnosticsOf, hnone]
    rfl
  | fixes id' index =>
    cases hneeds
    simp only [machine, handle, fixesFor_of_find_error hnone]
    rfl
  | applyFix id' index fixIndex =>
    cases hneeds
    simp only [machine, handle, applyFix, fixesFor_of_find_error hnone]
    rfl
  | _ => cases hneeds

/-- A request that points to no diagnostic is answered if its document is open. -/
theorem answer_of_find_ok {request : Request}
    (hneeds : ∀ id, request.needs = some id → ∃ d, s.find id = .ok d)
    (hpoints : request.points = none) (hlaunch : s.launch request = none) :
    ∃ answer, (machine.answer s request).2 = .ok answer := by
  cases request with
  | update id' text =>
    obtain ⟨d, hd⟩ := hneeds id' rfl
    simp only [machine, handle, update, hd]
    exact ⟨_, rfl⟩
  | text id' =>
    obtain ⟨d, hd⟩ := hneeds id' rfl
    simp only [machine, handle, textOf, hd]
    exact ⟨_, rfl⟩
  | lines id' =>
    obtain ⟨d, hd⟩ := hneeds id' rfl
    simp only [machine, handle, linesOf, hd]
    exact ⟨_, rfl⟩
  | format id' options =>
    obtain ⟨d, hd⟩ := hneeds id' rfl
    simp only [machine, handle, format, hd]
    exact ⟨_, rfl⟩
  | validate id' output =>
    obtain ⟨d, hd⟩ := hneeds id' rfl
    obtain ⟨ds, hds⟩ := validate_of_find_ok Host.idle () hd hlaunch
    simp only [machine, handle, hds]
    exact ⟨_, rfl⟩
  | diagnostics id' =>
    obtain ⟨d, hd⟩ := hneeds id' rfl
    simp only [machine, handle, diagnosticsOf, hd]
    exact ⟨_, rfl⟩
  | fixes id' index => cases hpoints
  | applyFix id' index fixIndex => cases hpoints
  | _ => exact ⟨_, rfl⟩

/-- **A request that calls no validator fails exactly if it is refused.** -/
theorem answer_eq_error_iff (hs : s.Consistent) {request : Request}
    (hlaunch : s.launch request = none) :
    (machine.answer s request).2 = .error e ↔ Refused s request e := by
  by_cases hopen : ∀ id, request.needs = some id → ∃ d, s.find id = .ok d
  · cases request with
    | fixes id index =>
      obtain ⟨d, hd⟩ := hopen id rfl
      rw [← refused_fixes_iff hd (hs.coherent id d hd)]
      simp only [machine, handle]
      cases (s.fixesFor id index).2 <;> simp [Except.map]
    | applyFix id index fixIndex =>
      obtain ⟨d, hd⟩ := hopen id rfl
      rw [← refused_applyFix_iff hd (hs.coherent id d hd)]
      simp only [machine, handle]
      cases (s.applyFix id index fixIndex).2 <;> simp [Except.map]
    | _ =>
      obtain ⟨answer, hanswer⟩ := answer_of_find_ok hopen rfl hlaunch
      rw [hanswer]
      exact ⟨fun h => (by cases h), fun h => absurd h (not_refused_of_find_ok hopen rfl)⟩
  · push Not at hopen
    obtain ⟨id, hneeds, hclosed⟩ := hopen
    cases hf : s.find id with
    | ok d => exact absurd hf (hclosed d)
    | error e' =>
      obtain ⟨rfl, -⟩ := find_eq_error_iff.mp hf
      rw [answer_of_find_error hneeds hf, refused_iff_of_find_error hneeds hf]
      simp [eq_comm]

/-- **A request that fails leaves the service as it was**, but that a request to apply a fix may
have kept the fixes that it asked for. -/
theorem answer_of_error {request : Request} (hlaunch : s.launch request = none)
    (h : (machine.answer s request).2 = .error e) :
    (machine.answer s request).1 = s ∨ ∃ id index fixIndex,
      request = .applyFix id index fixIndex ∧
        (machine.answer s request).1 = (s.fixesFor id index).1 := by
  by_cases hopen : ∀ id, request.needs = some id → ∃ d, s.find id = .ok d
  · cases request with
    | fixes id index =>
      obtain ⟨d, hd⟩ := hopen id rfl
      left
      simp only [machine, handle] at h ⊢
      rcases fixesFor_cases hd index with ⟨e', he⟩ | ⟨fixes, -, he⟩ | ⟨diagnostic, -, he⟩
      · rw [he]
      · rw [he] at h
        cases h
      · rw [he] at h
        cases h
    | applyFix id index fixIndex =>
      refine Or.inr ⟨id, index, fixIndex, rfl, ?_⟩
      simp only [machine, handle] at h ⊢
      rcases applyFix_cases s id index fixIndex with ⟨e', he⟩ | ⟨d, fix, applied, -, he⟩
      · rw [he]
      · rw [he] at h
        cases h
    | _ =>
      obtain ⟨answer, hanswer⟩ := answer_of_find_ok hopen rfl hlaunch
      rw [hanswer] at h
      cases h
  · push Not at hopen
    obtain ⟨id, hneeds, hclosed⟩ := hopen
    cases hf : s.find id with
    | ok d => exact absurd hf (hclosed d)
    | error e' =>
      obtain ⟨rfl, -⟩ := find_eq_error_iff.mp hf
      rw [answer_of_find_error hneeds hf]
      exact Or.inl rfl

/-! ## Calls -/

section Calls
variable {σ : Type} {host : Host σ} (env : σ) {request : Request}

theorem runValidator_of_quiet (hq : host.Quiet) (path : Text) :
    (s.runValidator host env path).2.2 = s := by
  unfold runValidator
  cases s.runner with
  | process validator => exact hq.spawn _ (env, s)
  | outside => exact hq.validate path (env, s)

/-- A pass whose document stays open while its validator runs is answered. -/
theorem handle_of_launch_quiet (hq : host.Quiet) {started : Service} {pass : Pass} {path : Text}
    (hlaunch : s.launch request = some (started, pass, path)) :
    ∃ answer, (s.handle host env request).2 = .ok answer := by
  obtain ⟨d, -, -, rfl, -, -⟩ := launch_cases hlaunch
  rw [handle_of_launch host env hlaunch, runValidator_of_quiet env hq path]
  obtain ⟨ds, hds⟩ := finishPass_of_find_ok (find_put s pass.id d.start)
    (((s.put pass.id d.start).runValidator host env path).1)
  rw [hds]
  exact ⟨_, rfl⟩

/-- **A request fails exactly if it is refused**, if nothing else happens meanwhile. -/
theorem handle_error_iff (hs : s.Consistent) (hq : host.Quiet) :
    (s.handle host env request).2 = .error e ↔ Refused s request e := by
  cases hlaunch : s.launch request with
  | none =>
    rw [handle_of_not_launch host env hlaunch]
    exact answer_eq_error_iff hs hlaunch
  | some launched =>
    obtain ⟨started, pass, path⟩ := launched
    obtain ⟨answer, hanswer⟩ := handle_of_launch_quiet env hq hlaunch
    obtain ⟨id, rfl, -⟩ := launch_eq_some_iff.mp hlaunch
    obtain ⟨d, hd, -⟩ := launch_cases hlaunch
    rw [hanswer]
    refine ⟨fun h => (by cases h), fun h => absurd h (not_refused_of_find_ok ?_ rfl)⟩
    intro id' hneeds
    cases hneeds
    cases hf : s.find id with
    | ok d => exact ⟨d, rfl⟩
    | error e' =>
      simp only [launch, startPass_of_find_error hf] at hlaunch
      cases hlaunch

/-- **A request that fails cannot be told from one that was never made**, if nothing else happens
while it is answered. -/
theorem indistinct_of_error {t : Traffic Service} (hs : t.service.Consistent) (hq : host.Quiet)
    (h : (t.service.handle host env request).2 = .error e) :
    ∃ s', (t.service.handle host env request).1 = (env, s') ∧ Indistinct t ⟨s', t.running⟩ := by
  cases hlaunch : t.service.launch request with
  | some launched =>
    obtain ⟨started, pass, path⟩ := launched
    obtain ⟨answer, hanswer⟩ := handle_of_launch_quiet env hq hlaunch
    rw [hanswer] at h
    cases h
  | none =>
    rw [handle_of_not_launch host env hlaunch] at h ⊢
    have hstep := hs.step (.ask request)
    rw [Machine.step_ask_of_not_launch (m := machine) hlaunch] at hstep
    refine ⟨_, rfl, ?_, hs, hstep⟩
    rcases answer_of_error hlaunch h with hsame | ⟨id, index, fixIndex, -, hasked⟩
    · rw [hsame]
    · rw [hasked, Traffic.map, (fixesFor_plain t.service hs.coherent id index).1]
      rfl

end Calls

end Service

end SchemaEditor
