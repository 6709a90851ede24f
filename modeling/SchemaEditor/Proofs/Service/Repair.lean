import SchemaEditor.Proofs.QuickFix.Mark
import SchemaEditor.Proofs.Service.Move

/-!
# Repairing a document

An editor can repair a document by rounds: it reports the output of a validator, applies
the first fix for the first diagnostic, and starts again (`Service.round`).  If the output
asks for a mark, a round puts the mark into the first line that may lack it and leaves the
other lines alone (`round_repairs`).  With that line the number of lines that may lack the
mark goes down by one, so after as many rounds as there were such lines none is left, and
each of them has been given the mark (`rounds_repair`).

The lines must have no carriage return in them: the text is read anew after every fix, and a
carriage return at the end of a line would be taken for a part of the line ending.  A round
keeps that, and it keeps what all the rounds are to come to, namely the lines with every
one repaired that may lack the mark (`Standing`).
-/

namespace SchemaEditor

/-! ## Documents are read -/

theorem Change.regular {running : List Pass} {id : Text} {d d' : OpenDocument} {b : Bool}
    (h : Change running id d d' b) (hd : d.document.Regular) : d'.document.Regular := by
  cases h with
  | updated text => exact Document.regular_ofText text d.document.path
  | fixed fix => exact Document.regular_ofText _ d.document.path
  | reported output =>
    rw [(OpenDocument.conclude_fields _ _ _).1]
    exact hd
  | concluded report _ _ _ =>
    rw [(OpenDocument.conclude_fields _ _ _).1]
    exact hd
  | _ => exact hd

/-- The document once an output has been reported for it. -/
def OpenDocument.reported (d : OpenDocument) (output : Text) : OpenDocument :=
  d.start.conclude (d.session.generation + 1) (.ok (some output))

theorem OpenDocument.reported_eq (d : OpenDocument) (output : Text) :
    d.reported output =
      { d with
        session := ⟨d.session.generation + 1, diagnose (some output) d.document.lines⟩
        fixes := [] } := by
  have haccepts : d.start.session.accepts ((d.session.generation + 1 : Nat) : Int) = true :=
    Session.accepts_iff.mpr rfl
  unfold reported conclude Session.publish
  simp only [haccepts, if_true]
  rfl

namespace Service
variable {s : Service} {t : Traffic Service} {id : Text} {d : OpenDocument}

theorem Reachable.regular (h : Reachable t) (hd : t.service.find id = .ok d) :
    d.document.Regular :=
  h.open_induction (P := fun d => d.document.Regular)
    (fun text path _ => Document.regular_ofText text path) (fun hchange => hchange.regular) hd

/-! ## One round -/

/-- A round of the repair: an output is reported, and the first fix for the first
diagnostic is applied. -/
def round (id output : Text) : List Event :=
  [.ask (.validate id (some output)), .ask (.applyFix id 0 0)]

/-- A number of rounds with the same output. -/
def rounds (id output : Text) (k : Nat) : List Event :=
  (List.replicate k (round id output)).flatten

theorem rounds_succ (id output : Text) (k : Nat) :
    rounds id output (k + 1) = rounds id output k ++ round id output := by
  simp [rounds, List.replicate_succ']

theorem step_validate_output (hd : t.service.find id = .ok d) (output : Text) :
    machine.step t (.ask (.validate id (some output))) =
      (⟨t.service.put id (d.reported output), t.running⟩,
        .answered (.ok (.diagnostics (d.reported output).session.diagnostics))) := by
  have hlaunch : machine.launch t.service (.validate id (some output)) = none := rfl
  have hstart : t.service.startPass id (some output) = (t.service.put id d.start,
      .ok (.reported ⟨id, d.opening, d.session.generation + 1⟩ output)) := by
    simp only [startPass, hd]
    rfl
  have hfinish := finishPass_reported t.service id d output
  rw [Machine.step_ask_of_not_launch (m := machine) hlaunch]
  simp only [machine, handle, validate, hstart, finishPass_answer, hfinish, diagnosticsOf,
    find_put]
  rfl

/-- The first fix for the first diagnostic is applied as it is proposed. -/
theorem applyFix_first (hd : s.find id = .ok d) (hkept : d.fixes = []) {diagnostic : Diagnostic}
    {others : List Diagnostic} (hdiagnostics : d.session.diagnostics = diagnostic :: others)
    {fix : QuickFix} {fixes : List QuickFix}
    (hproposed : proposeFixes diagnostic d.document.lines = fix :: fixes) :
    s.applyFix id 0 0 = (s.put id (d.applyFix fix),
      .ok ⟨(d.applyFix fix).summary id, 0, fix, (d.applyFix fix).document.text⟩) := by
  have hfixes : s.fixesFor id 0 = (s.put id (d.keep 0 diagnostic), .ok (fix :: fixes)) := by
    simp [fixesFor, hd, hkept, hdiagnostics, hproposed, OpenDocument.keep]
  simp only [applyFix, hfixes, find_put, put_put]
  rfl

section Repair
variable {output message : Text} {mark : Mark}

/-- What a round does to a document whose first line without the mark is known. -/
theorem run_round (hd : t.service.find id = .ok d) {diagnostic : Diagnostic}
    (hdiagnose : diagnose (some output) d.document.lines = [diagnostic]) {fix : QuickFix}
    {fixes : List QuickFix} (hproposed : proposeFixes diagnostic d.document.lines = fix :: fixes) :
    (∀ reply ∈ machine.replies t (round id output), ∃ answer, reply = .answered (.ok answer)) ∧
      (machine.run t (round id output)).service.find id =
        .ok ((d.reported output).applyFix fix) := by
  have happly := applyFix_first (find_put t.service id (d.reported output))
    (by rw [d.reported_eq]) (by rw [d.reported_eq]; exact hdiagnose)
    (by rw [d.reported_eq]; exact hproposed)
  refine ⟨fun reply hreply => ?_, ?_⟩
  · simp only [round, Machine.replies, step_validate_output hd, step_applyFix, happly,
      List.mem_cons, List.not_mem_nil, or_false] at hreply
    rcases hreply with rfl | rfl
    · exact ⟨_, rfl⟩
    · exact ⟨_, rfl⟩
  · simp only [round, Machine.run_cons, Machine.run_nil, step_validate_output hd, step_applyFix,
      happly, find_put]

/-- **A round of the repair** succeeds as long as a line may lack the mark.  It gives the
mark to the first such line and leaves the others and the line ending alone. -/
theorem round_repairs (ht : Reachable t) (hd : t.service.find id = .ok d)
    (hreturn : ∀ l ∈ d.document.lines, .char '\r' ∉ l)
    (hmessage : Message.extract? output = some message) (hasked : mark.isAsked message = true)
    (hleft : d.document.lines.countP mark.isMissing ≠ 0) :
    (∀ reply ∈ machine.replies t (round id output), ∃ answer, reply = .answered (.ok answer)) ∧
      ∃ d', (machine.run t (round id output)).service.find id = .ok d' ∧
        mark.RepairsFirst d.document.lines d'.document.lines ∧
          d'.document.eol = d.document.eol := by
  obtain ⟨before, line, after, hlines, hbefore, hline⟩ := Mark.exists_first hleft
  obtain ⟨diagnostic, fix, fixes, hdiagnose, hproposed, hpatch⟩ :=
    Mark.exists_diagnostic hmessage hasked hbefore hline after
  rw [← hlines] at hdiagnose hproposed
  obtain ⟨hgranted, hfind⟩ := run_round hd hdiagnose hproposed
  have hdocument : ((d.reported output).applyFix fix).document = d.document.apply fix.patch := by
    rw [d.reported_eq]
    rfl
  have hinsert := Document.apply_insert (ht.regular hd) hlines hreturn (Mark.column_le hline)
    mark.sign_ne_feed mark.sign_ne_return
  -- the column of the patch is the one that the rule has found in the line
  rw [← hpatch, ← hdocument] at hinsert
  exact ⟨hgranted, _, hfind, ⟨before, line, after, hlines, hbefore, hline, hinsert.1⟩, hinsert.2⟩

/-! ## All rounds -/

/-- Where the repair of a document stands after a number of rounds. -/
structure Standing (mark : Mark) (original : Document) (id : Text) (k : Nat)
    (t : Traffic Service) (d : OpenDocument) : Prop where
  reachable : Reachable t
  find : t.service.find id = .ok d
  noReturn : ∀ l ∈ d.document.lines, .char '\r' ∉ l
  /-- Every round has repaired a line. -/
  left : d.document.lines.countP mark.isMissing + k = original.lines.countP mark.isMissing
  /-- What the rounds are to come to. -/
  goal : d.document.lines.map mark.repair = original.lines.map mark.repair
  eol : d.document.eol = original.eol

/-- **One more round.** -/
theorem Standing.round {original : Document} {k : Nat} (h : Standing mark original id k t d)
    (hmessage : Message.extract? output = some message) (hasked : mark.isAsked message = true)
    (hk : k < original.lines.countP mark.isMissing) :
    (∀ reply ∈ machine.replies t (round id output), ∃ answer, reply = .answered (.ok answer)) ∧
      ∃ d', Standing mark original id (k + 1) (machine.run t (Service.round id output)) d' ∧
        mark.RepairsFirst d.document.lines d'.document.lines := by
  have hleft := h.left
  obtain ⟨hgranted, d', hfind, hrepairs, heol⟩ :=
    round_repairs h.reachable h.find h.noReturn hmessage hasked (by omega)
  have hcount := hrepairs.countP_eq
  refine ⟨hgranted, d', ⟨h.reachable.run _, hfind, hrepairs.noReturn h.noReturn, ?_, ?_, ?_⟩,
    hrepairs⟩
  · omega
  · rw [hrepairs.map_repair, h.goal]
  · rw [heol, h.eol]

theorem exists_standing (ht : Reachable t) (hd : t.service.find id = .ok d)
    (hreturn : ∀ l ∈ d.document.lines, .char '\r' ∉ l)
    (hmessage : Message.extract? output = some message) (hasked : mark.isAsked message = true)
    {k : Nat} (hk : k ≤ d.document.lines.countP mark.isMissing) :
    ∃ d', Standing mark d.document id k (machine.run t (rounds id output k)) d' := by
  induction k with
  | zero => exact ⟨d, ht, hd, hreturn, rfl, rfl, rfl⟩
  | succ k ih =>
    obtain ⟨d', hstanding⟩ := ih (Nat.le_of_succ_le hk)
    obtain ⟨-, d'', hnext, -⟩ := hstanding.round hmessage hasked hk
    rw [rounds_succ, Machine.run_append]
    exact ⟨d'', hnext⟩

/-- **Rounds of reporting and fixing repair a document**, if what is reported asks for a
mark.  There are as many rounds as there are lines that may lack the mark, and all of them
succeed.  Each puts the mark into the first line that may still lack it, and into nothing
else; in the end no line lacks it, and the other lines and the line ending are as they
were. -/
theorem rounds_repair (ht : Reachable t) (hd : t.service.find id = .ok d)
    (hreturn : ∀ l ∈ d.document.lines, .char '\r' ∉ l)
    (hmessage : Message.extract? output = some message) (hasked : mark.isAsked message = true) :
    let n := d.document.lines.countP mark.isMissing
    let after k := machine.run t (rounds id output k)
    (∀ k < n,
      (∀ reply ∈ machine.replies (after k) (round id output),
        ∃ answer, reply = .answered (.ok answer)) ∧
      ∃ d₁ d₂, (after k).service.find id = .ok d₁ ∧ (after (k + 1)).service.find id = .ok d₂ ∧
        mark.RepairsFirst d₁.document.lines d₂.document.lines ∧
          d₂.document.eol = d₁.document.eol) ∧
      ∃ d', (after n).service.find id = .ok d' ∧
        d'.document.lines = d.document.lines.map mark.repair ∧
          d'.document.eol = d.document.eol ∧
            ∀ l ∈ d'.document.lines, mark.isMissing l = false := by
  intro n after
  refine ⟨fun k hk => ?_, ?_⟩
  · obtain ⟨d₁, h₁⟩ := exists_standing ht hd hreturn hmessage hasked (Nat.le_of_lt hk)
    obtain ⟨hgranted, d₂, h₂, hrepairs⟩ := h₁.round hmessage hasked hk
    have hafter : after (k + 1) = machine.run (after k) (round id output) := by
      simp only [after, rounds_succ, Machine.run_append]
    exact ⟨hgranted, d₁, d₂, h₁.find, hafter ▸ h₂.find, hrepairs, h₂.eol.trans h₁.eol.symm⟩
  · obtain ⟨d', h⟩ := exists_standing ht hd hreturn hmessage hasked (Nat.le_refl n)
    have hnone : d'.document.lines.countP mark.isMissing = 0 := Nat.add_eq_right.mp h.left
    have hlines := (Mark.map_repair_of_countP hnone).symm.trans h.goal
    refine ⟨d', h.find, hlines, h.eol, fun l hl => ?_⟩
    obtain ⟨line, -, rfl⟩ := List.mem_map.mp (hlines ▸ hl)
    exact mark.isMissing_repair line

/-- Two fields get their colons in two rounds, and the line ending stays. -/
theorem rounds_repair_fields :
    let id := Text.ofString "a"
    let text := Text.ofString "struct A \x7b\r\n  owner PublicKey\r\n  size  u64 \r\n\x7d"
    let output := Text.ofString "error: Missing colon"
    let message := Text.ofString "Missing colon"
    let t := machine.run (idleTraffic {} false) [.ask (.openDocument id text none)]
    Reachable t ∧ Message.extract? output = some message ∧ Mark.colon.isAsked message = true ∧
      ∃ d', (machine.run t (rounds id output 2)).service.find id = .ok d' ∧
        d'.document.eol = Document.crlf ∧
          d'.document.lines = [Text.ofString "struct A \x7b", Text.ofString "  owner: PublicKey",
            Text.ofString "  size:  u64 ", Text.ofString "\x7d"] := by
  intro id text output message t
  have ht : Reachable t := ⟨_, _, _, rfl⟩
  have hd : t.service.find id = .ok (.opened (Document.ofText text none) 0) :=
    Move.find_opened text none
  have hreturn : ∀ l ∈ (Document.ofText text none).lines, .char '\r' ∉ l := by decide
  have hmessage : Message.extract? output = some message := by decide
  have hasked : Mark.colon.isAsked message = true := by decide
  have htwo : (Document.ofText text none).lines.countP Mark.colon.isMissing = 2 := by
    decide
  obtain ⟨-, d', hfind, hlines, heol, -⟩ := rounds_repair ht hd hreturn hmessage hasked
  refine ⟨ht, hmessage, hasked, d', htwo ▸ hfind, heol.trans ?_, hlines.trans ?_⟩
  · decide
  · decide

end Repair

end Service

end SchemaEditor
