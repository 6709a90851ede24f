import SchemaEditor.Completion
import SchemaEditor.Proofs.Text.Trim

/-!
# What the text before the cursor calls for

Four things can be offered, and the text before the cursor should decide between them by what is
open at its end (`Context.Reads`): an attribute that no bracket closes, else a colon, else
nothing visible at all, else anything.

An attribute is open if some `#[` has no `]` behind it (`Unclosed`); a reader that goes from left
to right and remembers one bit finds out (`openAfter_iff`).  `complete` does not read so.  It
asks for a `#[` and for no `]` on the whole line, wherever they stand.  The two agree unless an
attribute is open behind an earlier bracket, as in `#[solana] #[`; there the open attribute is
overlooked and the text is read on as if it was closed (`complete_context`).
-/

namespace SchemaEditor.Completion
open Text

variable {before : Text}

/-! ## Open attributes -/

/-- An attribute is opened, and no bracket behind it closes it. -/
def Unclosed (before : Text) : Prop :=
  ∃ front back, before = front ++ (Line.attributeMarker ++ back) ∧ .char ']' ∉ back

theorem unclosed_cons {c : CodePoint} {rest : Text} :
    Unclosed (c :: rest) ↔
      Unclosed rest ∨ (Line.attributeMarker <+: c :: rest ∧ .char ']' ∉ c :: rest) := by
  constructor
  · rintro ⟨_ | ⟨x, front⟩, back, hsplit, hback⟩
    · refine Or.inr ⟨⟨back, hsplit.symm⟩, ?_⟩
      rw [hsplit]
      simpa [Line.attributeMarker] using hback
    · rw [List.cons_append, List.cons.injEq] at hsplit
      exact Or.inl ⟨front, back, hsplit.2, hback⟩
  · rintro (⟨front, back, rfl, hback⟩ | ⟨⟨back, hback⟩, hclosed⟩)
    · exact ⟨c :: front, back, rfl, hback⟩
    · refine ⟨[], back, hback.symm, fun hmem => hclosed ?_⟩
      rw [← hback]
      exact List.mem_append_right _ hmem

theorem not_unclosed_nil : ¬ Unclosed [] := by
  rintro ⟨front, back, hsplit, -⟩
  simp [Line.attributeMarker] at hsplit

/-- Whether an attribute is open behind a text, if it is known whether one is open in front. -/
def openAfter (isOpen : Bool) : Text → Bool
  | [] => isOpen
  | c :: rest =>
      if c = ']' then openAfter false rest
      else openAfter (isOpen || Line.attributeMarker.isPrefixOf (c :: rest)) rest

/-- **Reading from left to right finds the open attribute**, however many were closed before. -/
theorem openAfter_iff {isOpen : Bool} :
    openAfter isOpen before = true ↔
      Unclosed before ∨ (isOpen = true ∧ .char ']' ∉ before) := by
  induction before generalizing isOpen with
  | nil => simp [openAfter, not_unclosed_nil]
  | cons c rest ih =>
    rw [openAfter, unclosed_cons]
    split_ifs with hc
    · -- a bracket closes whatever was open
      rw [ih, hc]
      simp
    · have hmem : CodePoint.char ']' ∈ c :: rest ↔ CodePoint.char ']' ∈ rest := by
        simp [Ne.symm hc]
      rw [ih, hmem, Bool.or_eq_true, List.isPrefixOf_iff_prefix, or_and_right, or_assoc,
        or_comm (b := isOpen = true ∧ _)]

instance : DecidablePred Unclosed := fun before =>
  decidable_of_iff (openAfter false before = true) (by simp [openAfter_iff])

/-- The test for an attribute looks for both brackets anywhere. -/
theorem inAttribute_iff : inAttribute before = true ↔ Unclosed before ∧ .char ']' ∉ before := by
  rw [inAttribute, Bool.and_eq_true, hasPart_iff_isInfix]
  constructor
  · rintro ⟨⟨front, back, rfl⟩, hclosed⟩
    have hclosed : CodePoint.char ']' ∉ front ++ Line.attributeMarker ++ back := by
      simpa using hclosed
    refine ⟨⟨front, back, List.append_assoc .., fun hmem => hclosed ?_⟩, hclosed⟩
    exact List.mem_append_right _ hmem
  · rintro ⟨⟨front, back, rfl, -⟩, hclosed⟩
    refine ⟨⟨front, back, List.append_assoc ..⟩, ?_⟩
    simpa using hclosed

/-! ## Colons -/

/-- The last visible character is a colon. -/
def EndsInColon (before : Text) : Prop :=
  ∃ front back, before = front ++ .char ':' :: back ∧ ∀ c ∈ back, isBlank c = true

theorem afterColon_iff : afterColon before = true ↔ EndsInColon before := by
  change ((trim before).getLast? == some (.char ':')) = true ↔ _
  rw [beq_iff_eq, getLast?_trim_eq_some_iff isBlank_colon, EndsInColon]

instance : DecidablePred EndsInColon := fun before =>
  decidable_of_iff (afterColon before = true) afterColon_iff

/-- Nothing is visible. -/
def Blank (before : Text) : Prop := ∀ c ∈ before, isBlank c = true

instance : DecidablePred Blank := fun before =>
  inferInstanceAs (Decidable (∀ c ∈ before, isBlank c = true))

theorem atLineStart_iff : atLineStart before = true ↔ Blank before := by
  rw [atLineStart, List.isEmpty_iff, trim_eq_nil_iff, Blank]

theorem not_blank_of_unclosed (h : Unclosed before) : ¬ Blank before := by
  rintro hblank
  obtain ⟨front, back, rfl, -⟩ := h
  exact absurd (hblank (.char '#') (by simp [Line.attributeMarker])) (by decide)

/-! ## Contexts -/

/-- The places that completions are offered at. -/
inductive Context where
  | attribute
  | type
  | lineStart
  | elsewhere
  deriving DecidableEq, Repr

namespace Context

/-- What is offered at a place. -/
def items : Context → List CompletionItem
  | .attribute => attributes
  | .type => types
  | .lineStart => keywords ++ attributes
  | .elsewhere => types ++ keywords ++ attributes

/-- The place that the text before the cursor leads to; the first rule that applies decides. -/
def Reads (before : Text) : Context → Prop
  | .attribute => Unclosed before
  | .type => ¬ Unclosed before ∧ EndsInColon before
  | .lineStart => ¬ Unclosed before ∧ ¬ EndsInColon before ∧ Blank before
  | .elsewhere => ¬ Unclosed before ∧ ¬ EndsInColon before ∧ ¬ Blank before

/-- The place that the text leads to if nothing is taken for an open attribute. -/
def pastAttributes (before : Text) : Context :=
  if EndsInColon before then .type else if Blank before then .lineStart else .elsewhere

theorem length_items (c : Context) : c.items.length =
    match c with
    | .attribute => 3
    | .type => 16
    | .lineStart => 6
    | .elsewhere => 22 := by
  cases c <;> rfl

/-- Every place has its own offer, since each has another length. -/
theorem items_injective : Function.Injective items := by
  intro c c' h
  have hlength := congrArg List.length h
  rw [length_items, length_items] at hlength
  cases c <;> cases c' <;> simp_all

theorem reads_iff {c : Context} :
    c.Reads before ↔ c = if Unclosed before then .attribute else pastAttributes before := by
  unfold pastAttributes
  cases c <;> split_ifs <;> simp_all [Reads]

end Context

theorem complete_eq_items (before : Text) :
    complete before = (if inAttribute before then Context.attribute
      else Context.pastAttributes before).items := by
  unfold complete Context.pastAttributes
  simp only [← afterColon_iff, ← atLineStart_iff]
  split_ifs <;> rfl

/-- **What is offered is what the text before the cursor calls for**, unless an attribute is open
and some bracket stands in front of it.  Then the open attribute is overlooked: types are offered
behind a colon, and everything otherwise. -/
theorem complete_context (before : Text) :
    ((Unclosed before → .char ']' ∉ before) →
        ∀ c : Context, complete before = c.items ↔ c.Reads before) ∧
      (Unclosed before → .char ']' ∈ before →
        complete before =
            (if EndsInColon before then Context.type else Context.elsewhere).items ∧
          complete before ≠ Context.attribute.items) := by
  constructor
  · intro hclosed c
    have htest : inAttribute before = true ↔ Unclosed before := by
      rw [inAttribute_iff]
      exact and_iff_left_of_imp hclosed
    rw [complete_eq_items, Context.items_injective.eq_iff, Context.reads_iff, eq_comm]
    simp only [htest]
  · intro hopen hbracket
    have htest : ¬ inAttribute before = true := fun h => (inAttribute_iff.mp h).2 hbracket
    have hplace : Context.pastAttributes before =
        if EndsInColon before then .type else .elsewhere := by
      rw [Context.pastAttributes, if_neg (not_blank_of_unclosed hopen)]
    rw [complete_eq_items, if_neg htest, hplace]
    refine ⟨rfl, Context.items_injective.ne ?_⟩
    split_ifs <;> exact Context.noConfusion

/-- An attribute that is open, one that is closed in front of a colon, and one that is open behind
a closed one. -/
theorem complete_context_attributes :
    let started := ofString "  #[sol"
    let closed := ofString "#[solana] owner: "
    let again := ofString "#[solana] #["
    Unclosed started ∧ .char ']' ∉ started ∧ complete started = attributes ∧
      ¬ Unclosed closed ∧ complete closed = types ∧
      Unclosed again ∧ .char ']' ∈ again ∧
      complete again = types ++ keywords ++ attributes ∧ complete again ≠ attributes := by
  intro started closed again
  have hstarted : Unclosed started := by decide
  have hbracket : CodePoint.char ']' ∉ started := by decide
  have hclosed : ¬ Unclosed closed ∧ EndsInColon closed := by decide
  have hagain : Unclosed again := by decide
  have hbehind : CodePoint.char ']' ∈ again := by decide
  obtain ⟨hall, hother⟩ := (complete_context again).2 hagain hbehind
  have hcolon : ¬ EndsInColon again := by decide
  rw [if_neg hcolon] at hall
  exact ⟨hstarted, hbracket,
    ((complete_context started).1 (fun _ => hbracket) .attribute).mpr hstarted, hclosed.1,
    ((complete_context closed).1 (fun h => absurd h hclosed.1) .type).mpr hclosed, hagain, hbehind,
    hall, hother⟩

/-- Behind a closed attribute an open one is not noticed. -/
theorem open_behind_closed :
    ¬ ∀ (before : Text) (c : Context), complete before = c.items ↔ c.Reads before := by
  intro h
  have hopen : Unclosed (ofString "#[solana] #[") := by decide
  have hitems := (h (ofString "#[solana] #[") .attribute).mpr hopen
  exact absurd hitems (by decide)

end SchemaEditor.Completion
