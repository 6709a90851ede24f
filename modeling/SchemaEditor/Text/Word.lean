import SchemaEditor.Text.Ranges

/-!
# Words

A word is a maximal run of word characters.  `runs` cuts a text into its maximal
runs of word characters and of other characters, so that the text is what the
runs spell one after the other; a word occurs in a text as a whole exactly when
it is one of the runs.
-/

namespace SchemaEditor.Text

/-- The word characters: letters, digits and numeric characters of every script,
and the underscore. -/
def isWord (c : CodePoint) : Bool :=
  let n := c.toNat
  if n < 128 then
    decide ((48 ≤ n ∧ n ≤ 57) ∨ (65 ≤ n ∧ n ≤ 90) ∨ (97 ≤ n ∧ n ≤ 122) ∨ n = 95)
  else inRanges alphanumericRanges n

/-- Puts a character in front of runs: it joins the first one if it is of the
same class, and is a run of its own otherwise. -/
def consRun (c : CodePoint) : List Text → List Text
  | (d :: run) :: rest =>
      if isWord c == isWord d then (c :: d :: run) :: rest else [c] :: (d :: run) :: rest
  | rest => [c] :: rest

/-- The maximal runs of word characters and of other characters, in order. -/
def runs : Text → List Text
  | [] => []
  | c :: rest => consRun c (runs rest)

/-- `word` occurs in the text as a whole word. -/
def hasWord (word : Text) (t : Text) : Bool := (runs t).any fun run => run == word

@[simp] theorem runs_nil : runs [] = [] := rfl

@[simp] theorem runs_cons (c : CodePoint) (t : Text) : runs (c :: t) = consRun c (runs t) := rfl

theorem flatten_consRun (c : CodePoint) (rs : List Text) :
    (consRun c rs).flatten = c :: rs.flatten := by
  rcases rs with _ | ⟨_ | ⟨d, run⟩, rest⟩
  · rfl
  · rfl
  · by_cases h : isWord c == isWord d <;> simp [consRun, h]

/-- The runs spell the text. -/
theorem flatten_runs (t : Text) : (runs t).flatten = t := by
  induction t with
  | nil => rfl
  | cons c rest ih => rw [runs_cons, flatten_consRun, ih]

end SchemaEditor.Text
