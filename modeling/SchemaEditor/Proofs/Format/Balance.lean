import SchemaEditor.Proofs.Format.Depth

/-!
# The books of a pass

A line that the pass has read is in one of three places: it is written, it waits in the batch, or
it waits in the run of attributes.  The pass takes a line in one of seven ways, and two more
operations write what waits; all of them move lines between these places, and some open or close
a block on the way.  `State.Balanced` says what they keep, for a state that has come to a level
and has read a number of lines: the three places together have as many lines as were read, a batch
waits in a struct body only, and a struct body is the inside of some block.

Each operation has a lemma that says what it makes of the two numbers.  From these follows what
one line does, whatever it is (`State.Balanced.feed`): it counts for one, and it moves the level
as it moves the depth of the lines (`turn`).  So the books of a pass balance after any lines
(`feedAll_balanced`), and in the end, when nothing waits any more, as many lines are written as
were read.

The level is compared with a count of integers (`levelBelow`), so that it is due to the closing
lines, and not to the numbers, that it never falls below 0.
-/

namespace SchemaEditor.Format
open Text Line

/-- What a line makes of a level that is counted as an integer: a closing line takes one off, but
not from 0. -/
def Turn.shift (level : Int) : Turn → Int
  | closes => max (level - 1) 0
  | opens => level + 1
  | stays => level

/-- The level below some lines, counted from 0. -/
def levelBelow (ls : List Text) : Int := ls.foldl (fun level line => (turn line).shift level) 0

/-- A state of the pass at a level, with a number of lines read. -/
structure State.Balanced (s : State) (level : Int) (count : Nat) : Prop where
  /-- The state is at this level. -/
  level_eq : (s.level : Int) = level
  /-- No more blocks were closed than opened. -/
  level_nonneg : 0 ≤ level
  /-- The body of a struct is the inside of a block. -/
  inBlock : s.inStruct = true → 1 ≤ level
  /-- Only in the body of a struct a batch waits. -/
  inBody : s.fields ≠ [] → s.inStruct = true
  /-- What waits as an attribute is trimmed and begins with the marker. -/
  attributes : ∀ a ∈ s.attributes, trim a = a ∧ attributeMarker <+: a
  /-- Every line that was read is written or waits. -/
  count_eq : s.output.length + s.fields.length + s.attributes.length = count

theorem balanced_initial : initial.Balanced 0 0 where
  level_eq := rfl
  level_nonneg := Int.le_refl 0
  inBlock h := nomatch h
  inBody h := absurd rfl h
  attributes _ ha := absurd ha List.not_mem_nil
  count_eq := rfl

namespace State.Balanced
variable {s : State} {level : Int} {count : Nat}

/-! ## Writing, waiting, and moving between levels -/

/-- A line that is written at once. -/
theorem append_output (h : s.Balanced level count) (out : Text) :
    { s with output := s.output ++ [out] }.Balanced level (count + 1) where
  level_eq := h.level_eq
  level_nonneg := h.level_nonneg
  inBlock := h.inBlock
  inBody := h.inBody
  attributes := h.attributes
  count_eq := by
    have hcount := h.count_eq
    simp only [List.length_append, List.length_singleton]
    omega

/-- A line that waits in the batch. -/
theorem hold (h : s.Balanced level count) (hs : s.inStruct = true) (t : Text) :
    (s.hold t).Balanced level (count + 1) where
  level_eq := h.level_eq
  level_nonneg := h.level_nonneg
  inBlock := h.inBlock
  inBody _ := hs
  attributes := h.attributes
  count_eq := by
    have hcount := h.count_eq
    simp only [State.hold, List.length_append, List.length_singleton]
    omega

/-- A line that waits in the run of attributes. -/
theorem append_attributes (h : s.Balanced level count) {line : Text}
    (ha : isAttribute line = true) :
    { s with attributes := s.attributes ++ [trim line] }.Balanced level (count + 1) where
  level_eq := h.level_eq
  level_nonneg := h.level_nonneg
  inBlock := h.inBlock
  inBody := h.inBody
  attributes a hmem := by
    rcases List.mem_append.mp hmem with hmem | hmem
    · exact h.attributes a hmem
    · rw [List.mem_singleton.mp hmem]
      exact ⟨trim_trim line, List.isPrefixOf_iff_prefix.mp ha⟩
  count_eq := by
    have hcount := h.count_eq
    simp only [List.length_append, List.length_singleton]
    omega

/-- Back one level, once no batch waits. -/
theorem leaveBlock (h : s.Balanced level count) (hf : s.fields = []) :
    s.leaveBlock.Balanced (Turn.closes.shift level) count where
  level_eq := by
    have hlevel := h.level_eq
    simp only [State.leaveBlock, Turn.shift]
    omega
  level_nonneg := Int.le_max_right _ _
  inBlock hs := nomatch hs
  inBody hne := absurd hf hne
  attributes := h.attributes
  count_eq := h.count_eq

/-- On one level, once no batch waits. -/
theorem enterBlock (h : s.Balanced level count) (hf : s.fields = []) (inStruct : Bool) :
    (s.enterBlock inStruct).Balanced (Turn.opens.shift level) count where
  level_eq := by
    have hlevel := h.level_eq
    simp only [State.enterBlock, Turn.shift]
    omega
  level_nonneg := Int.add_nonneg h.level_nonneg (by decide)
  inBlock _ := Int.le_add_of_nonneg_left h.level_nonneg
  inBody hne := absurd hf hne
  attributes := h.attributes
  count_eq := h.count_eq

variable (o : FormatOptions)

/-! ## What waits is written -/

/-- **The run of attributes ends**: its lines go to the batch or are written, all of them. -/
theorem flushAttributes (h : s.Balanced level count) :
    (s.flushAttributes o).Balanced level count := by
  have hcount := h.count_eq
  unfold State.flushAttributes
  split_ifs with hs
  · refine { h with inBody := fun _ => hs, attributes := by simp, count_eq := ?_ }
    simp only [List.length_append, length_arrangeAttributes, List.length_nil]
    omega
  · refine { h with inBody := h.inBody, attributes := by simp, count_eq := ?_ }
    simp only [List.length_append, List.length_map, length_arrangeAttributes, List.length_nil]
    omega

/-- **The batch ends**: its lines are written, all of them. -/
theorem flushFields (h : s.Balanced level count) : (s.flushFields o).Balanced level count where
  level_eq := h.level_eq
  level_nonneg := h.level_nonneg
  inBlock := h.inBlock
  inBody hne := absurd rfl hne
  attributes := h.attributes
  count_eq := by
    have hcount := h.count_eq
    simp only [State.flushFields, List.length_append, length_alignBatch, List.length_nil]
    omega

/-! ## One line -/

theorem feedClose (h : s.Balanced level count) (t : Text) :
    (s.feedClose o t).Balanced (Turn.closes.shift level) (count + 1) :=
  ((h.flushFields o).leaveBlock rfl).append_output _

theorem feedDeclaration (h : s.Balanced level count) (t : Text) :
    (s.feedDeclaration o t).Balanced
      ((if opensBlock t then Turn.opens else Turn.stays).shift level) (count + 1) := by
  have hwritten : ((s.flushFields o).write o t).Balanced level (count + 1) :=
    (h.flushFields o).append_output _
  unfold State.feedDeclaration
  split_ifs
  · exact hwritten.enterBlock rfl _
  · exact hwritten

theorem feedOpen (h : s.Balanced level count) (t : Text) :
    (s.feedOpen o t).Balanced (Turn.opens.shift level) (count + 1) :=
  ((h.flushFields o).append_output _).enterBlock rfl _

/-- Placing a line, once the run of attributes has ended. -/
theorem place (h : s.Balanced level count) (t : Text) :
    (s.place o (kind s.inStruct t) t).Balanced ((turn t).shift level) (count + 1) := by
  unfold State.place
  split_ifs with hc hd ho hs hb
  · rw [turn_of_close hc]
    exact h.feedClose o t
  · rw [turn_of_declaration hd]
    exact h.feedDeclaration o t
  · rw [turn_of_isLoneOpen hc ho]
    exact h.feedOpen o t
  · rw [turn_of_plain hc hd (by simpa using ho)]
    exact h.hold hs t
  · rw [turn_of_plain hc hd (by simpa using ho)]
    exact h.append_output []
  · rw [turn_of_plain hc hd (by simpa using ho)]
    exact h.append_output _

/-- **One line**, whatever it is. -/
theorem feed (h : s.Balanced level count) (line : Text) :
    (s.feed o line).Balanced ((turn line).shift level) (count + 1) := by
  cases ha : isAttribute line with
  | true =>
    rw [feed_of_isAttribute o s ha, turn_of_isAttribute ha]
    exact h.append_attributes ha
  | false =>
    rw [feed_of_not_isAttribute o s ha, ← turn_trim]
    exact (h.flushAttributes o).place o (trim line)

/-! ## All lines -/

theorem feedAll (h : s.Balanced level count) (ls : List Text) :
    (s.feedAll o ls).Balanced (ls.foldl (fun level line => (turn line).shift level) level)
      (count + ls.length) := by
  induction ls generalizing s level count with
  | nil => exact h
  | cons line rest ih =>
    have hrest := ih (h.feed o line)
    rwa [Nat.add_assoc, Nat.add_comm 1] at hrest

end State.Balanced

/-- **The books of a pass balance**, whatever lines it has read: the level is the one that the
lines come to and not below 0, at least 1 in a struct body, no batch waits elsewhere, only trimmed
attributes wait as such, and the lines written and waiting are as many as were read.  In the end
nothing waits, and as many lines are written as were read. -/
theorem feedAll_balanced (o : FormatOptions) (ls : List Text) :
    (initial.feedAll o ls).Balanced (levelBelow ls) ls.length ∧
      ((initial.feedAll o ls).finish o).attributes = [] ∧
      ((initial.feedAll o ls).finish o).fields = [] ∧
      ((initial.feedAll o ls).finish o).output.length = ls.length := by
  have hread : (initial.feedAll o ls).Balanced (levelBelow ls) ls.length := by
    have hall := balanced_initial.feedAll o ls
    rwa [Nat.zero_add] at hall
  have hattributes : ((initial.feedAll o ls).finish o).attributes = [] :=
    flushAttributes_attributes o _
  have hfields : ((initial.feedAll o ls).finish o).fields = [] := rfl
  have hcount := ((hread.flushAttributes o).flushFields o).count_eq
  refine ⟨hread, hattributes, hfields, ?_⟩
  rw [← State.finish, hattributes, hfields] at hcount
  exact hcount

/-- A line in each of the three places, behind a brace that closes nothing. -/
example :
    initial.feedAll FormatOptions.standard
        [ofString "\x7d", ofString "struct A \x7b", ofString "name:u8", ofString " #[x] "] =
      { level := 1, inStruct := true
        attributes := [ofString "#[x]"]
        fields := [ofString "name:u8"]
        output := [ofString "\x7d", ofString "struct A \x7b"] } := by
  cbv

end SchemaEditor.Format
