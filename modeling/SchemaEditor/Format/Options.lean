import SchemaEditor.Text.Basic

/-!
# Formatting options

How wide one level of indentation is, whether runs of attributes are sorted, and
whether the colons of a struct are brought into one column.
-/

namespace SchemaEditor

/-- The choices of a formatting run; an indentation step is at least one column. -/
structure FormatOptions where
  indentSize : Nat := 4
  sortAttributes : Bool := true
  alignFields : Bool := true
  indentSize_pos : 0 < indentSize := by decide
  deriving DecidableEq, Repr

/-- Why options were refused: the indentation step is not positive. -/
inductive OptionsError where
  | indentSize (given : Int)
  deriving DecidableEq, Repr

/-- The wording of refused options. -/
def OptionsError.message : OptionsError → Text
  | .indentSize given => Text.ofString "indent_size must be positive, got " ++ Text.ofInt given

namespace FormatOptions

/-- The options of a run that names none. -/
def standard : FormatOptions := {}

/-- Options with an indentation step that arrives as an integer. -/
def make? (indentSize : Int) (sortAttributes alignFields : Bool) :
    Except OptionsError FormatOptions :=
  if h : 0 < indentSize then
    .ok ⟨indentSize.toNat, sortAttributes, alignFields, by omega⟩
  else .error (.indentSize indentSize)

/-- The indentation of a nesting level. -/
def indent (o : FormatOptions) (level : Nat) : Text := Text.spaces (level * o.indentSize)

end FormatOptions

/-- The columns of a nesting level; below level 0, and for a step below 0, there
are none. -/
def indentWidth (level size : Int) : Nat := level.toNat * size.toNat

end SchemaEditor
