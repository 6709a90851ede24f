import SchemaEditor.Text.Ranges

/-!
# Quoted text

Text between quotes, as it stands in descriptions.  The quotes are single ones,
or double ones if the text has a single quote and no double one.  The quote and
the backslash are written after a backslash, and a character without a visible
form by its number in hexadecimal digits.
-/

namespace SchemaEditor.Text.Quoted

/-- The quote that encloses a text. -/
def quoteFor (t : Text) : CodePoint :=
  if List.contains t (.ofNat 39) && !List.contains t (.ofNat 34) then .ofNat 34 else .ofNat 39

/-- One character between quotes. -/
def escape (quote c : CodePoint) : Text :=
  if c = quote ∨ c = '\\' then ['\\', c]
  else if c = '\n' then ['\\', 'n']
  else if c = '\r' then ['\\', 'r']
  else if c = '\t' then ['\\', 't']
  else if inRanges invisibleRanges c.toNat then
    if c.toNat < 0x100 then '\\' :: 'x' :: ofHex 2 c.toNat
    else if c.toNat < 0x10000 then '\\' :: 'u' :: ofHex 4 c.toNat
    else '\\' :: 'U' :: ofHex 8 c.toNat
  else [c]

/-- A text between quotes. -/
def write (t : Text) : Text := quoteFor t :: t.flatMap (escape (quoteFor t)) ++ [quoteFor t]

end SchemaEditor.Text.Quoted
