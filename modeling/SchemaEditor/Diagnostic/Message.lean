import SchemaEditor.Text.CaseFold

/-!
# The message in a validator's output

A validator reports a failure in free text such as

```
Error: Failed to parse schema: wallet.lumos
Caused by:
    Schema parsing error: expected `:`
```

The most specific line is the message: the one after `Caused by:`, without the
words `Schema parsing error:`, and failing that the one after the first `error:`.
Markers are recognised in any case.

After a marker, blanks are skipped, line breaks included, and the rest of the
line is read.  If nothing but blanks follows, the last blanks that can be read as
a line are read after all; such a line is blank and gives no message, but it
counts as found, so no later marker is tried.
-/

namespace SchemaEditor.Message
open Text

/-- The text up to the end of the line; a line has at least one character. -/
def lineHere? : Text → Option Text
  | [] => none
  | c :: rest => if c = '\n' then none else some (c :: rest.takeWhile (· ≠ .char '\n'))

/-- The first line after as many blanks as leave a line to read. -/
def lineAfterBlanks? : Text → Option Text
  | [] => none
  | c :: rest =>
      if isBlank c then (lineAfterBlanks? rest).or (lineHere? (c :: rest))
      else lineHere? (c :: rest)

/-- The marker of a cause. -/
def causeMarker : Text := ofString "caused by:"

/-- Words in front of a cause that are no part of the message. -/
def parsingMarker : Text := ofString "schema parsing error:"

/-- The marker of an error. -/
def errorMarker : Text := ofString "error:"

/-- A cause: the line after blanks, without the words in front of it if a line
follows them. -/
def causeLine? : Text → Option Text
  | [] => none
  | c :: rest =>
      if isBlank c then (causeLine? rest).or (lineHere? (c :: rest))
      else ((afterFold? parsingMarker (c :: rest)).bind lineAfterBlanks?).or (lineHere? (c :: rest))

/-- What `read` finds after the first occurrence of the marker at which it finds
something. -/
def search (marker : Text) (read : Text → Option Text) : Text → Option Text
  | [] => none
  | c :: rest => ((afterFold? marker (c :: rest)).bind read).or (search marker read rest)

/-- A line trimmed, if there is something left of it. -/
def nonBlank? (line : Text) : Option Text := if trim line = [] then none else some (trim line)

/-- The message in an output, if it has one. -/
def extract? (output : Text) : Option Text :=
  ((search causeMarker causeLine? output).bind nonBlank?).or
    ((search errorMarker lineAfterBlanks? output).bind nonBlank?)

end SchemaEditor.Message
