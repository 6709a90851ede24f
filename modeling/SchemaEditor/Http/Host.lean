import SchemaEditor.Domain.Label

/-!
# Hosts

A host is an address of four numbers, an address of eight groups of hexadecimal
digits between square brackets, or a name.  What looks like an address must be one.
A name in ASCII can be anything, and any other one must be a domain name.
-/

namespace SchemaEditor.Http
open Text

/-! ## Addresses of four numbers -/

/-- The text is a number up to 255 without a needless zero in front. -/
def isOctet (t : Text) : Bool :=
  t != [] && t.all isDigit && decide (t.length ≤ 3 ∧ Text.toNat t ≤ 255) &&
    (t.head? != some '0' || t.length == 1)

/-- Four numbers with points between them. -/
def isAddress4 (t : Text) : Bool :=
  let parts := splitOn '.' t
  parts.length == 4 && parts.all isOctet

/-- One step of reading four numbers with something between them, from all places
that are possible.  At an even place a number is due, and at an odd one it has
begun; a digit may belong to the number, or be what stands between two. -/
def readNumbers (places : List Nat) (c : CodePoint) : List Nat :=
  (List.range 8).filter fun place =>
    if place % 2 = 0 then place != 0 && places.contains (place - 1)
    else isDigit c && (places.contains place || places.contains (place - 1))

/-- The text looks like four numbers with any one code point between them. -/
def looksLikeAddress4 (t : Text) : Bool := (t.foldl readNumbers [0]).contains 7

/-! ## Addresses of eight groups -/

/-- The text is up to four hexadecimal digits. -/
def isGroup (t : Text) : Bool :=
  t != [] && decide (t.length ≤ 4) && t.all fun c => (hexDigit? c).isSome

/-- How many groups a text has, if they are well-formed; the last of them may be four
numbers, which stand for two groups. -/
def countGroups? : List Text → Option Nat
  | [] => some 0
  | [last] => if isGroup last then some 1 else if isAddress4 last then some 2 else none
  | group :: rest => if isGroup group then (countGroups? rest).map (· + 1) else none

/-- The groups of a text with colons between them; an empty text has none. -/
def groupsOf (t : Text) : List Text := if t = [] then [] else splitOn ':' t

/-- What stands before and after the first two colons in a row. -/
def splitGap : Text → Option (Text × Text)
  | [] => none
  | c :: rest =>
      if c = ':' ∧ rest.head? = some ':' then some ([], rest.drop 1)
      else (splitGap rest).map fun (front, back) => (c :: front, back)

/-- Eight groups with colons between them.  Two colons in a row stand for the groups
that are missing, of which there is at least one. -/
def isGroups (t : Text) : Bool :=
  match splitGap t with
  | none => countGroups? (groupsOf t) == some 8
  | some (front, back) =>
      (groupsOf front).all isGroup &&
        match countGroups? (groupsOf back) with
        | some n => decide ((groupsOf front).length + n < 8)
        | none => false

/-- An address of eight groups, maybe with a zone after a percent sign. -/
def isAddress6 (t : Text) : Bool :=
  isGroups (t.takeWhile (· ≠ .char '%')) &&
    match t.dropWhile (· ≠ .char '%') with
    | [] => true
    | _ :: zone => zone != [] && !zone.contains '%'

/-! ## Hosts -/

/-- What square brackets around a text enclose. -/
def inBrackets? (t : Text) : Option Text :=
  if t.head? = some '[' ∧ t.getLast? = some ']' ∧ 2 ≤ t.length then some (t.drop 1).dropLast
  else none

/-- The text can be a host; an empty one is none at all. -/
def isHost (host : Text) : Bool :=
  if looksLikeAddress4 host then isAddress4 host
  else
    match inBrackets? host with
    | some address => isAddress6 address
    | none =>
        isAscii host ||
          match Domain.encode (Domain.lower host) with
          | .ok _ => true
          | .error _ => false

/-- Why a host cannot be named in a request. -/
inductive HostError where
  /-- Its zone has other characters than those of ASCII. -/
  | notAscii
  /-- It is said to be the written form of a domain name, and is none. -/
  | badName (why : Domain.NameError)
  deriving DecidableEq, Repr

/-- What keeps a host from being named in a request, if it is one in ASCII or between
brackets. -/
def hostError? (host : Text) : Option HostError :=
  if (inBrackets? host).isSome then (if isAscii host then none else some .notAscii)
  else if Domain.Label.asciiMark.isPrefixOf (host.map lowerAscii) then
    match Domain.checkAscii host with
    | .ok _ => none
    | .error why => some (.badName why)
  else none

end SchemaEditor.Http
