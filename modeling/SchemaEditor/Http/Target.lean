import SchemaEditor.Http.Host
import SchemaEditor.Input.Number
import SchemaEditor.Text.Digit
import SchemaEditor.Text.Utf8

/-!
# Request targets

A target is a URL, of which a query and a fragment are cut off here.  It may name a
scheme, before a colon, and a host, after two slashes.  With both of them it is
complete, and otherwise its path is taken from the root of this service, however
many slashes it starts with.

Segments of one or two dots are resolved, and then percent signs followed by two
hexadecimal digits are decoded, two times over, by the client and by the server.
Decoding comes before the path is cut at its slashes, so an encoded slash divides
segments like a plain one.
-/

namespace SchemaEditor.Http
open Text

/-! ## Parts -/

/-- The parts of a target. -/
structure Target where
  /-- The scheme in small letters, or nothing. -/
  scheme : Text
  /-- The user in front of the host. -/
  user : Text
  host : Text
  /-- The number after the host, unless it is the standard one of the scheme. -/
  number : Option Int
  path : Text
  deriving DecidableEq, Repr

/-- The text is a scheme: nothing, or a letter with letters, digits and three marks
after it. -/
def isScheme : Text → Bool
  | [] => true
  | c :: rest => isAsciiAlpha c && rest.all fun c =>
      isAsciiAlpha c || isDigit c || c == '+' || c == '.' || c == '-'

/-- The scheme in front of the first colon, and what follows it; without a colon it
is empty. -/
def splitScheme (target : Text) : Text × Text :=
  let scheme := target.takeWhile (· ≠ .char ':')
  match target.dropWhile (· ≠ .char ':') with
  | _ :: rest => if isScheme scheme then (scheme.map lowerAscii, rest) else ([], target)
  | [] => ([], target)

/-- What stands between two slashes and the path, and the path. -/
def splitAuthority : Text → Text × Text
  | .char '/' :: .char '/' :: rest =>
      (rest.takeWhile (· ≠ .char '/'), rest.dropWhile (· ≠ .char '/'))
  | target => ([], target)

/-- The user in front of the last at sign, and what follows it. -/
def splitUser (authority : Text) : Text × Text :=
  match authority.reverse.dropWhile (· ≠ .char '@') with
  | _ :: user => (user.reverse, (authority.reverse.takeWhile (· ≠ .char '@')).reverse)
  | [] => ([], authority)

/-- The host, and what stands for a number after it.  A host between square brackets
may have colons in it. -/
def splitNumber (place : Text) : Text × Text :=
  let (host, rest) : Text × Text :=
    match place.head?, place.reverse.dropWhile (· ≠ .char ']') with
    | some (.char '['), host@(_ :: _) => (host.reverse, place.drop host.length)
    | _, _ => (place.takeWhile (· ≠ .char ':'), place.dropWhile (· ≠ .char ':'))
  (host, match rest with
    | .char ':' :: number => number
    | number => number)

/-- The number that digits of any script write, with single underscores between
them; numbers that are too long are not read. -/
def natOf? (t : Text) : Option Int := do
  let digits ← decimals? (← Input.dropUnderscores? t)
  if digits = [] ∨ Json.maxIntDigits < digits.length then none
  else return Text.ofDecimals digits

/-- The number that a text writes: digits after an optional sign, with blanks around
them. -/
def numberOf? (t : Text) : Option Int :=
  match trim t with
  | .char '+' :: digits => natOf? digits
  | .char '-' :: digits => (natOf? digits).map fun n => -n
  | digits => natOf? digits

/-- The standard numbers of schemes. -/
def standardNumbers : List (String × Int) :=
  [("ftp", 21), ("http", 80), ("https", 443), ("ws", 80), ("wss", 443)]

/-- The number that follows a host, if the text is one: none at all for an empty text
and for the standard number. -/
def hostNumber? (scheme t : Text) : Option (Option Int) :=
  if t = [] then some none
  else
    (numberOf? t).map fun number =>
      if standardNumbers.any fun entry => ofString entry.1 == scheme && entry.2 == number then none
      else some number

/-- The query of a target: what stands between the first question mark and the
fragment. -/
def queryOf (target : Text) : Text :=
  ((target.takeWhile (· ≠ .char '#')).dropWhile (· ≠ .char '?')).drop 1

/-! ## Paths -/

/-- Resolves segments of dots: one dot says nothing, and two take back the segment
before, but not the empty one in front of the first slash. -/
def resolveDots (segments : List Text) : List Text :=
  (segments.foldl
    (fun done segment =>
      if segment = [.char '.'] then done
      else if segment = ofString ".." then (if done = [[]] then done else done.drop 1)
      else segment :: done)
    []).reverse

/-- A path whose segments of dots are resolved. -/
def resolvePath (path : Text) : Text :=
  List.intercalate (ofString "/") (resolveDots (splitOn '/' path))

/-- A path from the root. -/
def fromRoot (path : Text) : Text := '/' :: path.dropWhile (· == .char '/')

/-- The octets of a text, with escapes of a percent sign and two hexadecimal
digits decoded; any other percent sign stands for itself. -/
def percentOctets : Text → List UInt8
  | [] => []
  | .char '%' :: a :: b :: rest =>
      match hexDigit? a, hexDigit? b with
      | some x, some y => UInt8.ofNat (x * 16 + y) :: percentOctets rest
      | _, _ => 0x25 :: percentOctets (a :: b :: rest)
  | c :: rest => Utf8.encodePoint c ++ percentOctets rest

/-- Decodes percent escapes; malformed octets are replaced. -/
def percentDecode (t : Text) : Text := Utf8.decodeLossy (percentOctets t)

/-- The characters of ASCII that are escaped in a query. -/
def queryEscapes : Text := ofString " \"#<>"

/-- The characters of ASCII that are escaped in a path. -/
def pathEscapes : Text := queryEscapes ++ ofString "?`\x7b\x7d"

/-- The length of a text whose escapes and other characters than those of ASCII are
written with a percent sign and two digits for each octet. -/
def writtenLength (escapes : Text) (t : Text) : Nat :=
  t.foldl
    (fun n c =>
      if Nat.blt c.toNat 0x80 && !List.contains escapes c then n + 1
      else n + 3 * (Utf8.encodePoint c).length)
    0

/-! ## Targets -/

namespace Target

/-- The greatest length of a target. -/
def maxLength : Nat := 65536

/-- The target names nothing but a path. -/
def isBare (t : Target) : Bool :=
  t.scheme == [] && t.user == [] && t.host == [] && t.number == none

/-- The target names a scheme and a host. -/
def isComplete (t : Target) : Bool := t.scheme != [] && t.host != []

/-- The path of a target that is not complete, from the root of this service. -/
def relativePath (t : Target) : Text := fromRoot (if t.isBare then t.path else resolvePath t.path)

/-- The decoded path of a target; it starts with a slash unless it is empty.  It is
decoded twice because the test client decodes a path that its URL has decoded
already; a server that is deployed decodes once. -/
def decodedPath (t : Target) : Text :=
  percentDecode (percentDecode (resolvePath (if t.isComplete then t.path else t.relativePath)))

/-- A target that is not complete is written out before it is sent, and its path and
its query may then be too long. -/
def outgrows (t : Target) (query : Text) : Bool :=
  !t.isComplete &&
    (Nat.blt maxLength (writtenLength pathEscapes t.relativePath) ||
      Nat.blt maxLength (writtenLength queryEscapes query))

/-- The parts of a target, if it is a URL: it has no control characters, and one with
nothing but a path starts neither with a colon nor with two slashes. -/
def parse? (text : Text) : Option Target :=
  if maxLength < text.length ∨ text.any fun c => decide (c.toNat < 0x20 ∨ c.toNat = 0x7F) then none
  else
    let (scheme, rest) := splitScheme (text.takeWhile fun c => c != '?' && c != '#')
    let (authority, path) := splitAuthority rest
    let (user, place) := splitUser authority
    let (host, number) := splitNumber place
    match hostNumber? scheme number with
    | none => none
    | some number =>
        let target : Target := ⟨scheme, user, host, number, path⟩
        if !isHost host then none
        else if target.isBare && (path.head? = some ':' || path.take 2 = ofString "//") then none
        else if target.outgrows (queryOf text) then none
        else some target

end Target

/-! ## Targets that cannot be reached -/

/-- Why no request is sent to a target. -/
inductive TargetError where
  /-- The target is no URL. -/
  | malformed
  /-- A complete target has a host that cannot be named. -/
  | badHost (why : HostError)
  /-- A complete target has a scheme that is not served. -/
  | unknownScheme (scheme : Text)
  /-- A complete target asks for a lasting connection. -/
  | webSocket
  deriving DecidableEq, Repr

/-- The wording of a target that cannot be reached. -/
def TargetError.message : TargetError → Text
  | .unknownScheme scheme => scheme
  | _ => []

/-- The schemes of lasting connections. -/
def socketSchemes : List Text := ["ws", "wss"].map ofString

/-- The schemes that are served. -/
def servedSchemes : List Text := ["http", "https"].map ofString ++ socketSchemes

/-- What is wrong with a target, if it is a complete one. -/
def Target.error? (t : Target) : Option TargetError :=
  if !t.isComplete then none
  else
    match hostError? t.host with
    | some why => some (.badHost why)
    | none =>
        if !servedSchemes.contains t.scheme then some (.unknownScheme t.scheme)
        else if socketSchemes.contains t.scheme then some .webSocket
        else none

/-- The segments of a path that starts with a slash; none otherwise. -/
def segmentsOf (path : Text) : Option (List Text) :=
  match path with
  | .char '/' :: rest => some (splitOn '/' rest)
  | _ => none

end SchemaEditor.Http
