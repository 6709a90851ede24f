import SchemaEditor.Decimal.Binary64
import SchemaEditor.Entries
import SchemaEditor.Text.Basic

/-!
# JSON values

The values of settings files, requests and answers.  Whole numbers and numbers
with a fraction or a power are kept apart, whole numbers have any size, and the
members of an object keep their order.  The numbers with a fraction include
infinity and "not a number"; a value without them is `isFinite`.  A string may
have half of a surrogate pair in it; a value without any is `isWhole`.
-/

namespace SchemaEditor

/-- A JSON value. -/
inductive Json where
  | null
  | bool (b : Bool)
  | int (n : Int)
  | float (x : Binary64)
  | str (t : Text)
  | arr (items : List Json)
  | obj (members : List (Text × Json))
  deriving Repr

namespace Json

/-- A string value. -/
def ofString (s : String) : Json := .str (Text.ofString s)

/-- A text or null. -/
def ofText? : Option Text → Json
  | some t => .str t
  | none => .null

/-- A natural number. -/
def ofNat (n : Nat) : Json := .int n

/-- An object with the given members. -/
def object (members : List (String × Json)) : Json :=
  .obj (members.map fun m => (Text.ofString m.1, m.2))

/-- The member of an object with a name. -/
def member? (name : String) : Json → Option Json
  | .obj members => Entries.find? (Text.ofString name) members
  | _ => none

mutual

/-- A test holds of all values inside a value that hold no others, and another one
of all names of members. -/
def every (test : Json → Bool) (testName : Text → Bool) : Json → Bool
  | .arr items => everyItem test testName items
  | .obj members => everyMember test testName members
  | value => test value

/-- The tests hold inside all of the items. -/
def everyItem (test : Json → Bool) (testName : Text → Bool) : List Json → Bool
  | [] => true
  | item :: rest => every test testName item && everyItem test testName rest

/-- The tests hold inside all of the members. -/
def everyMember (test : Json → Bool) (testName : Text → Bool) : List (Text × Json) → Bool
  | [] => true
  | (name, value) :: rest =>
      testName name && every test testName value && everyMember test testName rest

end

/-- All numbers of a value are finite. -/
def isFinite : Json → Bool :=
  every (fun | .float x => x.isFinite | _ => true) fun _ => true

/-- All strings and all names of a value have characters only. -/
def isWhole : Json → Bool :=
  every (fun | .str t => Text.isWhole t | _ => true) Text.isWhole

mutual

/-- How deep lists and objects are nested in a value. -/
def depth : Json → Nat
  | .arr items => depthOfItems items + 1
  | .obj members => depthOfMembers members + 1
  | _ => 0

/-- The greatest depth among the items. -/
def depthOfItems : List Json → Nat
  | [] => 0
  | item :: rest => Nat.max (depth item) (depthOfItems rest)

/-- The greatest depth among the members. -/
def depthOfMembers : List (Text × Json) → Nat
  | [] => 0
  | (_, value) :: rest => Nat.max (depth value) (depthOfMembers rest)

end

end Json

end SchemaEditor
