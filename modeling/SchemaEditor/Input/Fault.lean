import SchemaEditor.Json.Basic

/-!
# Faults of fields

What can be wrong with a value that stands in a field of a settings file or of a
request, and where the field is.
-/

namespace SchemaEditor

/-- What is wrong with the value of a field. -/
inductive Fault where
  /-- The field is not there. -/
  | missing
  /-- The value is none of the allowed ones. -/
  | notAllowed
  /-- A text or number that means neither yes nor no. -/
  | boolText
  /-- A value that can mean neither yes nor no. -/
  | boolType
  /-- A text that is no integer. -/
  | intText
  /-- An integer that is too long to read. -/
  | intTooLong
  /-- A number with a fraction in place of an integer. -/
  | intFraction
  /-- Infinity, or no number, in place of an integer. -/
  | notFinite
  /-- A value that can be no integer. -/
  | intType
  /-- A number below its least value. -/
  | tooSmall
  /-- A value in place of a text. -/
  | textType
  /-- A string with half of a surrogate pair in it. -/
  | textBroken
  /-- A text that is no number. -/
  | numberText
  /-- A value that can be no number. -/
  | numberType
  /-- A number that is not above its bound. -/
  | notAbove
  /-- A value in place of an object with fields. -/
  | objectType
  /-- A value in place of an object with arbitrary members. -/
  | mapType
  /-- A body that is no JSON. -/
  | jsonText
  deriving DecidableEq, Repr

/-- The word for a fault in answers. -/
def Fault.name : Fault → String
  | .missing => "missing"
  | .notAllowed => "literal_error"
  | .boolText => "bool_parsing"
  | .boolType => "bool_type"
  | .intText => "int_parsing"
  | .intTooLong => "int_parsing_size"
  | .intFraction => "int_from_float"
  | .notFinite => "finite_number"
  | .intType => "int_type"
  | .tooSmall => "greater_than_equal"
  | .textType => "string_type"
  | .textBroken => "string_unicode"
  | .numberText => "float_parsing"
  | .numberType => "float_type"
  | .notAbove => "greater_than"
  | .objectType => "model_attributes_type"
  | .mapType => "dict_type"
  | .jsonText => "json_invalid"

/-- A fault with the place of its field. -/
structure FieldFault where
  location : List String
  fault : Fault
  /-- What stands in the field; if it is missing, the object without it. -/
  value : Json
  deriving Repr

/-- The faults of a field that was read. -/
def faultsOf {α : Type} : Except (List FieldFault) α → List FieldFault
  | .ok _ => []
  | .error faults => faults

end SchemaEditor
