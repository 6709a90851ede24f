import SchemaEditor.Input.Reader
import SchemaEditor.Format.Options
import SchemaEditor.Validator

/-!
# Settings

An editor sends its settings as an object with dotted keys such as
`format.indentSize`; a leading `lumos.` is dropped.  A key names a section and a
setting.  Five settings have a second name, written with underscores, which
counts only if the first one is not there.  Keys that name no setting are
ignored, and a missing setting has its standard value.

`Settings.ofConfig` reads the seven settings one by one and either has all of
them or lists what is wrong with each, in the order of `Setting`.
-/

namespace SchemaEditor
open Text

/-- The indentation steps that can be set. -/
inductive IndentStep where
  | two
  | four
  deriving DecidableEq, Repr

/-- The columns of an indentation step. -/
def IndentStep.width : IndentStep → Nat
  | .two => 2
  | .four => 4

theorem IndentStep.width_pos (i : IndentStep) : 0 < i.width := by cases i <;> decide

/-- The settings of an editor. -/
structure Settings where
  indent : IndentStep := .four
  sortAttributes : Bool := true
  alignFields : Bool := true
  /-- Validation runs at all. -/
  enabled : Bool := true
  /-- How long an editor waits before it asks for validation, in milliseconds. -/
  debounceMs : Nat := 500
  /-- The command of the validator. -/
  validatorPath : Text := Validator.standardCommand
  /-- The time limit of the validator in seconds. -/
  timeout : Binary64 := Validator.standardTimeout
  deriving DecidableEq, Repr

/-- The sections of the settings. -/
inductive Section where
  | format
  | validation
  | validator
  deriving DecidableEq, Repr

namespace Section

/-- The name of a section. -/
def name : Section → String
  | .format => "format"
  | .validation => "validation"
  | .validator => "validator"

/-- The section with a name. -/
def ofName? (t : Text) : Option Section :=
  [Section.format, Section.validation, Section.validator].find? fun s => ofString s.name == t

end Section

/-- The single settings, in their order. -/
inductive Setting where
  | indentSize
  | sortAttributes
  | alignFields
  | enabled
  | debounceMs
  | path
  | timeout
  deriving DecidableEq, Repr

namespace Setting

/-- The section a setting belongs to. -/
def toSection : Setting → Section
  | .indentSize => .format
  | .sortAttributes => .format
  | .alignFields => .format
  | .enabled => .validation
  | .debounceMs => .validation
  | .path => .validator
  | .timeout => .validator

/-- The name of a setting in its section. -/
def name : Setting → String
  | .indentSize => "indentSize"
  | .sortAttributes => "sortAttributes"
  | .alignFields => "alignFields"
  | .enabled => "enabled"
  | .debounceMs => "debounceMs"
  | .path => "path"
  | .timeout => "timeout"

/-- The second name of a setting. -/
def secondName : Setting → String
  | .indentSize => "indent_size"
  | .sortAttributes => "sort_attributes"
  | .alignFields => "align_fields"
  | .enabled => "enabled"
  | .debounceMs => "debounce_ms"
  | .path => "path"
  | .timeout => "timeout"

end Setting

/-- Settings as an editor sends them: dotted keys with values, in order. -/
abbrev Config := Entries Text Json

namespace Config

/-- The word in front of a key that is dropped. -/
def keyFront : Text := ofString "lumos."

/-- The section and the name of a key; none if the section is not known or the
name is empty. -/
def parseKey? (key : Text) : Option (Section × Text) :=
  let key := (after? keyFront key).getD key
  match key.dropWhile (· ≠ .char '.') with
  | _ :: c :: name => (Section.ofName? (key.takeWhile (· ≠ .char '.'))).map fun s => (s, c :: name)
  | _ => none

/-- The values by section and name; of several keys with one meaning the last one
counts. -/
def bySection (config : Config) : Entries (Section × Text) Json :=
  config.foldl
    (fun found entry =>
      match parseKey? entry.1 with
      | some key => Entries.insert key entry.2 found
      | none => found)
    []

end Config

namespace Settings

/-- The value that is given for a setting under a name. -/
def under? (found : Entries (Section × Text) Json) (s : Setting) (name : String) :
    Option (String × Json) :=
  (Entries.find? (s.toSection, ofString name) found).map fun value => (name, value)

/-- The value that is given for a setting, under its name or else under its second
one, with the name it is given under. -/
def value? (found : Entries (Section × Text) Json) (s : Setting) : Option (String × Json) :=
  (under? found s s.name).or (under? found s s.secondName)

/-- Reads one setting. -/
def readSetting {α : Type} (found : Entries (Section × Text) Json) (s : Setting)
    (r : Input.Reader α) (standard : α) : Except (List FieldFault) α :=
  match value? found s with
  | some (name, value) => Input.readAt [s.toSection.name, name] r value
  | none => .ok standard

/-- The indentation step of an integer: 2 or 4. -/
def indentOfInt (n : Int) : Except Fault IndentStep :=
  if n = 2 then .ok .two else if n = 4 then .ok .four else .error .notAllowed

/-- Reads an indentation step from a number; an integer must fit a machine word. -/
def indentStep : Input.Reader IndentStep
  | .int n => if fitsWord n then indentOfInt n else .error .intTooLong
  | .float x =>
      match x.toInt? with
      | some n => indentOfInt n
      | none => .error .notAllowed
  | _ => .error .notAllowed

/-- Reads all settings from values by section and name. -/
def ofSections (found : Entries (Section × Text) Json) : Except (List FieldFault) Settings :=
  let standard : Settings := {}
  let indent := readSetting found .indentSize indentStep standard.indent
  let sort := readSetting found .sortAttributes Input.bool standard.sortAttributes
  let align := readSetting found .alignFields Input.bool standard.alignFields
  let enabled := readSetting found .enabled Input.bool standard.enabled
  let debounce := readSetting found .debounceMs Input.nat standard.debounceMs
  let path := readSetting found .path Input.text standard.validatorPath
  let timeout := readSetting found .timeout Input.positive standard.timeout
  match indent, sort, align, enabled, debounce, path, timeout with
  | .ok indent, .ok sort, .ok align, .ok enabled, .ok debounce, .ok path, .ok timeout =>
      .ok ⟨indent, sort, align, enabled, debounce, path, timeout⟩
  | _, _, _, _, _, _, _ =>
      .error (faultsOf indent ++ faultsOf sort ++ faultsOf align ++ faultsOf enabled ++
        faultsOf debounce ++ faultsOf path ++ faultsOf timeout)

/-- Reads settings as an editor sends them. -/
def ofConfig (config : Config) : Except (List FieldFault) Settings := ofSections config.bySection

variable (s : Settings)

/-- The formatting options of the settings. -/
def options : FormatOptions := ⟨s.indent.width, s.sortAttributes, s.alignFields, s.indent.width_pos⟩

/-- The validator of the settings. -/
def validator : Validator := ⟨s.validatorPath, s.timeout⟩

/-- Why settings were not loaded from a file. -/
inductive LoadError where
  /-- The file is not well-formed UTF-8. -/
  | notUtf8
  /-- The file is not read as JSON. -/
  | notRead (why : Json.ReadError)
  /-- The file with the given name holds something else than an object. -/
  | notObject (file : Text)
  /-- Some settings are wrong. -/
  | invalid (faults : List FieldFault)
  deriving Repr

/-- The wording of a file that holds no settings. -/
def LoadError.message : LoadError → Text
  | .notRead why => why.message
  | .notObject file =>
      ofString "Settings file " ++ file ++ ofString " must contain a JSON object"
  | _ => []

/-- Lists and objects that are nested deeper in a file are not read. -/
def maxDepth : Nat := 991

/-- Loads settings from the octets of a file with a name. -/
def load (file : Text) (octets : List UInt8) : Except LoadError Settings :=
  match Utf8.decode? octets with
  | none => .error .notUtf8
  | some t =>
      match Json.read maxDepth t with
      | .error why => .error (.notRead why)
      | .ok (.obj config) =>
          match ofConfig config with
          | .ok settings => .ok settings
          | .error faults => .error (.invalid faults)
      | .ok _ => .error (.notObject file)

end Settings

end SchemaEditor
