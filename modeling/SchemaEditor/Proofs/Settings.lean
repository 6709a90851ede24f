import SchemaEditor.Settings
import SchemaEditor.Proofs.Entries
import SchemaEditor.Proofs.Line

/-!
# The last word for each setting

An editor may give a setting in four spellings: under either of its names, and with or without
the word that is dropped in front.  `Config.resolved?` says without any parsing which of the
values counts: the last one in order under the first name, in whichever spelling, and failing
that the last one under the second name.

Settings are read by parsing the keys into sections first, where a later value replaces an
earlier one.  The sections hold the last value under each name (`find?_bySection`), so that what
is read for a setting is what its resolved value says (`Config.outcome`, `readSetting_eq`).  The
settings as a whole succeed if every outcome does and otherwise fail with the faults of all
outcomes, in the order of the settings (`ofConfig_cases`).  Keys that name no setting and the
order of keys that name different ones are of no account, since no resolved value depends on
them (`resolved?_congr`).
-/

namespace SchemaEditor
open Text

namespace Setting

/-- All settings, in their order. -/
def all : List Setting :=
  [.indentSize, .sortAttributes, .alignFields, .enabled, .debounceMs, .path, .timeout]

/-- The values of a setting. -/
def Value : Setting → Type
  | .indentSize => IndentStep
  | .sortAttributes => Bool
  | .alignFields => Bool
  | .enabled => Bool
  | .debounceMs => Nat
  | .path => Text
  | .timeout => Binary64

/-- How the value of a setting is read. -/
def reader : (s : Setting) → Input.Reader s.Value
  | .indentSize => Settings.indentStep
  | .sortAttributes => Input.bool
  | .alignFields => Input.bool
  | .enabled => Input.bool
  | .debounceMs => Input.nat
  | .path => Input.text
  | .timeout => Input.positive

/-- The plain spelling of a setting under a name. -/
def spelling (s : Setting) (name : String) : Text :=
  ofString s.toSection.name ++ .char '.' :: ofString name

/-- The key names the setting by a name, with or without the word that is dropped in front. -/
def NamedBy (s : Setting) (name : String) (key : Text) : Prop :=
  key = s.spelling name ∨ key = Config.keyFront ++ s.spelling name

instance (s : Setting) (name : String) (key : Text) : Decidable (s.NamedBy name key) :=
  inferInstanceAs (Decidable (_ ∨ _))

/-- The key names the setting by either of its names. -/
def Named (s : Setting) (key : Text) : Prop := s.NamedBy s.name key ∨ s.NamedBy s.secondName key

instance (s : Setting) (key : Text) : Decidable (s.Named key) :=
  inferInstanceAs (Decidable (_ ∨ _))

end Setting

namespace Settings

/-- The value of a setting. -/
def get (settings : Settings) : (s : Setting) → s.Value
  | .indentSize => settings.indent
  | .sortAttributes => settings.sortAttributes
  | .alignFields => settings.alignFields
  | .enabled => settings.enabled
  | .debounceMs => settings.debounceMs
  | .path => settings.validatorPath
  | .timeout => settings.timeout

/-- Settings are the values of all settings. -/
theorem ext_get {a b : Settings} (h : ∀ s, a.get s = b.get s) : a = b := by
  have hindent : a.indent = b.indent := h .indentSize
  have hsort : a.sortAttributes = b.sortAttributes := h .sortAttributes
  have halign : a.alignFields = b.alignFields := h .alignFields
  have henabled : a.enabled = b.enabled := h .enabled
  have hdebounce : a.debounceMs = b.debounceMs := h .debounceMs
  have hpath : a.validatorPath = b.validatorPath := h .path
  have htimeout : a.timeout = b.timeout := h .timeout
  cases a
  cases b
  subst hindent hsort halign henabled hdebounce hpath htimeout
  rfl

end Settings

namespace Config

/-! ## Parsed keys -/

variable {key name : Text} {part : Section}

theorem ofName?_eq_some_iff : Section.ofName? name = some part ↔ name = ofString part.name := by
  constructor
  · intro h
    have hfound := List.find?_some h
    exact (eq_of_beq hfound).symm
  · rintro rfl
    cases part <;> decide

/-- What is left of a key without the word that is dropped in front. -/
def withoutFront (key : Text) : Text := (after? keyFront key).getD key

theorem withoutFront_append (t : Text) : withoutFront (keyFront ++ t) = t := by
  rw [withoutFront, Line.after?_eq_some_iff.mpr rfl]
  rfl

/-- No section starts with the word that is dropped. -/
theorem withoutFront_section (part : Section) (t : Text) :
    withoutFront (ofString part.name ++ t) = ofString part.name ++ t := by
  cases part <;> rfl

theorem eq_or_eq_append_of_withoutFront (key : Text) :
    key = withoutFront key ∨ key = keyFront ++ withoutFront key := by
  unfold withoutFront
  cases hfront : after? keyFront key with
  | none => exact Or.inl rfl
  | some rest => exact Or.inr (Line.after?_eq_some_iff.mp hfront)

theorem parseKey?_section (hkey : withoutFront key = ofString part.name ++ .char '.' :: name)
    (hname : name ≠ []) : parseKey? key = some (part, name) := by
  obtain ⟨c, rest, rfl⟩ := List.exists_cons_of_ne_nil hname
  unfold withoutFront at hkey
  simp only [parseKey?, hkey]
  cases part <;> rfl

theorem section_of_parseKey? (h : parseKey? key = some (part, name)) :
    name ≠ [] ∧ withoutFront key = ofString part.name ++ .char '.' :: name := by
  simp only [parseKey?] at h
  rw [← withoutFront] at h
  split at h
  · rename_i dot c rest hback
    obtain ⟨found, hfound, hpair⟩ := Option.map_eq_some_iff.mp h
    obtain ⟨rfl, rfl⟩ := Prod.mk.inj hpair
    have hdot : dot = .char '.' := by
      have hhead := List.head?_dropWhile_not (· ≠ CodePoint.char '.') (withoutFront key)
      rw [hback] at hhead
      simpa using hhead
    refine ⟨List.cons_ne_nil _ _, ?_⟩
    calc withoutFront key
        = (withoutFront key).takeWhile (· ≠ .char '.') ++
            (withoutFront key).dropWhile (· ≠ .char '.') := List.takeWhile_append_dropWhile.symm
      _ = ofString found.name ++ .char '.' :: c :: rest := by
          rw [hback, hdot, ofName?_eq_some_iff.mp hfound]
  · cases h

/-- **The meaning of a key by its spelling.** -/
theorem parseKey?_eq_some_iff :
    parseKey? key = some (part, name) ↔
      name ≠ [] ∧ (key = ofString part.name ++ .char '.' :: name ∨
        key = keyFront ++ (ofString part.name ++ .char '.' :: name)) := by
  constructor
  · intro h
    obtain ⟨hname, hkey⟩ := section_of_parseKey? h
    rw [← hkey]
    exact ⟨hname, eq_or_eq_append_of_withoutFront key⟩
  · rintro ⟨hname, rfl | rfl⟩
    · exact parseKey?_section (withoutFront_section part _) hname
    · exact parseKey?_section (withoutFront_append _) hname

theorem parseKey?_eq_iff_namedBy (s : Setting) {name : String} (hname : ofString name ≠ []) :
    parseKey? key = some (s.toSection, ofString name) ↔ s.NamedBy name key := by
  rw [parseKey?_eq_some_iff]
  exact and_iff_right hname

/-! ## Resolved values -/

/-- The value of the last key in order that names the setting by a name. -/
def last? (config : Config) (s : Setting) (name : String) : Option Json :=
  (config.filter fun entry => s.NamedBy name entry.1).getLast?.map Prod.snd

/-- The value that counts for a setting, with the name it is given under: the last one under the
first name, or else the last one under the second name. -/
def resolved? (config : Config) (s : Setting) : Option (String × Json) :=
  match config.last? s s.name with
  | some value => some (s.name, value)
  | none => (config.last? s s.secondName).map fun value => (s.secondName, value)

/-- What is read for a setting by itself: the value that counts for it, or else the standard
one. -/
def outcome (config : Config) (s : Setting) : Except FieldFault s.Value :=
  match config.resolved? s with
  | none => .ok (Settings.get {} s)
  | some (name, value) =>
      match s.reader value with
      | .ok a => .ok a
      | .error fault => .error ⟨[s.toSection.name, name], fault, value⟩

/-- What is wrong with a setting. -/
def fault? (config : Config) (s : Setting) : Option FieldFault :=
  match config.outcome s with
  | .ok _ => none
  | .error fault => some fault

variable (config : Config)

/-- The sections hold the value of the last key that is parsed to them. -/
theorem find?_bySection (k : Section × Text) :
    Entries.find? k config.bySection =
      (config.filter fun entry => parseKey? entry.1 = some k).getLast?.map Prod.snd := by
  induction config using List.reverseRecOn with
  | nil => rfl
  | append_singleton config entry ih =>
    rw [bySection, List.foldl_concat, ← bySection, List.filter_append]
    cases hkey : parseKey? entry.1 with
    | none => simp [hkey, ih]
    | some k' =>
      rw [Entries.find?_insert, ih]
      by_cases hk : k' = k
      · simp [hkey, hk]
      · simp [hkey, hk]

theorem under?_bySection (s : Setting) {name : String} (hname : ofString name ≠ []) :
    Settings.under? config.bySection s name =
      (config.last? s name).map fun value => (name, value) := by
  have hnamed : (fun entry : Text × Json =>
      decide (parseKey? entry.1 = some (s.toSection, ofString name))) =
        fun entry => decide (s.NamedBy name entry.1) :=
    funext fun entry => decide_eq_decide.mpr (parseKey?_eq_iff_namedBy s hname)
  rw [Settings.under?, find?_bySection, hnamed, last?]

theorem value?_bySection (s : Setting) :
    Settings.value? config.bySection s = config.resolved? s := by
  have hname : ofString s.name ≠ [] := by cases s <;> decide
  have hsecond : ofString s.secondName ≠ [] := by cases s <;> decide
  rw [Settings.value?, under?_bySection config s hname, under?_bySection config s hsecond,
    resolved?]
  cases config.last? s s.name <;> rfl

theorem readSetting_eq (s : Setting) :
    Settings.readSetting config.bySection s s.reader (Settings.get {} s) =
      (config.outcome s).mapError fun fault => [fault] := by
  rw [Settings.readSetting, value?_bySection, outcome]
  rcases config.resolved? s with - | ⟨name, value⟩
  · rfl
  · dsimp only [Input.readAt]
    cases s.reader value <;> rfl

theorem readSetting_eq_ok_iff {s : Setting} {a : s.Value} :
    Settings.readSetting config.bySection s s.reader (Settings.get {} s) = .ok a ↔
      config.outcome s = .ok a := by
  rw [readSetting_eq]
  cases config.outcome s <;> simp [Except.mapError]

theorem faultsOf_readSetting (s : Setting) :
    faultsOf (Settings.readSetting config.bySection s s.reader (Settings.get {} s)) =
      (config.fault? s).toList := by
  rw [readSetting_eq, fault?]
  cases config.outcome s <;> rfl

theorem fault?_eq_none_iff {s : Setting} :
    config.fault? s = none ↔ ∃ a, config.outcome s = .ok a := by
  rw [fault?]
  cases config.outcome s <;> simp

/-- The faults of the single settings, in their order. -/
def faults : List FieldFault := Setting.all.filterMap config.fault?

theorem faults_eq : config.faults =
    (config.fault? .indentSize).toList ++ (config.fault? .sortAttributes).toList ++
      (config.fault? .alignFields).toList ++ (config.fault? .enabled).toList ++
        (config.fault? .debounceMs).toList ++ (config.fault? .path).toList ++
          (config.fault? .timeout).toList := by
  rw [faults, List.filterMap_eq_flatMap_toList]
  simp [Setting.all]

/-- **Either all settings are read or all faults are listed.** -/
theorem ofConfig_cases :
    (∃ settings, Settings.ofConfig config = .ok settings ∧
        ∀ s, config.outcome s = .ok (settings.get s)) ∨
      (Settings.ofConfig config = .error config.faults ∧ ∃ s, (config.fault? s).isSome) := by
  unfold Settings.ofConfig Settings.ofSections
  dsimp only
  split
  · rename_i hindent hsort halign henabled hdebounce hpath htimeout
    refine Or.inl ⟨_, rfl, fun s => config.readSetting_eq_ok_iff.mp ?_⟩
    cases s with
    | indentSize => exact hindent
    | sortAttributes => exact hsort
    | alignFields => exact halign
    | enabled => exact henabled
    | debounceMs => exact hdebounce
    | path => exact hpath
    | timeout => exact htimeout
  · rename_i hsome
    refine Or.inr ⟨?_, ?_⟩
    · rw [faults_eq]
      simp only [← faultsOf_readSetting]
      rfl
    · by_contra hnone
      have hread : ∀ s, ∃ a,
          Settings.readSetting config.bySection s s.reader (Settings.get {} s) = .ok a := by
        intro s
        simp only [readSetting_eq_ok_iff, ← fault?_eq_none_iff, ← Option.not_isSome_iff_eq_none]
        exact fun hfault => hnone ⟨s, hfault⟩
      obtain ⟨indent, hindent⟩ := hread .indentSize
      obtain ⟨sort, hsort⟩ := hread .sortAttributes
      obtain ⟨align, halign⟩ := hread .alignFields
      obtain ⟨enabled, henabled⟩ := hread .enabled
      obtain ⟨debounce, hdebounce⟩ := hread .debounceMs
      obtain ⟨path, hpath⟩ := hread .path
      obtain ⟨timeout, htimeout⟩ := hread .timeout
      exact hsome indent sort align enabled debounce path timeout hindent hsort halign henabled
        hdebounce hpath htimeout

/-- **Settings are read one by one.** -/
theorem ofConfig_eq_ok_iff (settings : Settings) :
    Settings.ofConfig config = .ok settings ↔ ∀ s, config.outcome s = .ok (settings.get s) := by
  rcases config.ofConfig_cases with ⟨found, hok, houtcome⟩ | ⟨herror, s, hfault⟩
  · rw [hok]
    constructor
    · intro h
      rwa [← Except.ok.inj h]
    · intro h
      refine congrArg _ (Settings.ext_get fun s => ?_)
      exact Except.ok.inj ((houtcome s).symm.trans (h s))
  · rw [herror]
    refine iff_of_false (fun h => by cases h) fun h => ?_
    rw [config.fault?_eq_none_iff.mpr ⟨_, h s⟩] at hfault
    cases hfault

/-- **What is wrong is said of every setting.** -/
theorem ofConfig_eq_error_iff (found : List FieldFault) :
    Settings.ofConfig config = .error found ↔
      (∃ s, (config.fault? s).isSome) ∧ found = config.faults := by
  rcases config.ofConfig_cases with ⟨settings, hok, houtcome⟩ | ⟨herror, hfault⟩
  · rw [hok]
    refine iff_of_false (fun h => by cases h) ?_
    rintro ⟨⟨s, hsome⟩, -⟩
    rw [config.fault?_eq_none_iff.mpr ⟨_, houtcome s⟩] at hsome
    cases hsome
  · rw [herror, Except.error.injEq]
    exact ⟨fun h => ⟨hfault, h.symm⟩, fun h => h.2.symm⟩

/-! ## Other keys and other orders -/

variable {config} {config' : Config}

/-- Settings depend only on the values that count. -/
theorem ofConfig_congr (h : ∀ s, config'.resolved? s = config.resolved? s) :
    Settings.ofConfig config' = Settings.ofConfig config := by
  have houtcome : ∀ s, config'.outcome s = config.outcome s := by
    intro s
    rw [outcome, outcome, h s]
  have hfault : ∀ s, config'.fault? s = config.fault? s := by
    intro s
    rw [fault?, fault?, houtcome s]
  cases hread : Settings.ofConfig config with
  | ok settings =>
    rw [ofConfig_eq_ok_iff] at hread ⊢
    intro s
    rw [houtcome s, hread s]
  | error found =>
    rw [ofConfig_eq_error_iff] at hread ⊢
    rw [faults, funext hfault]
    exact hread

/-- The value that counts for a setting depends only on the keys that name it. -/
theorem resolved?_congr {s : Setting}
    (h : config'.filter (fun entry => s.Named entry.1) =
      config.filter fun entry => s.Named entry.1) :
    config'.resolved? s = config.resolved? s := by
  have hlast : ∀ name, (∀ key, s.NamedBy name key → s.Named key) →
      config'.last? s name = config.last? s name := by
    intro name hname
    have hcut : ∀ c : Config, c.filter (fun entry => s.NamedBy name entry.1) =
        (c.filter fun entry => s.Named entry.1).filter fun entry => s.NamedBy name entry.1 := by
      intro c
      rw [List.filter_filter]
      refine List.filter_congr fun entry _ => ?_
      simpa using hname entry.1
    rw [last?, last?, hcut, h, ← hcut]
  rw [resolved?, resolved?, hlast s.name fun key => Or.inl, hlast s.secondName fun key => Or.inr]

end Config

namespace Settings
variable {config : Config} {settings : Settings}

theorem make?_options (settings : Settings) :
    FormatOptions.make? settings.indent.width settings.sortAttributes settings.alignFields =
      .ok settings.options := by
  have hwidth : (0 : Int) < settings.indent.width := by
    exact_mod_cast settings.indent.width_pos
  rw [FormatOptions.make?, dif_pos hwidth]
  rfl

theorem isPositive_of_positive {value : Json} {x : Binary64} (h : Input.positive value = .ok x) :
    x.isPositive = true := by
  unfold Input.positive at h
  split at h
  · split_ifs at h with hpositive
    rwa [← Except.ok.inj h]
  · cases h

/-- A time limit that is read is above zero. -/
theorem isPositive_timeout (h : Config.outcome config .timeout = .ok settings.timeout) :
    settings.timeout.isPositive = true := by
  unfold Config.outcome at h
  split at h
  · rw [← Except.ok.inj h]
    decide
  · split at h
    · rename_i hread
      rw [← Except.ok.inj h]
      exact isPositive_of_positive hread
    · cases h

/-- **Settings depend only on the last word for each of them.**  They are read if the value that
counts for each setting is, or its standard value stands in, and otherwise the faults of all
values that count are listed in the order of the settings.  So keys that name no setting may be
left out, and keys may be reordered as long as those that name the same setting stay in order.
Settings that were read give formatting options and a time limit above zero. -/
theorem ofConfig_last_word (config : Config) :
    (∀ settings, ofConfig config = .ok settings ↔
        ∀ s, config.outcome s = .ok (settings.get s)) ∧
      (∀ found, ofConfig config = .error found ↔
        (∃ s, (config.fault? s).isSome) ∧ found = Setting.all.filterMap config.fault?) ∧
      (∀ keep : Text → Bool, (∀ key, keep key = false → ∀ s : Setting, ¬ s.Named key) →
        ofConfig (config.filter fun entry => keep entry.1) = ofConfig config) ∧
      (∀ config' : Config,
        (∀ s : Setting, config'.filter (fun entry => s.Named entry.1) =
          config.filter fun entry => s.Named entry.1) →
        ofConfig config' = ofConfig config) ∧
      ∀ settings, ofConfig config = .ok settings →
        FormatOptions.make? settings.indent.width settings.sortAttributes settings.alignFields =
            .ok settings.options ∧
          settings.timeout.isPositive = true := by
  have hreorder : ∀ config' : Config,
      (∀ s : Setting, config'.filter (fun entry => s.Named entry.1) =
        config.filter fun entry => s.Named entry.1) →
      ofConfig config' = ofConfig config :=
    fun config' hnamed => Config.ofConfig_congr fun s => Config.resolved?_congr (hnamed s)
  refine ⟨config.ofConfig_eq_ok_iff, config.ofConfig_eq_error_iff, ?_, hreorder, ?_⟩
  · intro keep hkeep
    refine hreorder _ fun s => ?_
    rw [List.filter_filter]
    refine List.filter_congr fun entry _ => ?_
    by_cases hkey : keep entry.1 = true
    · simp [hkey]
    · have hunnamed := hkeep entry.1 (Bool.eq_false_iff.mpr hkey) s
      simp [hunnamed]
  · intro settings hread
    have houtcome := (config.ofConfig_eq_ok_iff settings).mp hread
    exact ⟨make?_options settings, isPositive_timeout (houtcome .timeout)⟩

/-- Two spellings of one setting next to a key of another program. -/
theorem ofConfig_last_word_mixed :
    let size := (ofString "lumos.format.indentSize", Json.int 2)
    let second := (ofString "format.indent_size", Json.int 3)
    let other := (ofString "editor.theme", Json.null)
    let limit := (ofString "validator.timeout", Json.int 0)
    let config : Config := [size, other, second]
    let settings : Settings := { indent := .two }
    ofConfig config = .ok settings ∧
      settings.timeout.isPositive = true ∧
      ofConfig [size, second] = ofConfig config ∧
      ofConfig [other, size, second] = ofConfig config ∧
      ofConfig [limit, second] =
        .error [⟨["format", "indent_size"], .notAllowed, .int 3⟩,
          ⟨["validator", "timeout"], .notAbove, .int 0⟩] := by
  intro size second other limit config settings
  obtain ⟨hok, -, hremove, hreorder, haccepted⟩ := ofConfig_last_word config
  have hread : ofConfig config = .ok settings := (hok settings).mpr fun s => by cases s <;> rfl
  have hwithout : ofConfig [size, second] = ofConfig config := by
    refine hremove (fun key => key != other.1) fun key hkey s => ?_
    rw [bne_eq_false_iff_eq.mp hkey]
    cases s <;> decide
  have horder : ofConfig [other, size, second] = ofConfig config :=
    hreorder _ fun s => by cases s <;> cbv
  have hfaults := (ofConfig_last_word [limit, second]).2.1
  exact ⟨hread, (haccepted settings hread).2, hwithout, horder,
    (hfaults _).mpr ⟨⟨.timeout, rfl⟩, rfl⟩⟩

end Settings

end SchemaEditor
