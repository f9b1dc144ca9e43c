import TreeSift.Config.Load
import TreeSift.Proofs.Config.Defaults
import TreeSift.Proofs.FileTree.Written
import TreeSift.Proofs.Json.ReadBack
import TreeSift.Proofs.Yaml.Building

/-! # Configurations are read back

A configuration whose settings have values of their kinds (`WellTyped`) can be written, so that saving
it fails for reasons of the file tree alone (`exists_file_of_save_eq_error`), and what a file gives
then decides every setting, whatever the defaults say (`load_of_parseFile`). Main results: a
configuration that is saved is loaded again as it was, as JSON (`stores_json`) and as YAML
(`stores_yaml`). -/

namespace TreeSift.Config

open TreeSift.Document
open TreeSift.Text (unifyLineEnds unifyLineEnds_of_all isBlankText)

/-! ## Values of settings -/

/-- **The value is of the kind of the setting**: `.ofTexts` for patterns, `.ofBool` for a switch,
and `.ofText` for the log. -/
def Setting.Admits : Setting → Value → Prop
  | .includes, value | .excludes, value => ∃ texts, value = .ofTexts texts
  | .useDefaultExcludes, value | .caseSensitive, value | .followLinks, value =>
    ∃ b, value = .ofBool b
  | .level, value | .format, value => ∃ text, value = .ofText text

/-- **A configuration whose settings have values of their kinds**: each setting `Admits` its value.
-/
def Configuration.WellTyped (configuration : Configuration) : Prop :=
  ∀ setting : Setting, setting.Admits (configuration.value setting)

variable {setting : Setting} {value : Value} {configuration : Configuration}

/-- A value that a setting `Admits` is a text, a truth value, or a list of texts. -/
theorem Setting.Admits.cases (h : setting.Admits value) :
    (∃ text, value = .ofText text) ∨ (∃ b, value = .ofBool b) ∨ ∃ texts, value = .ofTexts texts := by
  cases setting with
  | includes | excludes => exact .inr (.inr h)
  | useDefaultExcludes | caseSensitive | followLinks => exact .inr (.inl h)
  | level | format => exact .inl h

/-- A value that a setting `Admits` is `Json.Textual`. -/
theorem Setting.Admits.textual (h : setting.Admits value) : Json.Textual value := by
  rcases h.cases with ⟨text, rfl⟩ | ⟨b, rfl⟩ | ⟨texts, rfl⟩
  · exact .text text
  · exact .bool b
  · refine .list fun item hitem => ?_
    obtain ⟨text, -, rfl⟩ := List.mem_map.1 hitem
    exact .text text

/-- Texts are not nested: `anyNestsBeyond` holds at no level. -/
theorem anyNestsBeyond_map_ofText (levels : Nat) (texts : List String) :
    Value.anyNestsBeyond levels (texts.map .ofText) = false := by
  induction texts with
  | nil => rfl
  | cons text texts ih => simpa [Value.anyNestsBeyond, Value.ofText, Value.nestsBeyond] using ih

/-- A value that a setting `Admits` has one level at most. -/
theorem Setting.Admits.nestsBeyond (h : setting.Admits value) (levels : Nat) :
    value.nestsBeyond (levels + 1) = false := by
  rcases h.cases with ⟨text, rfl⟩ | ⟨b, rfl⟩ | ⟨texts, rfl⟩
  · rfl
  · rfl
  · exact anyNestsBeyond_map_ofText levels texts

/-- Nothing keeps texts from being written as JSON: `itemFault?` finds no fault. -/
theorem itemFault?_map_ofText (texts : List String) : Json.itemFault? (texts.map .ofText) = none := by
  induction texts with
  | nil => rfl
  | cons text texts ih =>
    simpa [Json.itemFault?, Value.ofText, Json.partFault?, Json.scalarFault?, Scalar.digitFault?]
      using ih

/-- Nothing keeps a value that a setting `Admits` from being written as JSON: `partFault?` finds no
fault. -/
theorem Setting.Admits.partFault? (h : setting.Admits value) : Json.partFault? value = none := by
  rcases h.cases with ⟨text, rfl⟩ | ⟨b, rfl⟩ | ⟨texts, rfl⟩
  · rfl
  · rfl
  · exact itemFault?_map_ofText texts

/-- Texts hold no digits that could be too many for `itemDigitFault?`. -/
theorem itemDigitFault?_map_ofText (texts : List String) :
    Yaml.itemDigitFault? (texts.map .ofText) = none := by
  induction texts with
  | nil => rfl
  | cons text texts ih =>
    simpa [Yaml.itemDigitFault?, Value.ofText, Yaml.digitFault?, Scalar.digitFault?] using ih

/-- A value that a setting `Admits` holds no integer, so that `digitFault?` finds no fault. -/
theorem Setting.Admits.digitFault? (h : setting.Admits value) : Yaml.digitFault? value = none := by
  rcases h.cases with ⟨text, rfl⟩ | ⟨b, rfl⟩ | ⟨texts, rfl⟩
  · rfl
  · rfl
  · exact itemDigitFault?_map_ofText texts

/-! ## Entries of configurations -/

/-- Texts are the same key only if they are equal: `sameKey` is `==`. -/
theorem sameKey_text (a b : String) : (Scalar.text a).sameKey (.text b) = (a == b) := by
  simp [Scalar.sameKey, Scalar.keyForm]

/-- The settings of a section have different names, so that no key of `entries` comes twice. -/
theorem pairwise_entries (configuration : Configuration) (part : Section) :
    (configuration.entries part).Pairwise fun a b => a.1.sameKey b.1 = false := by
  cases part <;> simp [Configuration.entries, Section.settings, Setting.name, sameKey_text]

/-- The sections have different names, so that no key of `toEntries` comes twice. -/
theorem pairwise_toEntries (configuration : Configuration) :
    configuration.toEntries.Pairwise fun a b => a.1.sameKey b.1 = false := by
  simp [Configuration.toEntries, Section.all, Section.name, sameKey_text]

/-- A configuration with values of their kinds is made of texts: its `toEntries` are `Textual`. -/
theorem Configuration.WellTyped.textual (h : configuration.WellTyped) :
    Json.Textual (.mapping configuration.toEntries) := by
  refine .mapping (fun entry hentry => ?_) (pairwise_toEntries configuration) fun entry hentry => ?_
  · obtain ⟨part, -, rfl⟩ := List.mem_map.1 hentry
    exact ⟨part.name, rfl⟩
  · obtain ⟨part, -, rfl⟩ := List.mem_map.1 hentry
    refine .mapping (fun entry hentry => ?_) (pairwise_entries configuration part)
      fun entry hentry => ?_
    · obtain ⟨setting, -, rfl⟩ := List.mem_map.1 hentry
      exact ⟨setting.name, rfl⟩
    · obtain ⟨setting, -, rfl⟩ := List.mem_map.1 hentry
      exact (h setting).textual

/-- A configuration with values of their kinds has three levels at most, as `nestsBeyond` counts
them. -/
theorem Configuration.WellTyped.nestsBeyond (h : configuration.WellTyped) (levels : Nat) :
    (Value.mapping configuration.toEntries).nestsBeyond (levels + 3) = false := by
  simp [Configuration.toEntries, Configuration.entries, Section.all, Section.settings,
    Value.nestsBeyond, Value.anyEntryNestsBeyond, (h _).nestsBeyond levels]

/-- Nothing keeps a configuration with values of their kinds from being written: `writeFault?` finds
no fault. -/
theorem Configuration.WellTyped.writeFault? (h : configuration.WellTyped) (format : Format) :
    configuration.writeFault? format = none := by
  cases format with
  | json =>
    have hfault : Json.partFault? (.mapping configuration.toEntries) = none := by
      simp [Configuration.toEntries, Configuration.entries, Section.all, Section.settings,
        Json.partFault?, Json.memberFault?, Json.nameFault?, Scalar.digitFault?, (h _).partFault?]
    rw [Configuration.writeFault?, Json.writeFault?, Json.writableLevels, h.nestsBeyond 493, hfault]
    rfl
  | yaml =>
    have hfault : Yaml.entryDigitFault? configuration.toEntries = none := by
      simp [Configuration.toEntries, Configuration.entries, Section.all, Section.settings,
        Yaml.entryDigitFault?, Yaml.digitFault?, Scalar.digitFault?, (h _).digitFault?]
    rw [Configuration.writeFault?, Yaml.writeFault?, Yaml.writableLevels, h.nestsBeyond 326, hfault]
    rfl

/-! ## Files of configurations -/

variable {tree saved : FileTree} {path : Path} {format : Format}

/-- The format of a path whose suffix says it: `formatOf` is `ofSuffix?`. -/
theorem formatOf_eq_ok (h : Format.ofSuffix? path.suffix = some format) :
    formatOf path = .ok format := by
  rw [formatOf, h]

/-- **What keeps such a configuration from being saved** lies in the file tree alone: an error of
`save` is `ConfigError.file`. -/
theorem exists_file_of_save_eq_error (h : configuration.WellTyped)
    (hformat : Format.ofSuffix? path.suffix = some format) {error : ConfigError}
    (herror : save tree configuration path = .error error) : ∃ fault, error = .file fault := by
  have hwrite : configuration.write format = .ok (configuration.text format) := by
    rw [Configuration.write, h.writeFault? format]
  rw [save, formatOf_eq_ok hformat, ok_bind, hwrite, ok_bind] at herror
  cases hmake : tree.makeDirectories path.parent with
  | error fault =>
      rw [hmake] at herror
      cases herror
      exact ⟨fault, rfl⟩
  | ok made =>
      rw [hmake, Except.mapError, ok_bind] at herror
      cases hwritten : made.writeText path (configuration.text format) with
      | error fault =>
          rw [hwritten] at herror
          cases herror
          exact ⟨fault, rfl⟩
      | ok written =>
          rw [hwritten] at herror
          cases herror

/-- The file of a configuration that `save` has written holds its text. -/
theorem readText_of_save (hformat : Format.ofSuffix? path.suffix = some format)
    (hsave : save tree configuration path = .ok saved) :
    saved.pathExists path = .ok true ∧ saved.readText path = .ok (configuration.text format) := by
  rw [save, formatOf_eq_ok hformat, ok_bind, bind_eq_ok_iff] at hsave
  obtain ⟨text, hwrite, hsave⟩ := hsave
  obtain ⟨made, -, hwritten⟩ := bind_eq_ok_iff.1 hsave
  have htext : text = configuration.text format := by
    rw [Configuration.write] at hwrite
    split at hwrite
    · cases hwrite
    · exact (Except.ok.inj hwrite).symm
  subst htext
  cases hdone : made.writeText path (configuration.text format) with
  | error fault =>
      rw [hdone] at hwritten
      cases hwritten
  | ok written =>
      rw [hdone] at hwritten
      cases hwritten
      exact ⟨FileTree.pathExists_of_writeText hdone, FileTree.readText_of_writeText hdone⟩

/-- The value of a setting in the entries of its section: `lookupEntry` finds it by `setting.name`.
-/
theorem lookupEntry_entries (configuration : Configuration) (setting : Setting) :
    lookupEntry (.text setting.name) (configuration.entries setting.inSection) =
      some (configuration.value setting) := by
  cases setting <;>
    simp [Configuration.entries, Setting.inSection, Section.settings, lookupEntry, Setting.name,
      sameKey_text]

/-- A section of a configuration gives values to its own settings: `sectionLayer` undoes `entries`.
-/
theorem sectionLayer_entries (configuration : Configuration) (part : Section) :
    sectionLayer part (some (.mapping (configuration.entries part))) = .ok fun setting =>
      if setting.inSection = part then some (configuration.value setting) else none := by
  have hknown : unknownNames (part.settings.map Setting.name) (configuration.entries part) = [] := by
    cases part <;>
      simp [unknownNames, Configuration.entries, Section.settings, Setting.name, sameKey_text]
  rw [sectionLayer, hknown]
  refine congrArg Except.ok (funext fun setting => ?_)
  split
  · next hpart => rw [← hpart, lookupEntry_entries]
  · rfl

/-- **The entries of a configuration decide every setting**: `fileLayer` undoes `toEntries`. -/
theorem fileLayer_toEntries (configuration : Configuration) :
    fileLayer configuration.toEntries = .ok fun setting => some (configuration.value setting) := by
  have hknown : unknownNames (Section.all.map Section.name) configuration.toEntries = [] := by
    simp [unknownNames, Configuration.toEntries, Section.all, Section.name, sameKey_text]
  have hlookup : ∀ part : Section, lookupEntry (.text part.name) configuration.toEntries =
      some (.mapping (configuration.entries part)) := by
    intro part
    cases part <;>
      simp [Configuration.toEntries, Section.all, lookupEntry, Section.name, sameKey_text]
  rw [fileLayer, hknown]
  simp only [hlookup, sectionLayer_entries, ok_bind]
  refine congrArg Except.ok (funext fun setting => ?_)
  cases setting <;> rfl

/-- **A configuration that its file holds is loaded as it was**, whatever the defaults say: `load`
after `parseFile`. -/
theorem load_of_parseFile {sources : Sources} {text : String}
    (hexists : sources.tree.pathExists path = .ok true)
    (htext : sources.tree.readText path = .ok text)
    (hparse : parseFile path (unifyLineEnds text) = .ok configuration.toEntries)
    (hdefaults : ReadableDefaults sources.defaults?) :
    load sources (some path) false = .ok configuration := by
  obtain ⟨defaults, hlayer⟩ := exists_defaultsLayer_eq_ok_iff.2 hdefaults
  have hread : readFile sources.tree path = .ok configuration.toEntries := by
    rw [readFile, hexists, htext]
    exact hparse
  rw [load, loadFile, hread]
  simp only [ok_bind, hlayer, fileLayer_toEntries]
  rfl

/-! ## JSON -/

/-- The JSON text of a configuration holds its entries: `parseFile` gives `toEntries`. -/
theorem parseFile_text_json (h : configuration.WellTyped) (hpath : path.suffix = ".json") :
    parseFile path (unifyLineEnds (configuration.text .json)) = .ok configuration.toEntries := by
  have hunify : unifyLineEnds (configuration.text .json) = configuration.text .json :=
    unifyLineEnds_of_all (by
      rw [Configuration.text, Json.write, String.toList_ofList]
      exact Json.all_writeValue h.textual 0)
  have hblank : isBlankText (configuration.text .json) = false := by
    rw [isBlankText, Configuration.text, Json.write, String.toList_ofList]
    rfl
  have hread : Json.read (configuration.text .json) = .ok (.mapping configuration.toEntries) :=
    Json.read_write h.textual (h.nestsBeyond 987)
  have hformat : formatOf path = .ok .json := formatOf_eq_ok (by rw [hpath]; rfl)
  rw [hunify, parseFile, hformat, ok_bind]
  simp only [jsonValue, hblank, Bool.false_eq_true, if_false, hread, ok_bind]
  rfl

/-- **A configuration that is saved as JSON is loaded again as it was**, and only the file tree can
keep it from being saved. -/
theorem stores_json {sources : Sources} (h : configuration.WellTyped)
    (hpath : path.suffix = ".json") (hdefaults : ReadableDefaults sources.defaults?) :
    (∀ error, save sources.tree configuration path = .error error →
      ∃ fault, error = ConfigError.file fault) ∧
    ∀ saved, save sources.tree configuration path = .ok saved →
      load { sources with tree := saved } (some path) false = .ok configuration := by
  have hformat : Format.ofSuffix? path.suffix = some .json := by rw [hpath]; rfl
  refine ⟨fun error => exists_file_of_save_eq_error h hformat, fun saved hsave => ?_⟩
  obtain ⟨hexists, htext⟩ := readText_of_save hformat hsave
  exact load_of_parseFile hexists htext (parseFile_text_json h hpath) hdefaults

/-- A configuration with texts that have to be escaped in JSON. -/
def escapedConfiguration : Configuration where
  value
    | .includes => .ofTexts ["a\"b\\c", "\x07\n\r\t", "\u20ac 😀"]
    | .excludes => .ofTexts ["", "null", "- [ \x7b"]
    | .useDefaultExcludes | .followLinks => .ofBool true
    | .caseSensitive => .ofBool false
    | .level => .ofText "on"
    | .format => .ofText "\x00%\x7f"

theorem wellTyped_escapedConfiguration : escapedConfiguration.WellTyped := by
  intro setting
  cases setting <;> exact ⟨_, rfl⟩

/-- The path of a JSON file in a directory that is not there, so that `save` has to make it. -/
def jsonPath : Path :=
  .ofText "settings/c.json"

/-- The configuration with escapes is stored as JSON. -/
theorem stores_json_escapedConfiguration :
    escapedConfiguration.WellTyped ∧ jsonPath.suffix = ".json" ∧
      ReadableDefaults (some packagedDefaults) ∧
        ∃ saved, save {} escapedConfiguration jsonPath = .ok saved ∧
          load { tree := saved } (some jsonPath) false = .ok escapedConfiguration := by
  have hsuffix : jsonPath.suffix = ".json" := by decide +kernel
  have hisOk : (save {} escapedConfiguration jsonPath).isOk = true := by decide +kernel
  obtain ⟨saved, hsave⟩ := exists_eq_ok_of_isOk hisOk
  have hstores := @stores_json escapedConfiguration jsonPath { tree := {} }
    wellTyped_escapedConfiguration hsuffix readableDefaults_packagedDefaults
  exact ⟨wellTyped_escapedConfiguration, hsuffix, readableDefaults_packagedDefaults, saved, hsave,
    hstores.2 saved hsave⟩

/-! ## YAML -/

/-- A value of the kind of a setting is `Yaml.Outlined`: a list of texts, a text or a truth value.
-/
theorem Setting.Admits.outlined (h : setting.Admits value) : Yaml.Outlined value := by
  rcases h.cases with ⟨text, rfl⟩ | ⟨b, rfl⟩ | ⟨texts, rfl⟩
  · exact .text text
  · exact .bool b
  · exact .texts texts

/-- The name of a setting is a word: `Yaml.IsName`. -/
theorem isName_setting (setting : Setting) : Yaml.IsName setting.name := by
  cases setting <;> decide +kernel

/-- The name of a section is a word: `Yaml.IsName`. -/
theorem isName_section (part : Section) : Yaml.IsName part.name := by
  cases part <;> decide +kernel

/-- A configuration with values of their kinds is `Yaml.Outlined`. -/
theorem Configuration.WellTyped.outlined (h : configuration.WellTyped) :
    Yaml.Outlined (.mapping configuration.toEntries) := by
  refine .mapping (by simp [Configuration.toEntries, Section.all]) (fun entry hentry => ?_)
    (pairwise_toEntries configuration) fun entry hentry => ?_
  · obtain ⟨part, -, rfl⟩ := List.mem_map.1 hentry
    exact ⟨part.name, isName_section part, rfl⟩
  · obtain ⟨part, -, rfl⟩ := List.mem_map.1 hentry
    have hne : configuration.entries part ≠ [] := by
      cases part <;> simp [Configuration.entries, Section.settings]
    refine .mapping hne (fun entry hentry => ?_) (pairwise_entries configuration part)
      fun entry hentry => ?_
    · obtain ⟨setting, -, rfl⟩ := List.mem_map.1 hentry
      exact ⟨setting.name, isName_setting setting, rfl⟩
    · obtain ⟨setting, -, rfl⟩ := List.mem_map.1 hentry
      exact (h setting).outlined

/-- The YAML text of a configuration holds its entries: `parseFile` gives `toEntries`. -/
theorem parseFile_text_yaml (h : configuration.WellTyped)
    (hformat : Format.ofSuffix? path.suffix = some .yaml) :
    parseFile path (unifyLineEnds (configuration.text .yaml)) = .ok configuration.toEntries := by
  have hlevels : (Value.mapping configuration.toEntries).nestsBeyond (Yaml.outlinedLevels + 1) = false :=
    h.nestsBeyond 36
  have hunify : unifyLineEnds (configuration.text .yaml) = configuration.text .yaml :=
    unifyLineEnds_of_all (Yaml.all_isPlainChar_write h.outlined hlevels)
  have hread : Yaml.read (configuration.text .yaml) = .ok (.mapping configuration.toEntries) :=
    Yaml.read_write h.outlined hlevels
  have htruth : (Value.mapping configuration.toEntries).truth = true := rfl
  rw [hunify, parseFile, formatOf_eq_ok hformat, ok_bind]
  simp only [yamlValue, hread, htruth, if_true, ok_bind]
  rfl

/-- **A configuration that is saved as YAML is loaded again as it was**, and only the file tree can
keep it from being saved. -/
theorem stores_yaml {sources : Sources} (h : configuration.WellTyped)
    (hpath : path.suffix = ".yaml" ∨ path.suffix = ".yml")
    (hdefaults : ReadableDefaults sources.defaults?) :
    (∀ error, save sources.tree configuration path = .error error →
      ∃ fault, error = ConfigError.file fault) ∧
    ∀ saved, save sources.tree configuration path = .ok saved →
      load { sources with tree := saved } (some path) false = .ok configuration := by
  have hformat : Format.ofSuffix? path.suffix = some .yaml := by
    rcases hpath with hpath | hpath <;> rw [hpath] <;> rfl
  refine ⟨fun error => exists_file_of_save_eq_error h hformat, fun saved hsave => ?_⟩
  obtain ⟨hexists, htext⟩ := readText_of_save hformat hsave
  exact load_of_parseFile hexists htext (parseFile_text_yaml h hformat) hdefaults

/-- A configuration with texts that have to be quoted or folded in YAML. -/
def quotedConfiguration : Configuration where
  value
    | .includes => .ofTexts ["yes", "null", "010", "1:30", "=", "<<", "%a", "*.py", "- b", "[c]", "#d", ""]
    | .excludes => .ofTexts [" e: f", "two\n\nlines\n", "\x07\u20ac 😀",
        "a text with more words than a line can hold, so that it goes on in the next line \"of\" the file"]
    | .useDefaultExcludes => .ofBool true
    | .caseSensitive | .followLinks => .ofBool false
    | .level => .ofText "no"
    | .format => .ofText "%(levelname)s: 'x' \\ %(message)s "

theorem wellTyped_quotedConfiguration : quotedConfiguration.WellTyped := by
  intro setting
  cases setting <;> exact ⟨_, rfl⟩

/-- The path of a YAML file, `.yml`, in a directory that is not there. -/
def ymlPath : Path :=
  .ofText "settings/c.yml"

/-- The configuration with quoted texts is stored as YAML. -/
theorem stores_yaml_quotedConfiguration :
    quotedConfiguration.WellTyped ∧ (ymlPath.suffix = ".yaml" ∨ ymlPath.suffix = ".yml") ∧
      ReadableDefaults (some packagedDefaults) ∧
        ∃ saved, save {} quotedConfiguration ymlPath = .ok saved ∧
          load { tree := saved } (some ymlPath) false = .ok quotedConfiguration := by
  have hsuffix : ymlPath.suffix = ".yaml" ∨ ymlPath.suffix = ".yml" := by decide +kernel
  have hisOk : (save {} quotedConfiguration ymlPath).isOk = true := by decide +kernel
  obtain ⟨saved, hsave⟩ := exists_eq_ok_of_isOk hisOk
  have hstores := @stores_yaml quotedConfiguration ymlPath { tree := {} }
    wellTyped_quotedConfiguration hsuffix readableDefaults_packagedDefaults
  exact ⟨wellTyped_quotedConfiguration, hsuffix, readableDefaults_packagedDefaults, saved, hsave,
    hstores.2 saved hsave⟩

end TreeSift.Config
