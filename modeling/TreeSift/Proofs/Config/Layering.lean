import TreeSift.Proofs.Config.Accepting

/-! # Which layer settles a setting

Four layers can have a value for a setting: the command line, the environment variables, the
configuration file and the defaults. The first one that has a value settles the setting, and the
fallback does if none has (`Layering.Settles`); what the layers say of other settings is of no account
(`Layering.Settles.of_agree`). A variable has the value that its text stands for (`variableFor?`), and
in a document the value of a setting stands in the mapping of its section (`entryFor?`). Main result:
exactly the configurations are loaded whose documents serve, with the values that stand in them below
the environment variables (`load_eq_ok_iff`). -/

namespace TreeSift.Config

open TreeSift.Document

/-! ## Layers in their order -/

/-- **The layers that settings are settled by**, each of them a `Layer` that has a value for some
settings. -/
structure Layering where
  /-- What is told on the command line. -/
  told : Layer
  /-- The environment variables. -/
  environment : Layer
  /-- The configuration file. -/
  file : Layer
  /-- The defaults. -/
  defaults : Layer

namespace Layering

variable {layers other : Layering} {setting : Setting} {value : Value}

/-- **The value that layers settle for a setting**: that of the command line if it has one,
otherwise that of the environment variables, otherwise that of the file, otherwise that of the
defaults, and otherwise `setting.fallback`. -/
inductive Settles (layers : Layering) (setting : Setting) : Value → Prop where
  /-- It is told on the command line. -/
  | told {value : Value} (h : layers.told setting = some value) : Settles layers setting value
  /-- It is not told, and its variable is set. -/
  | environment {value : Value} (htold : layers.told setting = none)
      (h : layers.environment setting = some value) : Settles layers setting value
  /-- It is not told and has no variable, and the file has it. -/
  | file {value : Value} (htold : layers.told setting = none)
      (henvironment : layers.environment setting = none) (h : layers.file setting = some value) :
      Settles layers setting value
  /-- Only the defaults have it. -/
  | defaults {value : Value} (htold : layers.told setting = none)
      (henvironment : layers.environment setting = none) (hfile : layers.file setting = none)
      (h : layers.defaults setting = some value) : Settles layers setting value
  /-- No layer has it. -/
  | fallback (htold : layers.told setting = none) (henvironment : layers.environment setting = none)
      (hfile : layers.file setting = none) (hdefaults : layers.defaults setting = none) :
      Settles layers setting setting.fallback

/-- The layers in the order in which they count, for `Configuration.ofLayers`. -/
def toList (layers : Layering) : List Layer :=
  [layers.told, layers.environment, layers.file, layers.defaults]

/-- **Layers settle the value that their configuration has**: `Settles` and
`Configuration.ofLayers`. -/
theorem settles_iff :
    layers.Settles setting value ↔
      (Configuration.ofLayers layers.toList).value setting = value := by
  simp only [toList, Configuration.value_ofLayers_cons]
  constructor
  · intro h
    cases h with
    | told h => rw [h, Option.getD_some]
    | environment htold h => rw [htold, h, Option.getD_none, Option.getD_some]
    | file htold henvironment h =>
      simp only [htold, henvironment, h, Option.getD_none, Option.getD_some]
    | defaults htold henvironment hfile h =>
      simp only [htold, henvironment, hfile, h, Option.getD_none, Option.getD_some]
    | fallback htold henvironment hfile hdefaults =>
      simp only [htold, henvironment, hfile, hdefaults, Option.getD_none]
      rfl
  · rintro rfl
    cases htold : layers.told setting with
    | some value => exact .told htold
    | none =>
      cases henvironment : layers.environment setting with
      | some value => exact .environment htold henvironment
      | none =>
        cases hfile : layers.file setting with
        | some value => exact .file htold henvironment hfile
        | none =>
          cases hdefaults : layers.defaults setting with
          | some value => exact .defaults htold henvironment hfile hdefaults
          | none => exact .fallback htold henvironment hfile hdefaults

/-- Layers settle one value at most for a setting: `Settles` determines it. -/
theorem Settles.unique {second : Value} (h : layers.Settles setting value)
    (hsecond : layers.Settles setting second) : value = second :=
  (settles_iff.1 h).symm.trans (settles_iff.1 hsecond)

/-- **Each layer says the same of a setting** as the one of `other` in its place. -/
structure Agree (layers other : Layering) (setting : Setting) : Prop where
  /-- The command lines tell the same. -/
  told : layers.told setting = other.told setting
  /-- The variables are the same. -/
  environment : layers.environment setting = other.environment setting
  /-- The files have the same value. -/
  file : layers.file setting = other.file setting
  /-- The defaults have the same value. -/
  defaults : layers.defaults setting = other.defaults setting

/-- **Nothing but what layers say of a setting settles it**: layers that `Agree` settle the same
value. -/
theorem Settles.of_agree (hagree : layers.Agree other setting) (h : layers.Settles setting value) :
    other.Settles setting value := by
  cases h with
  | told h => exact .told (hagree.told ▸ h)
  | environment htold h => exact .environment (hagree.told ▸ htold) (hagree.environment ▸ h)
  | file htold henvironment h =>
    exact .file (hagree.told ▸ htold) (hagree.environment ▸ henvironment) (hagree.file ▸ h)
  | defaults htold henvironment hfile h =>
    exact .defaults (hagree.told ▸ htold) (hagree.environment ▸ henvironment) (hagree.file ▸ hfile)
      (hagree.defaults ▸ h)
  | fallback htold henvironment hfile hdefaults =>
    exact .fallback (hagree.told ▸ htold) (hagree.environment ▸ henvironment) (hagree.file ▸ hfile)
      (hagree.defaults ▸ hdefaults)

end Layering

/-! ## Variables and documents as layers -/

/-- **The value of a setting among environment variables**: the text of its variable, even if it is
empty, turned into a value of its kind by `Setting.ofVariable`. -/
def variableFor? (environment : List (String × String)) : Layer := fun setting =>
  match setting.variable? with
  | some name => (environment.lookup name).map setting.ofVariable
  | none => none

/-- Environment variables have the values that they stand for: `variableLayer` is `variableFor?`. -/
theorem variableLayer_eq (environment : List (String × String)) :
    variableLayer environment = variableFor? environment := by
  funext setting
  unfold variableLayer variableFor?
  cases setting.variable? with
  | none => rfl
  | some name =>
    simp only [Option.bind_eq_bind, Option.bind_some]
    cases environment.lookup name <;> rfl

/-- The value of a setting in its section, given the value of the section if it is there: what
`lookupEntry` finds under `setting.name`. -/
def settingIn? (value? : Option Value) (setting : Setting) : Option Value :=
  match value? with
  | some (.mapping settings) => lookupEntry (.text setting.name) settings
  | _ => none

/-- **The value of a setting in a document**, given the entries of the document: `settingIn?` its
section. -/
def entryFor? (entries : Entries) : Layer := fun setting =>
  settingIn? (lookupEntry (.text setting.inSection.name) entries) setting

variable {entries : Entries} {part : Section} {value? : Option Value} {layer : Layer}
  {text? : Option String} {setting : Setting}

/-- The section of a file has the values of its own settings, as `settingIn?` finds them. -/
theorem sectionLayer_apply (h : sectionLayer part value? = .ok layer) (setting : Setting) :
    layer setting = if setting.inSection = part then settingIn? value? setting else none := by
  unfold sectionLayer at h
  split at h
  · cases h
    simp [settingIn?]
  · cases h
    simp [settingIn?]
  · split at h
    · cases h
      rfl
    · obtain ⟨names, -, hthrow⟩ := bind_eq_ok_iff.1 h
      cases hthrow
  · cases h

/-- **A file has the values that stand in its sections**: `fileLayer` is `entryFor?`. -/
theorem eq_entryFor_of_fileLayer (h : fileLayer entries = .ok layer) :
    layer = entryFor? entries := by
  unfold fileLayer at h
  split at h
  · obtain ⟨scan, hscan, h⟩ := bind_eq_ok_iff.1 h
    obtain ⟨logging, hlogging, h⟩ := bind_eq_ok_iff.1 h
    cases h
    funext setting
    -- of the two sections, only that of the setting has a value for it
    simp only [sectionLayer_apply hscan, sectionLayer_apply hlogging, entryFor?]
    cases hsection : setting.inSection <;> simp
  · obtain ⟨names, -, hthrow⟩ := bind_eq_ok_iff.1 h
    cases hthrow

/-- **Entries give a layer exactly if they are those of a configuration**, and this layer is
`entryFor?` of them. -/
theorem fileLayer_eq_ok_iff :
    fileLayer entries = .ok layer ↔ IsConfiguration entries ∧ layer = entryFor? entries := by
  constructor
  · intro h
    refine ⟨?_, eq_entryFor_of_fileLayer h⟩
    rcases fileLayer_cases entries with ⟨hconfiguration, -⟩ | ⟨-, error, herror, -⟩
    · exact hconfiguration
    · rw [h] at herror
      cases herror
  · rintro ⟨hconfiguration, rfl⟩
    rcases fileLayer_cases entries with ⟨-, layer, hlayer⟩ | ⟨hnot, -⟩
    · rw [hlayer, eq_entryFor_of_fileLayer hlayer]
    · exact absurd hconfiguration hnot

/-- The entries of the defaults, if they are a mapping or count as false: those of `defaultsValue`.
-/
def defaultSections (text? : Option String) : Except ConfigError Entries := do
  defaultEntries (← defaultsValue text?)

/-- A section of the defaults has the values that stand in it: `settingIn?` finds what `lookupEntry`
does. -/
theorem lookupEntry_of_defaultEntries (h : defaultEntries (value?.getD .null) = .ok entries) :
    lookupEntry (.text setting.name) entries = settingIn? value? setting := by
  cases value? with
  | none =>
    cases h
    rfl
  | some value =>
    cases value with
    | mapping settings =>
      rw [Option.getD_some, defaultEntries_mapping] at h
      cases h
      rfl
    | _ =>
      -- what is no mapping has entries only if it counts as false, and none then
      unfold defaultEntries at h
      split at h
      · cases h
      · cases h
        rfl

/-- A mapping `HoldsSections` exactly if each of its sections has entries. -/
theorem holdsSections_mapping_iff :
    HoldsSections (.mapping entries) ↔ ∀ part : Section, ∃ settings,
      defaultEntries ((lookupEntry (.text part.name) entries).getD .null) = .ok settings := by
  rw [← exists_sections_iff, defaultEntries_mapping]
  simp

/-- The sections of the defaults have the values that stand in them: both together are `entryFor?`.
-/
theorem eq_entryFor_of_defaultEntries {sections scan logging : Entries}
    (hscan : defaultEntries ((lookupEntry (.text Section.scan.name) sections).getD .null) =
      .ok scan)
    (hlogging : defaultEntries ((lookupEntry (.text Section.logging.name) sections).getD .null) =
      .ok logging) :
    (fun setting : Setting =>
      match setting.inSection with
      | .scan => lookupEntry (.text setting.name) scan
      | .logging => lookupEntry (.text setting.name) logging) = entryFor? sections := by
  funext setting
  rw [entryFor?]
  cases setting.inSection with
  | scan => exact lookupEntry_of_defaultEntries hscan
  | logging => exact lookupEntry_of_defaultEntries hlogging

/-- **Defaults give a layer exactly if they are a mapping that holds sections**, or count as false,
and this layer is `entryFor?` of them. -/
theorem defaultsLayer_eq_ok_iff :
    defaultsLayer text? = .ok layer ↔ ∃ sections, defaultSections text? = .ok sections ∧
      HoldsSections (.mapping sections) ∧ layer = entryFor? sections := by
  simp only [defaultsLayer, defaultSections, bind_eq_ok_iff, holdsSections_mapping_iff]
  constructor
  · rintro ⟨value, hvalue, sections, hsections, scan, hscan, logging, hlogging, h⟩
    cases h
    refine ⟨sections, ⟨value, hvalue, hsections⟩, fun part => ?_,
      eq_entryFor_of_defaultEntries hscan hlogging⟩
    cases part with
    | scan => exact ⟨scan, hscan⟩
    | logging => exact ⟨logging, hlogging⟩
  · rintro ⟨sections, ⟨value, hvalue, hsections⟩, hparts, rfl⟩
    obtain ⟨scan, hscan⟩ := hparts .scan
    obtain ⟨logging, hlogging⟩ := hparts .logging
    refine ⟨value, hvalue, sections, hsections, scan, hscan, logging, hlogging, ?_⟩
    rw [← eq_entryFor_of_defaultEntries hscan hlogging]
    rfl

/-! ## Loading -/

/-- **The documents of a configuration**, the file and the defaults, by their entries. -/
structure Documents where
  /-- The entries of the file. -/
  file : Entries
  /-- The entries of the defaults. -/
  defaults : Entries

/-- The entries of a configuration file by `readFile`. Without a file there are none. -/
def fileEntries (tree : FileTree) : Option Path → Except ConfigError Entries
  | none => .ok []
  | some path => readFile tree path

/-- **A configuration can be loaded from the documents**: they are the ones that are there, the file
holds what `IsConfiguration`, and the defaults are what `HoldsSections`. -/
structure Documents.Serve (documents : Documents) (sources : Sources) (path? : Option Path) :
    Prop where
  /-- The entries of the file. -/
  file : fileEntries sources.tree path? = .ok documents.file
  /-- The entries of the defaults. -/
  defaults : defaultSections sources.defaults? = .ok documents.defaults
  /-- The file holds a configuration. -/
  isConfiguration : IsConfiguration documents.file
  /-- The defaults hold sections. -/
  holdsSections : HoldsSections (.mapping documents.defaults)

/-- There are no other documents to load a configuration from: `Serve` determines them. -/
theorem Documents.Serve.unique {documents other : Documents} {sources : Sources}
    {path? : Option Path} (h : documents.Serve sources path?) (hother : other.Serve sources path?) :
    documents = other := by
  cases documents
  cases other
  obtain rfl := Except.ok.inj (h.file.symm.trans hother.file)
  obtain rfl := Except.ok.inj (h.defaults.symm.trans hother.defaults)
  rfl

/-- The layers of documents, below what is `told` and the environment variables. -/
def Documents.layering (documents : Documents) (environment : List (String × String))
    (told : Layer) : Layering where
  told := told
  environment := variableFor? environment
  file := entryFor? documents.file
  defaults := entryFor? documents.defaults

variable {sources : Sources} {path : Path} {path? : Option Path} {layers : List Layer}
  {configuration : Configuration}

/-- Without a file, the defaults are the only layer: `loadFile sources none`. -/
theorem loadFile_none_eq_ok_iff :
    loadFile sources none = .ok layers ↔
      ∃ sections, defaultSections sources.defaults? = .ok sections ∧
        HoldsSections (.mapping sections) ∧ layers = [entryFor? sections] := by
  simp only [loadFile, bind_eq_ok_iff, defaultsLayer_eq_ok_iff]
  constructor
  · rintro ⟨_, ⟨sections, hsections, hholds, rfl⟩, h⟩
    cases h
    exact ⟨sections, hsections, hholds, rfl⟩
  · rintro ⟨sections, hsections, hholds, rfl⟩
    exact ⟨_, ⟨sections, hsections, hholds, rfl⟩, rfl⟩

/-- The layer of a file comes before that of the defaults: `loadFile sources (some path)`. -/
theorem loadFile_some_eq_ok_iff :
    loadFile sources (some path) = .ok layers ↔ ∃ entries sections,
      readFile sources.tree path = .ok entries ∧ defaultSections sources.defaults? = .ok sections ∧
        IsConfiguration entries ∧ HoldsSections (.mapping sections) ∧
          layers = [entryFor? entries, entryFor? sections] := by
  simp only [loadFile, bind_eq_ok_iff, defaultsLayer_eq_ok_iff, fileLayer_eq_ok_iff]
  constructor
  · rintro ⟨entries, hread, _, ⟨sections, hsections, hholds, rfl⟩, _, ⟨hconfiguration, rfl⟩, h⟩
    cases h
    exact ⟨entries, sections, hread, hsections, hconfiguration, hholds, rfl⟩
  · rintro ⟨entries, sections, hread, hsections, hconfiguration, hholds, rfl⟩
    exact ⟨entries, hread, _, ⟨sections, hsections, hholds, rfl⟩, _, ⟨hconfiguration, rfl⟩, rfl⟩

/-- A document without entries does not count as a layer: `entryFor? []` has no value for any
setting. -/
theorem ofLayers_entryFor_nil (first last : Layer) :
    Configuration.ofLayers [first, entryFor? [], last] = .ofLayers [first, last] := by
  have hnone : entryFor? [] = fun _ => none := rfl
  refine congrArg Configuration.mk (funext fun setting => ?_)
  simp [hnone, List.findSome?_cons]

/-- **The configurations that can be loaded** are those of documents that `Serve`, below the
environment variables. -/
theorem load_eq_ok_iff :
    load sources path? true = .ok configuration ↔ ∃ documents : Documents,
      documents.Serve sources path? ∧ configuration =
        .ofLayers [variableFor? sources.environment, entryFor? documents.file,
          entryFor? documents.defaults] := by
  rw [load, bind_eq_ok_iff, variableLayer_eq]
  cases path? with
  | none =>
    -- the file that is not there stands for one without entries
    simp only [loadFile_none_eq_ok_iff]
    constructor
    · rintro ⟨_, ⟨sections, hsections, hholds, rfl⟩, h⟩
      cases h
      exact ⟨⟨[], sections⟩, ⟨rfl, hsections, isConfiguration_nil, hholds⟩,
        (ofLayers_entryFor_nil _ _).symm⟩
    · rintro ⟨⟨_, sections⟩, ⟨hfile, hsections, -, hholds⟩, rfl⟩
      cases hfile
      rw [ofLayers_entryFor_nil]
      exact ⟨_, ⟨sections, hsections, hholds, rfl⟩, rfl⟩
  | some path =>
    simp only [loadFile_some_eq_ok_iff]
    constructor
    · rintro ⟨_, ⟨entries, sections, hread, hsections, hconfiguration, hholds, rfl⟩, h⟩
      cases h
      exact ⟨⟨entries, sections⟩, ⟨hread, hsections, hconfiguration, hholds⟩, rfl⟩
    · rintro ⟨⟨entries, sections⟩, ⟨hread, hsections, hconfiguration, hholds⟩, rfl⟩
      exact ⟨_, ⟨entries, sections, hread, hsections, hconfiguration, hholds, rfl⟩, rfl⟩

end TreeSift.Config
