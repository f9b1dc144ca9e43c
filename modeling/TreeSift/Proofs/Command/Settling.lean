import TreeSift.Command.Scan
import TreeSift.Proofs.Config.Layering

/-! # What settles the settings of a scan

Before the command that scans a directory does so, it decides every setting of the scan
(`ScanCommand.prepare`). `ScanCommand.Builds` says what it builds its scanner with: each setting has
the value that the layers settle, of which the command line comes first. Main result: the command
builds exactly such scanners, and nothing counts for a setting but what the layers say of this setting
(`ScanCommand.settles_settings`). -/

namespace TreeSift.Command

open TreeSift.Config
open TreeSift.Document
open TreeSift.Text (trimText)

/-! ## What the command line tells -/

/-- Texts as the value of a setting, `.ofTexts`. Without any, nothing is told. -/
def toldTexts? (texts : List String) : Option Value :=
  if texts.isEmpty then none else some (.ofTexts texts)

/-- **The layer of the command line**: what `options` tell. It has nothing to say of the log. -/
def ScanOptions.told (options : ScanOptions) : Layer
  | .includes => toldTexts? options.includes
  | .excludes => toldTexts? options.excludes
  | .useDefaultExcludes => options.useDefaultExcludes?.map .ofBool
  | .caseSensitive => options.caseSensitive?.map .ofBool
  | .followLinks => options.followLinks?.map .ofBool
  | .level | .format => none

/-! ## Settings with values -/

/-- **Patterns are those of a value**: there is one for each of its items in order, and each item is
a text that compiles to its pattern when `trimText` leaves out the blanks around it. -/
def ArePatternsOf (value : Value) (patterns : PatternList) : Prop :=
  ∃ items, itemsOf? value = some items ∧ List.Forall₂ (fun item pattern =>
    ∃ text, item = .ofText text ∧ Pattern.compile (trimText text) = .ok pattern) items patterns

/-- **The settings of a scan have the value** in a setting. Those for the log are none of a scan, so
that they have any. -/
def Takes (settings : ScanSettings) : Setting → Value → Prop
  | .includes, value => ArePatternsOf value settings.includes
  | .excludes, value => ArePatternsOf value settings.excludes
  | .useDefaultExcludes, value => settings.useDefaultExcludes = value.truth
  | .caseSensitive, value => settings.caseSensitive = value.truth
  | .followLinks, value => settings.followLinks = value.truth
  | .level, _ | .format, _ => True

/-- **Two scans have the same** in a setting: equal fields, as far as the setting is one of a scan.
-/
def SameIn (settings other : ScanSettings) : Setting → Prop
  | .includes => settings.includes = other.includes
  | .excludes => settings.excludes = other.excludes
  | .useDefaultExcludes => settings.useDefaultExcludes = other.useDefaultExcludes
  | .caseSensitive => settings.caseSensitive = other.caseSensitive
  | .followLinks => settings.followLinks = other.followLinks
  | .level | .format => True

variable {value configured : Value} {pattern : Pattern} {patterns : PatternList}
  {settings other : ScanSettings} {setting : Setting} {told : List String}
  {base : Path} {options : ScanOptions} {configuration : Configuration}

/-- A value gives a pattern by `patternOf` exactly if it is a text that compiles to it. -/
theorem patternOf_eq_ok_iff :
    patternOf value = .ok pattern ↔
      ∃ text, value = .ofText text ∧ Pattern.compile (trimText text) = .ok pattern := by
  unfold patternOf Value.ofText
  split
  · simp [mapError_eq_ok_iff]
  · simp
  · next other hnotText hnotBytes =>
    refine iff_of_false nofun ?_
    rintro ⟨text, rfl, -⟩
    exact hnotText text rfl

/-- **The patterns of a value** are the ones that `patternsOf` gives. -/
theorem patternsOf_eq_ok_iff : patternsOf value = .ok patterns ↔ ArePatternsOf value patterns := by
  unfold patternsOf ArePatternsOf
  cases itemsOf? value with
  | none => simp
  | some items => simp [mapM_eq_ok_iff, patternOf_eq_ok_iff]

/-- Texts that are told give their patterns: `compileTrimmed` is `ArePatternsOf` of `.ofTexts`. -/
theorem compileTrimmed_eq_ok_iff {texts : List String} :
    PatternList.compileTrimmed texts = .ok patterns ↔ ArePatternsOf (.ofTexts texts) patterns := by
  rw [PatternList.compileTrimmed, PatternList.compileAll, mapM_eq_ok_iff, List.forall₂_map_left_iff,
    ArePatternsOf, Value.ofTexts]
  simp [itemsOf?, List.forall₂_map_left_iff, Value.ofText]

/-- **The patterns of the command line come before those of the configuration**, and never beside
them: `choosePatterns` takes one or the other. -/
theorem choosePatterns_eq_ok_iff :
    choosePatterns told configured = .ok patterns ↔
      ArePatternsOf ((toldTexts? told).getD configured) patterns := by
  unfold choosePatterns toldTexts?
  split
  · exact patternsOf_eq_ok_iff
  · exact mapError_eq_ok_iff.trans compileTrimmed_eq_ok_iff

/-- A switch of the command line comes before that of the configuration: `getD` and `truth` commute.
-/
theorem getD_truth (switch? : Option Bool) (configured : Value) :
    switch?.getD configured.truth = ((switch?.map .ofBool).getD configured).truth := by
  cases switch? <;> rfl

/-- **A scan is set up exactly if it takes, in each setting, the value that is told**, or that of
the configuration if none is: `scanSettings` and `Takes`. -/
theorem scanSettings_eq_ok_iff :
    scanSettings base options configuration = .ok settings ↔
      settings.basedir = some base ∧ ∀ setting,
        Takes settings setting ((options.told setting).getD (configuration.value setting)) := by
  simp only [scanSettings, bind_eq_ok_iff, choosePatterns_eq_ok_iff]
  constructor
  · rintro ⟨includes, hincludes, excludes, hexcludes, h⟩
    cases h
    refine ⟨rfl, fun setting => ?_⟩
    cases setting with
    | includes => exact hincludes
    | excludes => exact hexcludes
    | useDefaultExcludes | caseSensitive | followLinks => exact getD_truth _ _
    | level | format => trivial
  · -- the settings are made of what they take
    rintro ⟨hbase, htakes⟩
    refine ⟨settings.includes, htakes .includes, settings.excludes, htakes .excludes, ?_⟩
    have huse := htakes .useDefaultExcludes
    have hcase := htakes .caseSensitive
    have hfollow := htakes .followLinks
    simp only [Takes, ScanOptions.told] at huse hcase hfollow
    simp only [getD_truth, ← hbase, ← huse, ← hcase, ← hfollow]
    rfl

/-- Scans that take the same value have the same: `Takes` determines a field. -/
theorem Takes.sameIn (h : Takes settings setting value) (hother : Takes other setting value) :
    SameIn settings other setting := by
  have hpatterns : ∀ {first second : PatternList}, ArePatternsOf value first →
      ArePatternsOf value second → first = second := fun hfirst hsecond =>
    Except.ok.inj ((patternsOf_eq_ok_iff.2 hfirst).symm.trans (patternsOf_eq_ok_iff.2 hsecond))
  cases setting with
  | includes | excludes => exact hpatterns h hother
  | useDefaultExcludes | caseSensitive | followLinks => exact h.trans hother.symm
  | level | format => trivial

/-- The log is set up by the values of its own settings alone: `loggingFault?` asks for `.level` and
`.format`. -/
theorem loggingFault?_congr {first second : Configuration}
    (hlevel : first.value .level = second.value .level)
    (hformat : first.value .format = second.value .format) :
    loggingFault? first = loggingFault? second := by
  rw [loggingFault?, loggingFault?, hlevel, hformat]

/-! ## The command -/

/-- **A command that scans a directory**: what it can look at, the directory, and its options. -/
structure ScanCommand where
  /-- The file tree, the environment variables, the defaults and the screen. -/
  sources : Sources
  /-- The directory. -/
  base : Path
  /-- What is told on the command line. -/
  options : ScanOptions

namespace ScanCommand

/-- **The settings that the command builds its scanner with**, unless it has ended before: the part
of `runScan` in front of the scan. -/
def prepare (command : ScanCommand) : Except (Except Breakdown Outcome) ScanSettings :=
  match load command.sources command.options.config? true with
  | .error error => .error (Outcome.failing command.sources.screen error.message)
  | .ok configuration =>
    match loggingFault? configuration with
    | some fault => .error (Outcome.failing command.sources.screen fault.message)
    | none => (scanSettings command.base command.options configuration).mapError
      (endAfter command.sources.screen)

/-- What the command does with its scanner: the part of `runScan` from the scan on. -/
def conclude (command : ScanCommand) (settings : ScanSettings) : Except Breakdown Outcome :=
  match ((Scanner.ofSettings settings none true).scan command.sources.tree).1 with
  | .ok result =>
    Outcome.printing 0 (showResult command.sources.screen result command.options.showExcluded)
  | .error failure => endAfter command.sources.screen (.scan failure)

/-- The layers of the command, given its documents: what is told, the environment, the file and the
defaults. -/
def layers (command : ScanCommand) (documents : Documents) : Layering :=
  documents.layering command.sources.environment command.options.told

/-- **What the command builds its scanner with**: its documents serve, each setting has the value
that the layers settle, and the scan starts from the directory and `Takes` these values. -/
structure Builds (command : ScanCommand) (documents : Documents) (configuration : Configuration)
    (settings : ScanSettings) : Prop where
  /-- The documents serve. -/
  serve : documents.Serve command.sources command.options.config?
  /-- Each setting has the value that the layers settle. -/
  settles : ∀ setting, (command.layers documents).Settles setting (configuration.value setting)
  /-- Nothing is wrong with the settings for the log. -/
  logging : loggingFault? configuration = none
  /-- The scan starts from the directory. -/
  basedir : settings.basedir = some command.base
  /-- The scan takes the value of each setting. -/
  takes : ∀ setting, Takes settings setting (configuration.value setting)

variable {command : ScanCommand} {documents : Documents}

/-- **The command decides all settings before it scans**: `runScan` is `prepare` and then
`conclude`. -/
theorem runScan_eq (command : ScanCommand) :
    runScan command.sources command.base command.options =
      match command.prepare with
      | .error ended => ended
      | .ok settings => command.conclude settings := by
  rw [runScan, prepare]
  cases load command.sources command.options.config? true with
  | error error => rfl
  | ok configuration =>
    dsimp only
    cases loggingFault? configuration with
    | some fault => rfl
    | none =>
      -- only the patterns are left that could end the command before its scan
      dsimp only [scanResult]
      cases scanSettings command.base command.options configuration with
      | error breakdown => rfl
      | ok settings =>
        simp only [ok_bind, Except.mapError, conclude]
        cases ((Scanner.ofSettings settings none true).scan command.sources.tree).1 <;> rfl

/-- The layers settle what is told, and otherwise what the configuration has that `load` gives. -/
theorem settles_layers_iff :
    (command.layers documents).Settles setting value ↔
      (command.options.told setting).getD ((Configuration.ofLayers
        [variableFor? command.sources.environment, entryFor? documents.file,
          entryFor? documents.defaults]).value setting) = value := by
  rw [Layering.settles_iff, Layering.toList, Configuration.value_ofLayers_cons]
  rfl

/-- The command has settings by `prepare` exactly if a configuration is loaded that the log and the
scan can be set up with. -/
theorem prepare_eq_ok_iff_exists_load :
    command.prepare = .ok settings ↔
      ∃ configuration, load command.sources command.options.config? true = .ok configuration ∧
        loggingFault? configuration = none ∧
          scanSettings command.base command.options configuration = .ok settings := by
  rw [prepare]
  cases load command.sources command.options.config? true with
  | error error => simp
  | ok configuration =>
    simp only [Except.ok.injEq, exists_eq_left']
    cases loggingFault? configuration <;> simp [mapError_eq_ok_iff]

/-- **The command builds its scanner with settled values**, and does so whenever it can: `prepare`
and `Builds`. -/
theorem prepare_eq_ok_iff :
    command.prepare = .ok settings ↔
      ∃ documents configuration, command.Builds documents configuration settings := by
  simp only [prepare_eq_ok_iff_exists_load, load_eq_ok_iff, scanSettings_eq_ok_iff]
  constructor
  · rintro ⟨_, ⟨documents, hserve, rfl⟩, hlogging, hbase, htakes⟩
    -- what is told comes before what is loaded, and leaves the log alone
    refine ⟨documents, ⟨fun setting => _⟩, hserve, fun setting => settles_layers_iff.2 rfl, ?_,
      hbase, htakes⟩
    exact (loggingFault?_congr rfl rfl).trans hlogging
  · rintro ⟨documents, configuration, hserve, hsettles, hlogging, hbase, htakes⟩
    have hvalues := fun setting => settles_layers_iff.1 (hsettles setting)
    have hlog := loggingFault?_congr (hvalues .level) (hvalues .format)
    refine ⟨_, ⟨documents, hserve, rfl⟩, hlog.trans hlogging, hbase, fun setting => ?_⟩
    exact (hvalues setting).symm ▸ htakes setting

/-- **Commands whose layers say the same of a setting have the same in it**: `SameIn` from `Agree`.
-/
theorem Builds.sameIn {other : ScanCommand} {otherDocuments : Documents}
    {otherConfiguration : Configuration} {otherSettings : ScanSettings}
    (h : command.Builds documents configuration settings)
    (hother : other.Builds otherDocuments otherConfiguration otherSettings)
    (hagree : (command.layers documents).Agree (other.layers otherDocuments) setting) :
    SameIn settings otherSettings setting := by
  have hvalue : configuration.value setting = otherConfiguration.value setting :=
    ((h.settles setting).of_agree hagree).unique (hother.settles setting)
  exact (h.takes setting).sameIn (hvalue ▸ hother.takes setting)

/-- **What settles the settings of a scan.** The command scans with a scanner that it has built
before; it builds exactly those that have, in each setting, the value that the command line, the
environment variables, the file, the defaults and the fallback settle in this order; and two commands
whose layers say the same of a setting have the same in it, whatever they say of others. -/
theorem settles_settings (command : ScanCommand) :
    runScan command.sources command.base command.options =
        (match command.prepare with
        | .error ended => ended
        | .ok settings => command.conclude settings) ∧
      (∀ settings, command.prepare = .ok settings ↔
        ∃ documents configuration, command.Builds documents configuration settings) ∧
      ∀ (other : ScanCommand) (documents otherDocuments : Documents)
        (configuration otherConfiguration : Configuration) (settings otherSettings : ScanSettings)
        (setting : Setting),
        command.Builds documents configuration settings →
          other.Builds otherDocuments otherConfiguration otherSettings →
            (command.layers documents).Agree (other.layers otherDocuments) setting →
              SameIn settings otherSettings setting := by
  refine ⟨runScan_eq command, fun _ => prepare_eq_ok_iff, ?_⟩
  intro other documents otherDocuments configuration otherConfiguration settings otherSettings
    setting hbuilds hother hagree
  exact hbuilds.sameIn hother hagree

/-! ## A command with all layers -/

/-- What has been decided of a scan, with the texts of its patterns: includes, excludes and the
three switches. -/
def decided (settings : ScanSettings) : List String × List String × Bool × Bool × Bool :=
  (settings.includes.sources, settings.excludes.sources, settings.useDefaultExcludes,
    settings.caseSensitive, settings.followLinks)

/-- Defaults with all settings of a scan but `follow_symlinks`. -/
def layeredDefaults : String :=
  "scan:\n  includes: [d]\n  excludes: [d]\n" ++
    "  use_default_excludes: false\n  case_sensitive: false\n"

/-- A configuration file with some of these settings, and with nothing under `logging`. -/
def layeredText : String :=
  "scan:\n  includes: [f, g]\n  excludes: [f, g]\n  case_sensitive: true\nlogging:\n"

/-- **A command with a setting for each layer to settle**: the includes are told, the excludes are
left empty by their variable, and the letter case, the default excludes and the links are settled by
the file, the defaults and the fallback. -/
def layeredCommand : ScanCommand where
  sources :=
    { tree := ⟨[([yamlName], .file layeredText)], by decide⟩
      environment := [("DIRSCAN_SCAN_INCLUDES", "v, w"), ("DIRSCAN_SCAN_EXCLUDES", "")]
      defaults? := some layeredDefaults }
  base := .ofText "."
  options := { includes := ["a"], config? := some yamlPath }

/-- The command `layeredCommand` with one more variable, for the links. -/
def linklessCommand : ScanCommand :=
  { layeredCommand with
    sources.environment :=
      ("DIRSCAN_SCAN_FOLLOW_SYMLINKS", "off") :: layeredCommand.sources.environment }

/-- Each layer settles its setting in `layeredCommand`, and the variable of `linklessCommand`
settles one more. -/
theorem decided_commands :
    layeredCommand.prepare.toOption.map decided = some (["a"], [], false, true, true) ∧
      linklessCommand.prepare.toOption.map decided = some (["a"], [], false, true, false) := by
  decide +kernel

/-- A command for which something has been `decided` builds a scanner so. -/
theorem exists_prepare_eq_ok {shown : List String × List String × Bool × Bool × Bool}
    (h : command.prepare.toOption.map decided = some shown) :
    ∃ settings, command.prepare = .ok settings ∧ decided settings = shown := by
  cases hprepare : command.prepare with
  | error ended => simp [hprepare, Except.toOption] at h
  | ok settings => exact ⟨settings, rfl, by simpa [hprepare, Except.toOption] using h⟩

/-- The two commands `Agree` on the excludes: that there are none. -/
theorem agree_layeredCommand (documents : Documents) :
    (layeredCommand.layers documents).Agree (linklessCommand.layers documents) .excludes where
  told := rfl
  environment := by
    have hlookup : layeredCommand.sources.environment.lookup "DIRSCAN_SCAN_EXCLUDES" =
        linklessCommand.sources.environment.lookup "DIRSCAN_SCAN_EXCLUDES" := by decide
    exact congrArg (Option.map Setting.excludes.ofVariable) hlookup
  file := rfl
  defaults := rfl

/-- **The command with all layers builds its scanner as they settle it**, and has the same excludes
as `linklessCommand`. -/
theorem settles_settings_layeredCommand :
    ∃ documents configuration settings otherConfiguration otherSettings,
      layeredCommand.Builds documents configuration settings ∧
        linklessCommand.Builds documents otherConfiguration otherSettings ∧
          (layeredCommand.layers documents).Agree (linklessCommand.layers documents) .excludes ∧
            SameIn settings otherSettings .excludes ∧
              decided settings = (["a"], [], false, true, true) ∧
                decided otherSettings = (["a"], [], false, true, false) := by
  obtain ⟨-, hbuilt, hsame⟩ := settles_settings layeredCommand
  obtain ⟨settings, hprepare, hdecided⟩ := exists_prepare_eq_ok decided_commands.1
  obtain ⟨otherSettings, hother, hotherDecided⟩ := exists_prepare_eq_ok decided_commands.2
  obtain ⟨documents, configuration, hbuilds⟩ := (hbuilt settings).1 hprepare
  obtain ⟨otherDocuments, otherConfiguration, hotherBuilds⟩ := prepare_eq_ok_iff.1 hother
  -- the commands read the same documents
  obtain rfl : documents = otherDocuments :=
    hbuilds.serve.unique ⟨hotherBuilds.serve.file, hotherBuilds.serve.defaults,
      hotherBuilds.serve.isConfiguration, hotherBuilds.serve.holdsSections⟩
  have hagree := agree_layeredCommand documents
  exact ⟨documents, configuration, settings, otherConfiguration, otherSettings, hbuilds,
    hotherBuilds, hagree, hsame _ _ _ _ _ _ _ _ hbuilds hotherBuilds hagree, hdecided,
    hotherDecided⟩

end ScanCommand

end TreeSift.Command
