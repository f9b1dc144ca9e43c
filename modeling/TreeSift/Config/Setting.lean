import TreeSift.Document.Value

/-! # Settings and their layers

A configuration gives every `Setting` a value. The value comes from layers: a `Layer` gives values
to some settings, and the first layer that has a value decides, for each setting on its own. What
no layer decides has its fallback. -/

namespace TreeSift.Config

open TreeSift.Document

/-- A section of a configuration, which holds the settings `Section.settings`. -/
inductive Section where
  /-- What a scan selects and enters. -/
  | scan
  /-- What is logged. -/
  | logging
  deriving DecidableEq, Repr

/-- **A setting**, which belongs to one `Section`. -/
inductive Setting where
  /-- The include patterns. -/
  | includes
  /-- The exclude patterns. -/
  | excludes
  /-- Whether the default excludes are in use. -/
  | useDefaultExcludes
  /-- Whether patterns tell upper case from lower case. -/
  | caseSensitive
  /-- Whether directories behind links are entered. -/
  | followLinks
  /-- The least level that is logged. -/
  | level
  /-- The form of log lines. -/
  | format
  deriving DecidableEq, Repr

namespace Section

/-- The name of a section, as it stands in a file. -/
def name : Section → String
  | .scan => "scan"
  | .logging => "logging"

/-- The sections in order, which is the one in which `Configuration.toEntries` writes them. -/
def all : List Section := [.scan, .logging]

/-- The settings of a section in order; `Setting.inSection` leads back. -/
def settings : Section → List Setting
  | .scan => [.includes, .excludes, .useDefaultExcludes, .caseSensitive, .followLinks]
  | .logging => [.level, .format]

end Section

namespace Setting

/-- The section of a setting, the one whose `Section.settings` it is among. -/
def inSection : Setting → Section
  | .level | .format => .logging
  | _ => .scan

/-- The name of a setting, as it stands in the section of a file. -/
def name : Setting → String
  | .includes => "includes"
  | .excludes => "excludes"
  | .useDefaultExcludes => "use_default_excludes"
  | .caseSensitive => "case_sensitive"
  | .followLinks => "follow_symlinks"
  | .level => "level"
  | .format => "format"

/-- The value of a setting that no `Layer` decides. -/
def fallback : Setting → Value
  | .includes | .excludes => .list []
  | .useDefaultExcludes | .caseSensitive | .followLinks => .ofBool true
  | .level => .ofText "WARNING"
  | .format => .ofText "%(asctime)s - %(name)s - %(levelname)s - %(message)s"

end Setting

/-- **Values for some settings**; `Configuration.ofLayers` puts several of them together. -/
abbrev Layer := Setting → Option Value

/-- **A value for every setting**, of whatever kind: that a `Value` is fit for its setting is seen
where it is used. -/
structure Configuration where
  /-- The value of a setting. -/
  value : Setting → Value

namespace Configuration

/-- **The configuration that layers make**, of which the first one counts most. What none of them
decides has its `Setting.fallback`. -/
def ofLayers (layers : List Layer) : Configuration where
  value setting := (layers.findSome? fun layer => layer setting).getD setting.fallback

/-- A layer in front of `layers` decides the settings that it has values for, and leaves the others
alone. -/
theorem value_ofLayers_cons (layer : Layer) (layers : List Layer) (setting : Setting) :
    (ofLayers (layer :: layers)).value setting =
      (layer setting).getD ((ofLayers layers).value setting) := by
  cases h : layer setting <;> simp [ofLayers, h]

/-- The entries of a section, one for each of `Section.settings`. -/
def entries (configuration : Configuration) (part : Section) : Entries :=
  part.settings.map fun setting => (.text setting.name, configuration.value setting)

/-- A configuration as the entries of a document: one mapping for each of `Section.all`. -/
def toEntries (configuration : Configuration) : Entries :=
  Section.all.map fun part => (.text part.name, .mapping (configuration.entries part))

end Configuration

end TreeSift.Config
