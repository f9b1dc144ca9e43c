import TreeSift.Config.Layers
import TreeSift.FileTree.Edit
import TreeSift.Json.Writer
import TreeSift.Screen.Extent
import TreeSift.Text.LineEnds
import TreeSift.Yaml.Writer

/-! # Loading and saving configurations

`load` makes a configuration out of its layers; the configuration file is JSON or YAML by the end of
its name. `save` writes one in either format. -/

namespace TreeSift.Config

open TreeSift.Document
open TreeSift.Text (isBlankText unifyLineEnds)

/-- The format of a configuration file, which `formatOf` finds out. -/
inductive Format where
  /-- JSON. -/
  | json
  /-- YAML. -/
  | yaml
  deriving DecidableEq, Repr

/-- The format that the end of a name says, as `Path.suffix` cuts it off. -/
def Format.ofSuffix? : String → Option Format
  | ".yaml" | ".yml" => some .yaml
  | ".json" => some .json
  | _ => none

/-- The format of the file at a path, by `Format.ofSuffix?`; any other suffix is an error. -/
def formatOf (path : Path) : Except ConfigError Format :=
  match Format.ofSuffix? path.suffix with
  | some format => .ok format
  | none => .error (.unsupportedFormat path.suffix)

/-- The value that a JSON text holds, by `Json.read`; a blank text holds an empty mapping. -/
def jsonValue (path : Path) (text : String) : Except ConfigError Value :=
  if isBlankText text then .ok (.mapping [])
  else
    match Json.read text with
    | .ok value => .ok value
    | .error (.malformed fault) => .error (.malformedJson path text fault)
    | .error (.integerTooLong digits) => .error (.integerTooLong digits)
    | .error .listTooDeep => .error (.tooDeep false)
    | .error .objectTooDeep => .error (.tooDeep true)

/-- The value that a YAML text holds, by `Yaml.read`; one that does not count as true is an empty
mapping. -/
def yamlValue (path : Path) (text : String) : Except ConfigError Value :=
  match Yaml.read text with
  | .ok value => .ok (if value.truth then value else .mapping [])
  | .error .malformed => .error (.malformedYaml path)
  | .error refusal => .error (.refusedYaml refusal)

/-- The mapping that the text of a configuration file holds, by `jsonValue` or `yamlValue`. Any
other value is an error. -/
def parseFile (path : Path) (text : String) : Except ConfigError Entries := do
  let value ←
    match ← formatOf path with
    | .json => jsonValue path text
    | .yaml => yamlValue path text
  match value with
  | .mapping entries => return entries
  | _ => throw (.notMapping path)

/-- The mapping that the configuration file at a path holds, by `parseFile` on its text with line
ends unified. -/
def readFile (tree : FileTree) (path : Path) : Except ConfigError Entries := do
  if !(← (tree.pathExists path).mapError .file) then throw (.notFound path)
  let text ← (tree.readText path).mapError .file
  parseFile path (unifyLineEnds text)

/-- **What a configuration is loaded from**, and what the command that loads it is shown on: the
surroundings of `Command.run`. -/
structure Sources where
  /-- The file tree. -/
  tree : FileTree
  /-- The environment variables. -/
  environment : List (String × String) := []
  /-- The text of the defaults, if there is one. -/
  defaults? : Option String := some packagedDefaults
  /-- The columns of the screen. -/
  screen : Screen.Extent := .usual

/-- The layers of a file and of the defaults, or of the defaults alone. An error of `readFile` comes
before one of `defaultsLayer`, and that before one of `fileLayer`. -/
def loadFile (sources : Sources) (path? : Option Path) : Except ConfigError (List Layer) := do
  match path? with
  | none => return [← defaultsLayer sources.defaults?]
  | some path =>
    let entries ← readFile sources.tree path
    -- the defaults are read before the names in the file are checked
    let defaults ← defaultsLayer sources.defaults?
    return [← fileLayer entries, defaults]

/-- **Loads a configuration** by `Configuration.ofLayers`: environment variables before the file,
and the file before the defaults. -/
def load (sources : Sources) (path? : Option Path) (useVariables : Bool) :
    Except ConfigError Configuration := do
  let layers ← loadFile sources path?
  return .ofLayers (if useVariables then variableLayer sources.environment :: layers else layers)

/-- What keeps a configuration from being written in a format: the first `WriteFault` of its
entries. -/
def Configuration.writeFault? (configuration : Configuration) : Format → Option WriteFault
  | .json => Json.writeFault? (.mapping configuration.toEntries)
  | .yaml => Yaml.writeFault? configuration.toEntries

/-- The text of a configuration in a format, by `Json.write` or `Yaml.write` on its entries. -/
def Configuration.text (configuration : Configuration) : Format → String
  | .json => Json.write (.mapping configuration.toEntries)
  | .yaml => Yaml.write configuration.toEntries

/-- **A configuration as a text** in a format, if `writeFault?` finds nothing that keeps it from
being written. -/
def Configuration.write (configuration : Configuration) (format : Format) :
    Except ConfigError String :=
  match configuration.writeFault? format with
  | some fault => .error (.unwritable fault)
  | none => .ok (configuration.text format)

/-- **Saves a configuration** to a path, in the format of `formatOf`. The directories above it are
made, but not before the text is. -/
def save (tree : FileTree) (configuration : Configuration) (path : Path) :
    Except ConfigError FileTree := do
  let text ← configuration.write (← formatOf path)
  let tree ← (tree.makeDirectories path.parent).mapError .file
  (tree.writeText path text).mapError .file

end TreeSift.Config
