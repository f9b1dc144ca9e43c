import TreeSift.Config.Setting
import TreeSift.Document.WriteFault
import TreeSift.FileTree.Error
import TreeSift.FileTree.Path
import TreeSift.Json.Reader
import TreeSift.Yaml.Refusal

/-! # Errors of configurations

Why a configuration cannot be loaded or saved, and how this is worded. -/

namespace TreeSift.Config

open TreeSift.Document

/-- **Why a configuration cannot be loaded or saved**, by `load` and `save`. -/
inductive ConfigError where
  /-- There is no file. -/
  | notFound (path : Path)
  /-- The file cannot be examined, read or written. -/
  | file (error : FileError)
  /-- The name of the file does not end like that of a format. -/
  | unsupportedFormat (suffix : String)
  /-- The file holds no JSON. -/
  | malformedJson (path : Path) (text : String) (fault : Json.Fault)
  /-- An integer in a JSON file has too many digits. -/
  | integerTooLong (digits : Nat)
  /-- A list in a JSON file is nested too deeply, or an object is. -/
  | tooDeep (isObject : Bool)
  /-- The file holds no YAML. -/
  | malformedYaml (path : Path)
  /-- A value in a YAML text cannot be made. -/
  | refusedYaml (refusal : Yaml.Refusal)
  /-- The file holds no mapping. -/
  | notMapping (path : Path)
  /-- There are sections with unknown names. -/
  | unknownSections (names : List Scalar)
  /-- A section is no mapping. -/
  | sectionNotMapping (part : Section)
  /-- There are settings with unknown names. -/
  | unknownSettings (part : Section) (names : List Scalar)
  /-- A value cannot be written. -/
  | unwritable (fault : WriteFault)
  /-- Unknown names of two kinds have no order. -/
  | mixedNames (left right : Scalar)
  /-- The defaults, or a section of them, are no mapping. -/
  | defaultsNotMapping (kindName : String)

/-- Scalars in square brackets, separated by commas, each as `Scalar.shown` gives it. -/
def shownScalars (scalars : List Scalar) : String :=
  "[" ++ ", ".intercalate (scalars.map Scalar.shown) ++ "]"

/-- The wording for two names that have no order, which `comparable` finds out. -/
def mixedMessage : Scalar → Scalar → String
  | .timestamp s, .timestamp t =>
    if s.kind = .day ∨ t.kind = .day then "can't compare datetime.datetime to datetime.date"
    else "can't compare offset-naive and offset-aware datetimes"
  | left, right =>
    "'<' not supported between instances of '" ++ left.kindName ++ "' and '" ++
      right.kindName ++ "'"

/-- What the message of a failure to parse a file starts with, in `ConfigError.message`. -/
def parseFailure (path : Path) : String :=
  "Failed to parse configuration file " ++ path.text

/-- **The wording of an error**, as `runScan` reports it. -/
def ConfigError.message : ConfigError → String
  | .notFound path => "Configuration file not found: " ++ path.text
  | .file error => error.message
  | .unsupportedFormat suffix => "Unsupported config file format: " ++ suffix
  | .malformedJson path text fault => parseFailure path ++ ": " ++ fault.message text
  | .integerTooLong digits => Text.tooManyDigitsMessage digits
  | .tooDeep isObject =>
    WriteFault.tooDeep.message ++ " while decoding a JSON " ++
      (if isObject then "object" else "array") ++ " from a unicode string"
  | .malformedYaml path => parseFailure path
  | .refusedYaml refusal => refusal.message
  | .notMapping path => "Configuration file " ++ path.text ++ " must contain a mapping"
  | .unknownSections names => "Unknown configuration sections: " ++ shownScalars names
  | .sectionNotMapping part => "Configuration section '" ++ part.name ++ "' must be a mapping"
  | .unknownSettings part names =>
    "Unknown keys in configuration section '" ++ part.name ++ "': " ++ shownScalars names
  | .unwritable fault => fault.message
  | .mixedNames left right => mixedMessage left right
  | .defaultsNotMapping kindName => "'" ++ kindName ++ "' object has no attribute 'get'"

end TreeSift.Config
