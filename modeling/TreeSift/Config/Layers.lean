import TreeSift.Config.Error
import TreeSift.Pattern.List
import TreeSift.Text.Case
import TreeSift.Yaml.Reader

/-! # Where the values of settings come from

Three layers give values to settings: environment variables, a configuration file, and the defaults
that come with the program. A file is checked strictly, and names nobody knows are refused; the
defaults may hold anything beside their mappings. -/

namespace TreeSift.Config

open TreeSift.Document
open TreeSift.Text (lowerText)

/-! ## Environment variables -/

/-- The environment variable of a setting; `Setting.format` has none. -/
def Setting.variable? : Setting → Option String
  | .includes => some "DIRSCAN_SCAN_INCLUDES"
  | .excludes => some "DIRSCAN_SCAN_EXCLUDES"
  | .useDefaultExcludes => some "DIRSCAN_SCAN_USE_DEFAULT_EXCLUDES"
  | .caseSensitive => some "DIRSCAN_SCAN_CASE_SENSITIVE"
  | .followLinks => some "DIRSCAN_SCAN_FOLLOW_SYMLINKS"
  | .level => some "DIRSCAN_LOGGING_LEVEL"
  | .format => none

/-- The words that a variable can say yes with, in any case, for `saysYes`. -/
def yesWords : List String :=
  ["true", "1", "yes", "on"]

/-- Whether the text of a variable says yes: in lower case it is one of `yesWords`. -/
def saysYes (text : String) : Bool :=
  yesWords.contains (lowerText text)

/-- The value that the text of a variable gives to a setting: patterns are cut at commas by
`splitList`, and a switch is on if `saysYes`. -/
def Setting.ofVariable (setting : Setting) (text : String) : Value :=
  match setting with
  | .includes | .excludes => .ofTexts (splitList text)
  | .useDefaultExcludes | .caseSensitive | .followLinks => .ofBool (saysYes text)
  | .level | .format => .ofText text

/-- **The layer of environment variables**, which are given by name. It decides the settings whose
`Setting.variable?` is there. -/
def variableLayer (environment : List (String × String)) : Layer := fun setting => do
  let name ← setting.variable?
  let text ← environment.lookup name
  return setting.ofVariable text

/-! ## Names in order -/

/-- Where a name lies that is a number: below all finite ones, among them by multiples of the least
step, or above them. The step is that of `Binary64.leastExponent`. -/
def numberPlace? : Scalar → Option (Int × Int)
  | .bool value => some (0, value.toInt * Int.pow 2 1074)
  | .int value => some (0, value * Int.pow 2 1074)
  | .float (.finite negative mantissa exponent) =>
    let steps := Int.ofNat mantissa * Int.pow 2 (exponent - Binary64.leastExponent).toNat
    some (0, if negative then -steps else steps)
  | .float (.infinite negative) => some (if negative then -1 else 1, 0)
  | .float .nan => some (2, 0)
  | _ => none

/-- Whether two names are of one kind, in which there is an order: texts, bytes, timestamps of one
`Timestamp.kind`, or numbers. -/
def comparable (a b : Scalar) : Bool :=
  match a, b with
  | .text _, .text _ | .bytes _, .bytes _ => true
  | .timestamp s, .timestamp t => s.kind = t.kind
  | a, b => (numberPlace? a).isSome && (numberPlace? b).isSome

/-- Whether a name comes before another one that is `comparable`, or is the same. -/
def atMost (a b : Scalar) : Bool :=
  match a, b with
  | .text s, .text t => decide (s ≤ t)
  | .timestamp s, .timestamp t => s.atMost t
  | .bytes s, .bytes t => !decide (t < s)
  | a, b =>
    let (side, steps) := (numberPlace? a).getD (0, 0)
    let (side', steps') := (numberPlace? b).getD (0, 0)
    side < side' || side = side' && steps ≤ steps'

/-- The first two names, one after the other, that are not `comparable`; the later of the two stands
first. -/
def firstMixed? : List Scalar → Option (Scalar × Scalar)
  | a :: b :: names => if comparable b a then firstMixed? (b :: names) else some (b, a)
  | _ => none

/-- Names in the order of `atMost`. They have to be of one kind, and not too long to be shown. -/
def sortNames (names : List Scalar) : Except ConfigError (List Scalar) :=
  match firstMixed? names, names.findSome? Scalar.digitFault? with
  | some (left, right), _ => .error (.mixedNames left right)
  | none, some fault => .error (.unwritable fault)
  | none, none => .ok (names.mergeSort atMost)

/-- The keys of a mapping that are none of the known names, as `Scalar.sameKey` compares them. -/
def unknownNames (known : List String) (entries : Entries) : List Scalar :=
  (entries.map (·.1)).filter fun key => !known.any fun name => (Scalar.text name).sameKey key

/-! ## Configuration files -/

/-- The values that the section of a file gives. A section that is not there or is null gives none,
and `unknownNames` in it are an error. -/
def sectionLayer (part : Section) (value? : Option Value) : Except ConfigError Layer :=
  match value? with
  | none => .ok fun _ => none
  | some (.scalar .null) => .ok fun _ => none
  | some (.mapping entries) =>
    match unknownNames (part.settings.map Setting.name) entries with
    | [] => .ok fun setting =>
        if setting.inSection = part then lookupEntry (.text setting.name) entries else none
    | name :: names => do
      throw (.unknownSettings part (← sortNames (name :: names)))
  | some _ => .error (.sectionNotMapping part)

/-- **The layer of a configuration file**, given the mapping that it holds: that of its two sections
by `sectionLayer`, if there are no others. -/
def fileLayer (entries : Entries) : Except ConfigError Layer :=
  match unknownNames (Section.all.map Section.name) entries with
  | [] => do
    let scan ← sectionLayer .scan (lookupEntry (.text Section.scan.name) entries)
    let logging ← sectionLayer .logging (lookupEntry (.text Section.logging.name) entries)
    return fun setting => (scan setting).or (logging setting)
  | name :: names => do
    throw (.unknownSections (← sortNames (name :: names)))

/-! ## Defaults -/

/-- The entries of a value in which names are looked up. What does not count as true by
`Value.truth` has none. -/
def defaultEntries (value : Value) : Except ConfigError Entries :=
  if value.truth then
    match value with
    | .mapping entries => .ok entries
    | other => .error (.defaultsNotMapping other.kindName)
  else .ok []

/-- The value of the defaults: nothing if there is no text, or if `Yaml.read` finds it malformed. -/
def defaultsValue (text? : Option String) : Except ConfigError Value :=
  match text? with
  | none => .ok .null
  | some text =>
    match Yaml.read text with
    | .ok value => .ok value
    | .error .malformed => .ok .null
    | .error refusal => .error (.refusedYaml refusal)

/-- **The layer of the defaults**, given their text if there is one. Unlike `fileLayer` it takes no
notice of unknown names. -/
def defaultsLayer (text? : Option String) : Except ConfigError Layer := do
  let sections ← defaultEntries (← defaultsValue text?)
  -- both sections are looked at before any setting is
  let entriesOf (part : Section) : Except ConfigError Entries :=
    defaultEntries ((lookupEntry (.text part.name) sections).getD .null)
  let scan ← entriesOf .scan
  let logging ← entriesOf .logging
  return fun setting =>
    match setting.inSection with
    | .scan => lookupEntry (.text setting.name) scan
    | .logging => lookupEntry (.text setting.name) logging

/-- The defaults that come with the program, in the form of a YAML file. They agree with
`Setting.fallback`. -/
def packagedDefaults : String :=
  "scan:\n  includes: []\n  excludes: []\n  use_default_excludes: true\n" ++
    "  case_sensitive: true\n  follow_symlinks: true\n\n" ++
    "logging:\n  level: WARNING\n" ++
    "  format: \"%(asctime)s - %(name)s - %(levelname)s - %(message)s\"\n"

end TreeSift.Config
