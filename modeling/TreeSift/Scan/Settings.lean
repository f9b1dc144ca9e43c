import TreeSift.FileTree.Path
import TreeSift.Pattern.Defaults

/-! # Settings of a scan

`ScanSettings` says where a scan starts and how it selects entries. `classify` sorts a relative
path into one of three classes, and `couldHoldIncluded` says whether a directory has to be entered
to find all included entries. -/

namespace TreeSift

open TreeSift.Glob (CaseMode)

/-- **What a scan is told.** As it stands in `Scanner.settings`, each field may change between
scans. -/
structure ScanSettings where
  /-- The directory where the scan starts. -/
  basedir : Option Path := none
  /-- Patterns of which an entry has to match one; without any, all entries are included. -/
  includes : PatternList := []
  /-- Patterns of which an entry must match none. -/
  excludes : PatternList := []
  /-- Whether the default excludes come after the excludes. -/
  useDefaultExcludes : Bool := true
  /-- Whether patterns tell upper case from lower case. -/
  caseSensitive : Bool := true
  /-- Whether directories behind links are entered. -/
  followLinks : Bool := true

/-- What `ScanSettings.classify` tells about an entry. -/
inductive Classification where
  /-- Included, and not excluded. -/
  | included
  /-- Included, but excluded. -/
  | excluded
  /-- Not included. -/
  | notIncluded
  deriving DecidableEq, Repr

namespace ScanSettings

/-- How characters are compared: the `CaseMode` that `caseSensitive` asks for. -/
def mode (settings : ScanSettings) : CaseMode :=
  CaseMode.ofSensitive settings.caseSensitive

/-- The excludes, followed by `defaultExcludePatterns` if these are in use. -/
def effectiveExcludes (settings : ScanSettings) : PatternList :=
  if settings.useDefaultExcludes then settings.excludes ++ defaultExcludePatterns
  else settings.excludes

/-- Whether a relative path is included: without include patterns it is, else
`PatternList.matchesPath` decides. -/
def isIncluded (settings : ScanSettings) (path : String) : Except CrossedGroup Bool :=
  if settings.includes.isEmpty then .ok true
  else PatternList.matchesPath settings.includes settings.mode path

/-- Whether a relative path is excluded, which `PatternList.matchesPath` decides on
`effectiveExcludes`. -/
def isExcluded (settings : ScanSettings) (path : String) : Except CrossedGroup Bool :=
  PatternList.matchesPath settings.effectiveExcludes settings.mode path

/-- **The class of a relative path.** The excludes are asked only if it is included, so that only
then they can fail with a `CrossedGroup`. -/
def classify (settings : ScanSettings) (path : String) : Except CrossedGroup Classification := do
  if !(← settings.isIncluded path) then return .notIncluded
  else if ← settings.isExcluded path then return .excluded
  else return .included

/-- Whether something included could be found below a directory. Unless `prune` is off or there are
no include patterns, `PatternList.matchesStart` has to say so. -/
def couldHoldIncluded (settings : ScanSettings) (prune : Bool) (path : String) : Bool :=
  !prune || settings.includes.isEmpty ||
    PatternList.matchesStart settings.includes settings.mode path

end ScanSettings

end TreeSift
