import TreeSift.Scan.Settings

/-! # What a scan has found

A `Tally` grows while a scan runs: one `ScanRecord` for each entry met, the links that were not
followed and the warnings, in the order in which they came. `Tally.result` sorts the names into the
lists of a `ScanResult`. -/

namespace TreeSift

/-- A problem that a scan met and went on from, as `Walk.warn` notes it. -/
structure ScanWarning where
  /-- The relative path of the directory concerned. -/
  path : String
  /-- What happened. -/
  message : String
  deriving DecidableEq, Repr

/-- An entry and its class, as `Walk.record` notes it. -/
structure ScanRecord where
  /-- Whether the entry is a directory, behind links. -/
  isDirectory : Bool
  /-- The relative path. -/
  name : String
  /-- The class of the relative path. -/
  classification : Classification
  deriving DecidableEq, Repr

/-- **What a scan has found so far**, in the order in which it was found. `Tally.result` sorts it.
-/
structure Tally where
  /-- The entries met. -/
  records : List ScanRecord := []
  /-- The relative paths of directories behind links that were not entered. -/
  notFollowed : List String := []
  /-- The problems met. -/
  warnings : List ScanWarning := []
  deriving DecidableEq, Repr

/-- **The outcome of a scan**: sorted lists of relative paths, and the warnings in the order in
which `Walk.warn` noted them. -/
structure ScanResult where
  /-- Files that are included. -/
  includedFiles : List String
  /-- Directories that are included. -/
  includedDirectories : List String
  /-- Files that are excluded. -/
  excludedFiles : List String
  /-- Directories that are excluded. -/
  excludedDirectories : List String
  /-- Files that are not included. -/
  notIncludedFiles : List String
  /-- Directories that are not included. -/
  notIncludedDirectories : List String
  /-- Directories behind links that were not entered. -/
  notFollowedLinks : List String
  /-- The problems met. -/
  warnings : List ScanWarning
  deriving DecidableEq, Repr

/-- Whether a scan has left nothing out: the lists of `Classification.excluded` and
`Classification.notIncluded` are empty. -/
def ScanResult.everythingIncluded (result : ScanResult) : Bool :=
  result.excludedFiles.isEmpty && result.excludedDirectories.isEmpty &&
    result.notIncludedFiles.isEmpty && result.notIncludedDirectories.isEmpty

/-- The list for the files or, at `true`, the directories of a class. -/
def ScanResult.list (result : ScanResult) : Bool → Classification → List String
  | false, .included => result.includedFiles
  | true, .included => result.includedDirectories
  | false, .excluded => result.excludedFiles
  | true, .excluded => result.excludedDirectories
  | false, .notIncluded => result.notIncludedFiles
  | true, .notIncluded => result.notIncludedDirectories

/-- Texts in the order of their code points, sorted by `List.mergeSort`. -/
def sortTexts (texts : List String) : List String :=
  texts.mergeSort fun a b => decide (a ≤ b)

/-- Sorting by `sortTexts` keeps the texts. -/
@[simp] theorem mem_sortTexts {text : String} {texts : List String} :
    text ∈ sortTexts texts ↔ text ∈ texts := by
  rw [sortTexts, List.mem_mergeSort]

namespace Tally

/-- The names of the entries of one kind and one class, in the order of the `records`. -/
def names (tally : Tally) (isDirectory : Bool) (classification : Classification) : List String :=
  (tally.records.filter fun r =>
    r.isDirectory == isDirectory && r.classification == classification).map (·.name)

/-- **The result of a scan that found this**, each of its lists sorted by `sortTexts`. -/
def result (tally : Tally) : ScanResult where
  includedFiles := sortTexts (tally.names false .included)
  includedDirectories := sortTexts (tally.names true .included)
  excludedFiles := sortTexts (tally.names false .excluded)
  excludedDirectories := sortTexts (tally.names true .excluded)
  notIncludedFiles := sortTexts (tally.names false .notIncluded)
  notIncludedDirectories := sortTexts (tally.names true .notIncluded)
  notFollowedLinks := sortTexts tally.notFollowed
  warnings := tally.warnings

/-- A list of the `result` holds the names of the records for it. -/
theorem list_result (tally : Tally) (isDirectory : Bool) (c : Classification) :
    tally.result.list isDirectory c = sortTexts (tally.names isDirectory c) := by
  cases isDirectory <;> cases c <;> rfl

end Tally

end TreeSift
