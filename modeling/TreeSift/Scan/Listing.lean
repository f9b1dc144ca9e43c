import TreeSift.Scan.Scanner

/-! # Listings

A listing is the simplest use of a scan: patterns come as comma-separated texts, the default
excludes are always in use, and the answer is one list of paths. `listing` takes the kinds of entries
that the request asks for, `fileNames` and `directoryNames` take one kind, and `filePaths` makes paths
of the names of files. -/

namespace TreeSift

/-- Why there is no listing: `PatternList.compileTrimmed` or `Scanner.scan` gives none. -/
inductive ListingError where
  /-- A pattern does not compile. -/
  | pattern (error : PatternError)
  /-- The scan has no result. -/
  | scan (failure : ScanFailure)
  deriving DecidableEq, Repr

/-- **What to list.** The default excludes are in use and links are followed, as `ScanSettings` has
it unless told. -/
structure ListingRequest where
  /-- The directory as it is shown in front of the paths. -/
  shown : String
  /-- The directory. -/
  directory : Path
  /-- Include patterns, separated by commas. -/
  includes : Option String := none
  /-- Exclude patterns, separated by commas. -/
  excludes : Option String := none
  /-- Whether the directory stands in front of the paths. -/
  includeBasedir : Bool := true
  /-- Whether patterns tell upper case from lower case. -/
  caseSensitive : Bool := true
  /-- Whether files are listed. -/
  files : Bool := true
  /-- Whether directories are listed. -/
  directories : Bool := true

/-- A path `base` in front of a relative one, unless `name` starts from the root itself. -/
def joinShown (base name : String) : String :=
  if name.isEmpty then base
  else if name.startsWith "/" then name
  else if base.isEmpty ∨ base.endsWith "/" then base ++ name
  else base ++ "/" ++ name

/-- The patterns of an optional comma-separated text, cut by `splitList`. -/
def splitOptional (text : Option String) : List String :=
  (text.map splitList).getD []

/-- The part of a `ScanResult` that is listed: files first, then directories, each of them sorted.
-/
def ListingRequest.names (request : ListingRequest) (result : ScanResult) : List String :=
  let names :=
    (if request.files then result.includedFiles else []) ++
      (if request.directories then result.includedDirectories else [])
  if request.includeBasedir then names.map (joinShown request.shown) else names

/-- **The included paths** of the kinds that are asked for, out of one `Scanner.scan` without a
conductor. -/
def listing (tree : FileTree) (request : ListingRequest) : Except ListingError (List String) := do
  let includes ←
    (PatternList.compileTrimmed (splitOptional request.includes)).mapError .pattern
  let excludes ←
    (PatternList.compileTrimmed (splitOptional request.excludes)).mapError .pattern
  let settings : ScanSettings :=
    { basedir := some request.directory, includes, excludes,
      caseSensitive := request.caseSensitive }
  let (outcome, _, _) := (Scanner.ofSettings settings none true).scan tree
  return request.names (← outcome.mapError .scan)

/-- **The included files**, by `listing`. What the request says of kinds does not count. -/
def fileNames (tree : FileTree) (request : ListingRequest) : Except ListingError (List String) :=
  listing tree { request with files := true, directories := false }

/-- **The included directories**, by `listing`, the base directory among them if it is included. -/
def directoryNames (tree : FileTree) (request : ListingRequest) : Except ListingError (List String) :=
  listing tree { request with files := false, directories := true }

/-- **The included files as paths.** Whatever `caseSensitive` says, their patterns tell upper case
from lower case. -/
def filePaths (tree : FileTree) (request : ListingRequest) : Except ListingError (List Path) :=
  (fileNames tree { request with caseSensitive := true }).map fun names => names.map Path.ofText

end TreeSift
