import TreeSift.FileTree.Basedir
import TreeSift.Scan.Walk

/-! # Scanners

A `Scanner` keeps settings, an optional conductor and the outcome of its last scan. `Scanner.scan`
runs a scan on a file tree. A base directory that cannot be used refuses the scan and changes
nothing; a scan that fails leaves no result; a scan that the conductor aborts has the result found
so far. -/

namespace TreeSift

/-- **Where a scanner is in its life.** Only `Scanner.run` moves it on. -/
inductive ScanPhase where
  /-- No scan has been completed. -/
  | notYetScanned
  /-- A scan is running. -/
  | scanning
  /-- The last scan has a result. -/
  | scanned
  deriving DecidableEq, Repr

/-- The word for a `ScanPhase`. -/
def ScanPhase.label : ScanPhase → String
  | .notYetScanned => "not_yet_scanned"
  | .scanning => "scanning"
  | .scanned => "scanned"

/-- Why a scan has no `ScanResult`. -/
inductive ScanFailure where
  /-- The base directory cannot be used. -/
  | basedir (problem : BasedirProblem)
  /-- The conductor raised something. -/
  | raised (raise : ConductorRaise)
  /-- An entry could not be examined. -/
  | unreadable (error : FileError)
  /-- A pattern failed to say whether it matches. -/
  | undecided (error : CrossedGroup)
  deriving DecidableEq, Repr

/-- The wording of a `ScanFailure`. -/
def ScanFailure.message : ScanFailure → String
  | .basedir problem => problem.message
  | .raised raise => raise.text
  | .unreadable error => error.message
  | .undecided error => error.message

/-- **A scanner**: what it was told, what its conductor was shown, and what its last scan gave. What
`ofSettings`, `scan` and the setters make has a result in the phase `ScanPhase.scanned` and in no
other. -/
structure Scanner where
  /-- The settings for the next scan. -/
  settings : ScanSettings := {}
  /-- Whether directories that cannot hold anything included are left out. -/
  prune : Bool := true
  /-- The conductor. -/
  conductor? : Option Conductor := none
  /-- What the conductor has been shown since it was set. -/
  visits : List Visit := []
  /-- The phase. -/
  phase : ScanPhase := .notYetScanned
  /-- The result of the last scan. -/
  result? : Option ScanResult := none

namespace Scanner

/-- What a caller is told who asks for a result while `Scanner.result?` is empty. -/
def noResultMessage : String :=
  "scan() must be called before reading results"

/-- A scanner with settings and without a result, in the phase `ScanPhase.notYetScanned`. -/
def ofSettings (settings : ScanSettings) (conductor? : Option Conductor) (prune : Bool) :
    Scanner :=
  { settings, conductor?, prune }

/-- Sets the base directory; whether it can be used is found out by `Scanner.scan`. -/
def setBasedir (scanner : Scanner) (path : Path) : Scanner :=
  { scanner with settings.basedir := some path }

/-- Sets the include patterns. If one does not compile, its `PatternError` is the answer and there
is no other scanner. -/
def setIncludes (scanner : Scanner) (includes : Except PatternError PatternList) :
    Except PatternError Scanner :=
  includes.map fun includes => { scanner with settings.includes := includes }

/-- Sets the exclude patterns. If one does not compile, its `PatternError` is the answer and there
is no other scanner. -/
def setExcludes (scanner : Scanner) (excludes : Except PatternError PatternList) :
    Except PatternError Scanner :=
  excludes.map fun excludes => { scanner with settings.excludes := excludes }

/-- Sets whether `defaultExcludePatterns` come after the exclude patterns. -/
def setUseDefaultExcludes (scanner : Scanner) (use : Bool) : Scanner :=
  { scanner with settings.useDefaultExcludes := use }

/-- Sets whether patterns tell upper case from lower case: the `CaseMode` of the scans to come. -/
def setCaseSensitive (scanner : Scanner) (sensitive : Bool) : Scanner :=
  { scanner with settings.caseSensitive := sensitive }

/-- Sets whether directories behind links are entered, which `Walk.enters` decides. -/
def setFollowLinks (scanner : Scanner) (follow : Bool) : Scanner :=
  { scanner with settings.followLinks := follow }

/-- Puts the default excludes in use, as `setUseDefaultExcludes` does. -/
def addDefaultExcludes (scanner : Scanner) : Scanner :=
  scanner.setUseDefaultExcludes true

/-- Sets the conductor, which has been shown nothing so far: `visits` starts anew. -/
def setConductor (scanner : Scanner) (conductor? : Option Conductor) : Scanner :=
  { scanner with conductor?, visits := [] }

/-- What a scan from a base directory does not change, as the `ScanPlan` of its walk. -/
def plan (scanner : Scanner) (base : Path) : ScanPlan where
  base
  settings := scanner.settings
  prune := scanner.prune
  conductor? := scanner.conductor?

/-- Runs a scan from a base directory that can be used: the walk `Walk.root` on the tree, and what
its end makes of the phase and the result. -/
def run (scanner : Scanner) (tree : FileTree) (base : Path) :
    Except ScanFailure ScanResult × Scanner × FileTree :=
  -- the result of the scan before goes as soon as this one starts
  let started := { scanner with phase := .scanning, result? := none }
  let (ended, state) :=
    ((Walk.root (scanner.plan base)).run { tree, visits := scanner.visits })
  let stopped := { started with visits := state.visits }
  let complete :=
    let result := state.tally.result
    (.ok result, { stopped with phase := .scanned, result? := some result }, state.tree)
  let failed (failure : ScanFailure) :=
    (.error failure, { stopped with phase := .notYetScanned }, state.tree)
  match ended with
  | .ok () | .error .aborted => complete
  | .error (.raised (.error text)) => failed (.raised (.error text))
  -- what ends the program is not handled, and the scan counts as running ever after
  | .error (.raised (.exit text)) => (.error (.raised (.exit text)), stopped, state.tree)
  | .error (.unreadable error) => failed (.unreadable error)
  | .error (.undecided error) => failed (.undecided error)

/-- **Scans a file tree.** The result comes with the scanner and the file tree afterwards. A base
directory in which `checkBasedir` finds a problem refuses the scan, and the scanner stays as it is.
-/
def scan (scanner : Scanner) (tree : FileTree) :
    Except ScanFailure ScanResult × Scanner × FileTree :=
  match scanner.settings.basedir, checkBasedir tree scanner.settings.basedir with
  | none, _ => (.error (.basedir .unset), scanner, tree)
  | some _, some problem => (.error (.basedir problem), scanner, tree)
  | some base, none => scanner.run tree base

/-- Whether an entry of a directory is itself a link, by `FileTree.isLinkIn`; nothing of the scanner
counts. -/
def isLinkIn (_ : Scanner) (tree : FileTree) (parent : Path) (name : String) :
    Except FileError Bool :=
  tree.isLinkIn parent name

/-- Whether a directory is reached through a link below the base directory, by
`FileTree.isReachedByLink`. -/
def isReachedByLink (scanner : Scanner) (tree : FileTree) (parent : Path) :
    Except FileError Bool :=
  tree.isReachedByLink parent scanner.settings.basedir

end Scanner

end TreeSift
