import TreeSift.Scan.Scanner

/-! # Sessions with a scanner

A `Session` is a scanner beside the file tree that it scans. `Session.perform` carries out one
request: a setting changes, a scan runs, its result is read, a link is asked about, or the file
tree changes. A request that fails is answered with the reason. -/

namespace TreeSift

/-- **Patterns as a caller gives them**: texts to compile, or a `PatternList`. -/
inductive PatternInput where
  /-- Texts, which are trimmed and compiled. -/
  | texts (raws : List String)
  /-- Patterns that are compiled already. -/
  | compiled (patterns : PatternList)

/-- The patterns that a caller means. Texts go through `PatternList.compileTrimmed`, which fails at
the first that does not compile. -/
def PatternInput.compile : PatternInput → Except PatternError PatternList
  | .texts raws => PatternList.compileTrimmed raws
  | .compiled patterns => .ok patterns

/-- A new scanner with patterns as a caller gives them. The include patterns are compiled first, so
that their `PatternError` hides one of the excludes. -/
def Scanner.create (settings : ScanSettings) (includes excludes : PatternInput)
    (conductor? : Option Conductor) (prune : Bool) : Except PatternError Scanner := do
  let includes ← includes.compile
  let excludes ← excludes.compile
  return ofSettings { settings with includes, excludes } conductor? prune

/-- What `Scanner.read` can tell of the result of a scan. -/
inductive ResultPart where
  /-- All of it. -/
  | whole
  /-- The files or directories of a class. -/
  | paths (isDirectory : Bool) (classification : Classification)
  /-- The directories behind links that were not entered. -/
  | notFollowedLinks
  /-- The problems met. -/
  | warnings
  /-- Whether nothing was left out. -/
  | everythingIncluded
  deriving DecidableEq, Repr

/-- **What a scanner is asked to do** by `Session.perform`, or what becomes of the file tree
meanwhile. -/
inductive ScannerRequest where
  /-- Start from a directory. -/
  | setBasedir (path : Path)
  /-- Include what matches patterns. -/
  | setIncludes (patterns : PatternInput)
  /-- Exclude what matches patterns. -/
  | setExcludes (patterns : PatternInput)
  /-- Exclude what is excluded by default, or not. -/
  | setUseDefaultExcludes (use : Bool)
  /-- Tell upper case from lower case, or not. -/
  | setCaseSensitive (sensitive : Bool)
  /-- Enter directories behind links, or not. -/
  | setFollowLinks (follow : Bool)
  /-- Exclude what is excluded by default. -/
  | addDefaultExcludes
  /-- Have scans watched by a conductor, or by none. -/
  | setConductor (conductor? : Option Conductor)
  /-- Scan. -/
  | scan
  /-- Tell a part of the result. -/
  | read (part : ResultPart)
  /-- Tell the settings. -/
  | readSettings
  /-- Tell the base directory. -/
  | readBasedir
  /-- Tell whether upper case is told from lower case. -/
  | readCaseSensitive
  /-- Tell whether an entry of a directory is a link. -/
  | isLinkIn (parent : Path) (name : String)
  /-- Tell whether a directory is reached through a link below the base directory. -/
  | isReachedByLink (parent : Path)
  /-- The file tree changes into another one. -/
  | changeTree (tree : FileTree)

/-- What a `ScannerRequest` is answered with. -/
inductive ScannerReply where
  /-- It is done. -/
  | done
  /-- A result. -/
  | result (result : ScanResult)
  /-- Relative paths. -/
  | paths (paths : List String)
  /-- Problems met by a scan. -/
  | warnings (warnings : List ScanWarning)
  /-- Yes or no. -/
  | answer (answer : Bool)
  /-- Settings. -/
  | settings (settings : ScanSettings)
  /-- A base directory, if there is one. -/
  | basedir (basedir : Option Path)

/-- Why a `ScannerRequest` fails. -/
inductive ScannerFault where
  /-- There is no result to read. -/
  | noResult
  /-- The scan has no result. -/
  | scan (failure : ScanFailure)
  /-- A pattern does not compile. -/
  | pattern (error : PatternError)
  /-- An entry could not be examined. -/
  | unreadable (error : FileError)
  deriving DecidableEq, Repr

/-- The wording of a `ScannerFault`. -/
def ScannerFault.message : ScannerFault → String
  | .noResult => Scanner.noResultMessage
  | .scan failure => failure.message
  | .pattern error => error.message
  | .unreadable error => error.message

/-- A part of a `ScanResult`, as the reply that tells it. -/
def ScanResult.part (result : ScanResult) : ResultPart → ScannerReply
  | .whole => .result result
  | .paths isDirectory classification => .paths (result.list isDirectory classification)
  | .notFollowedLinks => .paths result.notFollowedLinks
  | .warnings => .warnings result.warnings
  | .everythingIncluded => .answer result.everythingIncluded

/-- A part of the result of the last scan; without one the fault is `ScannerFault.noResult`. -/
def Scanner.read (scanner : Scanner) (part : ResultPart) : Except ScannerFault ScannerReply :=
  match scanner.result? with
  | some result => .ok (result.part part)
  | none => .error .noResult

/-- **A scanner and its file tree**, the state that `Session.perform` moves on. -/
structure Session where
  /-- The scanner. -/
  scanner : Scanner
  /-- The file tree. -/
  tree : FileTree

namespace Session

/-- A session with a new scanner, by `Scanner.ofSettings`. -/
def start (settings : ScanSettings) (conductor? : Option Conductor) (prune : Bool)
    (tree : FileTree) : Session :=
  ⟨Scanner.ofSettings settings conductor? prune, tree⟩

/-- Takes over a scanner with other patterns; at a `PatternError` the session stays as it is. -/
def adopt (session : Session) (changed : Except PatternError Scanner) :
    Except ScannerFault ScannerReply × Session :=
  match changed with
  | .ok scanner => (.ok .done, { session with scanner })
  | .error error => (.error (.pattern error), session)

/-- Scans the file tree by `Scanner.scan`; the tree afterwards is what the conductor has left. -/
def scan (session : Session) : Except ScannerFault ScannerReply × Session :=
  let (outcome, scanner, tree) := session.scanner.scan session.tree
  ((outcome.map .result).mapError .scan, ⟨scanner, tree⟩)

/-- **Carries out a request**: the answer, and the session afterwards. Only `ScannerRequest.scan`
can fail and still leave a changed session. -/
def perform (session : Session) (request : ScannerRequest) :
    Except ScannerFault ScannerReply × Session :=
  let scanner := session.scanner
  match request with
  | .setBasedir path => (.ok .done, { session with scanner := scanner.setBasedir path })
  | .setIncludes patterns => session.adopt (scanner.setIncludes patterns.compile)
  | .setExcludes patterns => session.adopt (scanner.setExcludes patterns.compile)
  | .setUseDefaultExcludes use =>
    (.ok .done, { session with scanner := scanner.setUseDefaultExcludes use })
  | .setCaseSensitive sensitive =>
    (.ok .done, { session with scanner := scanner.setCaseSensitive sensitive })
  | .setFollowLinks follow =>
    (.ok .done, { session with scanner := scanner.setFollowLinks follow })
  | .addDefaultExcludes => (.ok .done, { session with scanner := scanner.addDefaultExcludes })
  | .setConductor conductor? =>
    (.ok .done, { session with scanner := scanner.setConductor conductor? })
  | .scan => session.scan
  | .read part => (scanner.read part, session)
  | .readSettings => (.ok (.settings scanner.settings), session)
  | .readBasedir => (.ok (.basedir scanner.settings.basedir), session)
  | .readCaseSensitive => (.ok (.answer scanner.settings.caseSensitive), session)
  | .isLinkIn parent name =>
    (((scanner.isLinkIn session.tree parent name).map .answer).mapError .unreadable, session)
  | .isReachedByLink parent =>
    (((scanner.isReachedByLink session.tree parent).map .answer).mapError .unreadable, session)
  | .changeTree tree => (.ok .done, { session with tree })

/-- Carries out requests, one after the other, by `perform`. A request that fails does not stop the
others. -/
def run (session : Session) (requests : List ScannerRequest) : Session :=
  requests.foldl (fun session request => (session.perform request).2) session

end Session

end TreeSift
