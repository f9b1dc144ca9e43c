import TreeSift.FileTree.Links
import TreeSift.Scan.Conductor
import TreeSift.Scan.Tally

/-! # Walking a file tree

`Walk.root` visits the base directory and everything below it that the settings do not rule out: a
directory before its contents, and the contents of a directory in the order of their names. Each
entry is shown to the conductor and then recorded with its class.

A directory is not entered if it is excluded, if it is behind a link and links are not followed, or
if no include pattern could match anything below it. The recursion is written with `walkBudget`, which
is never spent, whatever a conductor makes of the file tree: no path to a directory has more names
than a path text has bytes. -/

namespace TreeSift

/-- A path relative to the base directory: the names that lead to it, the innermost one first, so
that `name :: parent` is an entry of `parent`. -/
abbrev RelativePath := List Name

namespace RelativePath

/-- The text of a relative path, with slashes between the names by `joinRelative`; that of `[]` is
empty. -/
def text : RelativePath → String
  | [] => ""
  | name :: parent => joinRelative (text parent) name.text

/-- The path on the file tree of an entry below the base directory, put together by `Path.child`. -/
def below (base : Path) : RelativePath → Path
  | [] => base
  | name :: parent => (below base parent).child name.text

end RelativePath

/-- **What does not change during a scan**: the arguments of `Walk.root`. -/
structure ScanPlan where
  /-- The base directory. -/
  base : Path
  /-- The settings. -/
  settings : ScanSettings
  /-- Whether directories that cannot hold anything included are left out. -/
  prune : Bool
  /-- The conductor. -/
  conductor? : Option Conductor

/-- What changes during a scan: the state of a `Walk`. -/
structure WalkState where
  /-- The file tree. -/
  tree : FileTree
  /-- What the conductor has been shown. -/
  visits : List Visit := []
  /-- What has been found. -/
  tally : Tally := {}

/-- Why a `Walk` ends before it is done. -/
inductive Halt where
  /-- The conductor answered so. -/
  | aborted
  /-- The conductor raised something. -/
  | raised (raise : ConductorRaise)
  /-- An entry could not be examined. -/
  | unreadable (error : FileError)
  /-- A pattern failed to say whether it matches. -/
  | undecided (error : CrossedGroup)
  deriving DecidableEq, Repr

/-- Steps of a walk: what they have changed in the `WalkState` stays when a `Halt` ends the walk. -/
abbrev Walk := ExceptT Halt (StateM WalkState)

namespace Walk

/-- Shows an entry to the conductor and does what its `Reaction` says. Without a conductor the
answer is `ScanAction.proceed`. -/
def conduct (plan : ScanPlan) (visit : Visit) : Walk ScanAction := do
  match plan.conductor? with
  | none => return .proceed
  | some conductor =>
    let state ← get
    let reaction := conductor.react state.visits visit state.tree
    set { state with tree := reaction.tree, visits := state.visits ++ [visit] }
    match reaction.outcome with
    | .error raise => throw (.raised raise)
    | .ok .abort => throw .aborted
    | .ok action => return action

/-- An answer of the patterns; one that fails ends the walk with `Halt.undecided`. -/
def ofAnswer {α : Type} (answer : Except CrossedGroup α) : Walk α :=
  match answer with
  | .ok value => return value
  | .error error => throw (.undecided error)

/-- Notes an entry with the class that `ScanSettings.classify` gives its relative path. -/
def record (plan : ScanPlan) (isDirectory : Bool) (path : RelativePath) :
    Walk Classification := do
  let name := RelativePath.text path
  let classification ← ofAnswer (plan.settings.classify name)
  modify fun state =>
    { state with
      tally.records := state.tally.records ++ [⟨isDirectory, name, classification⟩] }
  return classification

/-- Notes that a directory behind a link is not entered, in `Tally.notFollowed`. -/
def skipLink (path : RelativePath) : Walk Unit :=
  modify fun state =>
    { state with tally.notFollowed := state.tally.notFollowed ++ [RelativePath.text path] }

/-- The wording of a `FileTree.list` that failed: missing rights are told apart from other errors.
-/
def listingWarning (directory : Path) (error : FileError) : String :=
  let cause :=
    match error with
    | .system errno _ =>
      if errno.isPermission then "Permission denied accessing directory: "
      else "Error accessing directory: "
    | .nulCharacter => "Error accessing directory: "
  cause ++ directory.text ++ " - " ++ error.message

/-- Notes that a directory could not be listed, in `Tally.warnings`. -/
def warn (path : RelativePath) (directory : Path) (error : FileError) : Walk Unit :=
  modify fun state =>
    { state with
      tally.warnings :=
        state.tally.warnings ++ [⟨RelativePath.text path, listingWarning directory error⟩] }

/-- Whether a directory below the base directory is entered, given its class. The class
`Classification.notIncluded` leaves open whether it is excluded, so `isExcluded` is asked then. -/
def enters (plan : ScanPlan) (path : RelativePath) (isLink : Bool)
    (classification : Classification) : Except CrossedGroup Bool := do
  let name := RelativePath.text path
  if isLink && !plan.settings.followLinks then return false
  -- an exclude pattern rules out a directory even if it is not included
  let isExcluded ←
    match classification with
    | .included => pure false
    | .excluded => pure true
    | .notIncluded => plan.settings.isExcluded name
  return !isExcluded && plan.settings.couldHoldIncluded plan.prune name

/-- Records a directory and enters it by `descend`, if `enters` says so. One that is behind a link
which is not followed is noted by `skipLink`. -/
def directory (descend : RelativePath → Walk Unit) (plan : ScanPlan) (info : EntryInfo)
    (path : RelativePath) : Walk Unit := do
  let classification ← record plan true path
  if info.isLink && !plan.settings.followLinks then skipLink path
  if ← ofAnswer (enters plan path info.isLink classification) then descend path

/-- Visits entries of a directory in order. The flags say whether an earlier answer asked to skip
the other files, or the other directories. An entry that `FileTree.inspect` cannot examine ends the
walk. -/
def contents (descend : RelativePath → Walk Unit) (plan : ScanPlan) (parent : RelativePath) :
    List Name → Bool → Bool → Walk Unit
  | [], _, _ => return
  | name :: names, skipFiles, skipDirectories => do
    let path := name :: parent
    let place := RelativePath.below plan.base path
    match (← get).tree.inspect place with
    | .error error => throw (.unreadable error)
    | .ok info =>
      let skipped := if info.isDirectory then skipDirectories else skipFiles
      if skipped then contents descend plan parent names skipFiles skipDirectories
      else
        -- the conductor may change the tree, but what was found out about the entry stands
        let action ← conduct plan ⟨info.isDirectory, RelativePath.text path, place⟩
        if info.isDirectory then directory descend plan info path
        else
          let _ ← record plan false path
        contents descend plan parent names (skipFiles || action == .noMoreFiles)
          (skipDirectories || action == .noMoreDirectories)

/-- Lists a directory and visits what it holds by `contents`. A listing that fails is a warning, and
the walk goes on. -/
def enter (plan : ScanPlan) : Nat → RelativePath → Walk Unit
  | 0, _ => return
  | budget + 1, path => do
    let place := RelativePath.below plan.base path
    match (← get).tree.list place with
    | .error error => warn path place error
    | .ok names => contents (enter plan budget) plan path names false false

/-- How deep a walk can get: the text of a path to a directory has at most `maxPathBytes` bytes, and
each name takes one. -/
def walkBudget : Nat :=
  maxPathBytes + 1

/-- **Visits the base directory and what lies below it.** The base directory is always entered,
whatever its class, and `enter` does the rest. -/
def root (plan : ScanPlan) : Walk Unit := do
  let _ ← conduct plan ⟨true, "", plan.base⟩
  let _ ← record plan true []
  enter plan walkBudget []

end Walk

end TreeSift
