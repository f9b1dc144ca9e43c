import TreeSift.FileTree.Edit

/-! # Conductors

A `Conductor` watches a scan and steers it. It is shown every entry before the entry is recorded, may
change the file tree, and answers with a `ScanAction` or raises something of its own. What it does
may depend on everything that it has been shown before.

A `ConductorRaise` is an `error`, which whoever handles errors takes notice of, or an `exit`, which
asks for the end of the whole program and passes by all that only handles errors. -/

namespace TreeSift

/-- What a scan does after an entry that a `Conductor` was shown. -/
inductive ScanAction where
  /-- Go on. -/
  | proceed
  /-- Skip the other files of the same directory. -/
  | noMoreFiles
  /-- Skip the other directories of the same directory. -/
  | noMoreDirectories
  /-- End the scan without recording the entry. -/
  | abort
  deriving DecidableEq, Repr

/-- **An entry as a conductor is shown it**, which is before its class is recorded in the `Tally`.
-/
structure Visit where
  /-- Whether the entry is a directory, behind links. -/
  isDirectory : Bool
  /-- The relative path; the base directory has the empty one. -/
  name : String
  /-- The path on the file tree. -/
  path : Path
  deriving DecidableEq, Repr

/-- **What a conductor raises** instead of a `ScanAction`, with its text. -/
inductive ConductorRaise where
  /-- An error, for whoever handles errors. -/
  | error (text : String)
  /-- The wish to end the program: no handler of errors stops it. -/
  | exit (text : String)
  deriving DecidableEq, Repr

/-- The text of what a conductor raises, for `ScanFailure.message`. -/
def ConductorRaise.text : ConductorRaise → String
  | .error text => text
  | .exit text => text

/-- **What a conductor does about a visit**: how it leaves the `FileTree`, and what it answers. -/
structure Reaction where
  /-- The file tree that it leaves. -/
  tree : FileTree
  /-- Its answer, or what it raises. -/
  outcome : Except ConductorRaise ScanAction

/-- **A conductor**: its `Reaction` to a visit, given the earlier visits and the file tree. It may
change the tree and need not do the same at a second `Visit` of one name. -/
structure Conductor where
  /-- The reaction. -/
  react : List Visit → Visit → FileTree → Reaction

namespace Conductor

/-- The conductor that answers by the relative path of a `Visit` and leaves the file tree alone. -/
def answering (answer : String → ScanAction) : Conductor :=
  ⟨fun _ visit tree => ⟨tree, .ok (answer visit.name)⟩⟩

/-- The conductor that acts by tables over relative paths: it removes an entry with
`FileTree.remove`, raises a `ConductorRaise.error`, or answers with a `ScanAction`. -/
def ofTables (answers : List (String × ScanAction)) (raises : List (String × String))
    (removes : List (String × Path)) : Conductor where
  react _ visit tree :=
    let tree :=
      match removes.lookup visit.name with
      | some path => tree.remove path
      | none => tree
    let outcome :=
      match raises.lookup visit.name with
      | some text => .error (.error text)
      | none => .ok ((answers.lookup visit.name).getD .proceed)
    ⟨tree, outcome⟩

end Conductor

end TreeSift
