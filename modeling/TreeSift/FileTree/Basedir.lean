import TreeSift.FileTree.Query

/-! # Base directories

A scan starts from a directory. `checkBasedir` says what keeps a path from being one. -/

namespace TreeSift

/-- What keeps a path from being the base directory of a scan; `shown` is the path as given. -/
inductive BasedirProblem where
  /-- There is no path. -/
  | unset
  /-- Nothing is there. -/
  | missing (shown : String)
  /-- Something else is there. -/
  | notDirectory (shown : String)
  /-- The path cannot be examined. -/
  | unreadable (shown : String) (error : FileError)
  deriving DecidableEq, Repr

/-- The wording of a problem, with the base directory as it is shown. -/
def BasedirProblem.message : BasedirProblem → String
  | .unset => "No basedir set"
  | .missing shown => "Basedir '" ++ shown ++ "' does not exist"
  | .notDirectory shown => "Basedir '" ++ shown ++ "' is not a directory"
  | .unreadable shown error => "Invalid basedir '" ++ shown ++ "': " ++ error.message

/-- What keeps a path from being a base directory, with the path as it is `shown`: `pathExists` or
`isDirectory` says no, or fails. -/
def checkShownBasedir (tree : FileTree) (shown : String) (path : Path) : Option BasedirProblem :=
  match tree.pathExists path with
  | .error error => some (.unreadable shown error)
  | .ok false => some (.missing shown)
  | .ok true =>
    match tree.isDirectory path with
    | .error error => some (.unreadable shown error)
    | .ok false => some (.notDirectory shown)
    | .ok true => none

/-- **What keeps a path from being a base directory**, shown by its `text`. -/
def checkBasedir (tree : FileTree) : Option Path → Option BasedirProblem
  | none => some .unset
  | some path => checkShownBasedir tree path.text path

/-- What keeps a path text, shown as it is written, from being a base directory, once `Path.ofText`
has read it. -/
def checkBasedirText (tree : FileTree) : Option String → Option BasedirProblem
  | none => some .unset
  | some text => checkShownBasedir tree text (Path.ofText text)

end TreeSift
