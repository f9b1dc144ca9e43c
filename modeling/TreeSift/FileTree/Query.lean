import TreeSift.FileTree.Basic

/-! # Asking a file tree

What stands at a path: whether something is there, whether it is a directory or a link, what a
directory lists and what a file holds. A question about what is there is answered with no when
nothing can be reached at the path; other errors are passed on. -/

namespace TreeSift

namespace FileTree

/-- The path text holds a NUL character, so that no system call takes it. -/
def hasNul (text : String) : Bool :=
  text.toList.contains '\x00'

/-- Answers whether `test` holds of what a path leads to. An error that is `isUnreachable` is a no,
and so is a NUL character. -/
def query (tree : FileTree) (followLast : Bool) (path : Path) (test : Entry → Bool) :
    Except FileError Bool :=
  if hasNul path.text then .ok false
  else
    match tree.lookup followLast path.text with
    | .ok (_, entry) => .ok (test entry)
    | .error errno =>
      if errno.isUnreachable then .ok false else .error (.system errno (.text path.text))

/-- Something is at a path, behind links: `query` with a test that always holds. -/
def pathExists (tree : FileTree) (path : Path) : Except FileError Bool :=
  tree.query true path fun _ => true

/-- A directory is at a path, behind links: `query` with `Entry.isDirectory`. -/
def isDirectory (tree : FileTree) (path : Path) : Except FileError Bool :=
  tree.query true path Entry.isDirectory

/-- A path is itself a link: `query` with `Entry.isLink`, which does not follow the last one. -/
def isLink (tree : FileTree) (path : Path) : Except FileError Bool :=
  tree.query false path Entry.isLink

/-- Names in the order of their code points, which is that of `text`. -/
def sortNames (names : List Name) : List Name :=
  names.mergeSort fun a b => decide (a.text ≤ b.text)

/-- **The names in the directory at a path**, by `sortNames`, unless its `ListingFault` says
otherwise. -/
def list (tree : FileTree) (path : Path) : Except FileError (List Name) :=
  if hasNul path.text then .error .nulCharacter
  else
    match tree.lookup true path.text with
    | .ok (location, .directory none) => .ok (sortNames (tree.namesIn location))
    | .ok (_, .directory (some .showsNothing)) => .ok []
    | .ok (_, .directory (some (.fails errno))) => .error (.system errno (.value path.text))
    | .ok _ => .error (.system Errno.notDirectory (.text path.text))
    | .error errno => .error (.system errno (.text path.text))

/-- The text of the file at a path, or `isDirectory` as the error if a directory is there. -/
def readText (tree : FileTree) (path : Path) : Except FileError String :=
  if hasNul path.text then .error .nulCharacter
  else
    match tree.lookup true path.text with
    | .ok (_, .file text) => .ok text
    | .ok _ => .error (.system Errno.isDirectory (.text path.text))
    | .error errno => .error (.system errno (.text path.text))

end FileTree

end TreeSift
