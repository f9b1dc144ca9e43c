import TreeSift.FileTree.Query

/-! # Links and what they lead to

`FileTree.inspect` classifies an entry by what it is and what is behind it. `isLinkIn` asks about
one entry of a directory; `isReachedByLink` asks whether a directory is reached through a link that
lies below a given base. -/

namespace TreeSift

/-- **What is known about an entry** once `inspect` has examined it. -/
structure EntryInfo where
  /-- The path of the entry. -/
  path : Path
  /-- Whether the entry itself is a link. -/
  isLink : Bool
  /-- Whether a directory is there, behind links. -/
  isDirectory : Bool
  deriving DecidableEq, Repr

namespace FileTree

/-- **Classifies an entry.** An error of `isLink` is passed on; what `isDirectory` cannot examine
behind a link is no directory. -/
def inspect (tree : FileTree) (path : Path) : Except FileError EntryInfo := do
  let isLink ← tree.isLink path
  let isDirectory :=
    match tree.isDirectory path with
    | .ok answer => answer
    | .error _ => false
  return { path, isLink, isDirectory }

/-- The entry `name` of the directory `parent` is itself a link. -/
def isLinkIn (tree : FileTree) (parent : Path) (name : String) : Except FileError Bool :=
  tree.isLink (parent.join name)

/-- One of the paths that lead down from a base, part by part, is a link; the first one that
`isLink` holds of, or fails on, decides. -/
def anyLinkBelow (tree : FileTree) : Path → List String → Except FileError Bool
  | _, [] => .ok false
  | base, part :: parts => do
    if ← tree.isLink (base.child part) then return true
    tree.anyLinkBelow (base.child part) parts

/-- **Whether a directory is reached through a link below the base**: `anyLinkBelow` along the parts
behind it. Without a base, and for a directory that does not lie below it, only the directory itself
is asked. -/
def isReachedByLink (tree : FileTree) (parent : Path) (base? : Option Path) :
    Except FileError Bool :=
  match base? with
  | none => tree.isLink parent
  | some base =>
    match parent.absolute.partsAfter? base.absolute with
    | some parts => tree.anyLinkBelow base parts
    | none => tree.isLink parent

end FileTree

end TreeSift
