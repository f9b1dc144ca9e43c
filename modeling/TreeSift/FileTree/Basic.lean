import TreeSift.FileTree.Error
import TreeSift.FileTree.Path

/-! # File trees

A `FileTree` is a finite file system: every entry stands at a `Location`, which is the list of the
names that lead to it from the root, the innermost one first. An entry is a file, a directory, or a
link with a target text. A directory may have a fault: then its listing fails, or shows nothing.

Entries have no owners and no rights: a directory that can be reached can be searched, so that looking
an entry up fails only where its path or its name is too long, leads through too many links, or leads
nowhere. What a failure for any other reason leads to is the matter of `Host`.

`FileTree.locate` resolves a path: it goes down name by name, follows links, at most `maxLinks` in
all, and takes a double dot to the directory above wherever links have led. -/

namespace TreeSift

open TreeSift.Text (splitWhere)

/-- The greatest number of bytes in a name: `NAME_MAX`. -/
def maxNameBytes : Nat :=
  255

/-- The greatest number of bytes in a path text: one less than `PATH_MAX`, which counts the NUL at
its end. -/
def maxPathBytes : Nat :=
  4095

/-- The greatest number of links that are followed on the way to one entry; with one more, `walk`
fails as `tooManyLinks`. -/
def maxLinks : Nat :=
  40

/-- The text can name an entry: it is neither empty nor `.` nor `..`, holds neither a slash nor NUL,
and has at most `maxNameBytes`. -/
def isEntryName (text : String) : Bool :=
  !text.isEmpty && text != "." && text != ".." && text.utf8ByteSize ≤ maxNameBytes &&
    text.toList.all fun c => c != '/' && c != '\x00'

/-- **The name of an entry**: a text that `isEntryName` accepts. -/
structure Name where
  /-- The text of the name. -/
  text : String
  /-- The text can name an entry. -/
  isEntryName_text : isEntryName text = true
  deriving DecidableEq, Repr

namespace Name

/-- Names with the same `text` are equal. -/
@[ext] theorem ext {a b : Name} (h : a.text = b.text) : a = b := by
  cases a
  cases b
  simp_all

/-- The name that a text gives, if `isEntryName` accepts it. -/
def ofText? (text : String) : Option Name :=
  if h : isEntryName text = true then some ⟨text, h⟩ else none

end Name

/-- Where an entry stands: the names that lead to it, the innermost one first, so that `[]` is the
root. -/
abbrev Location := List Name

/-- What is wrong with the listing of a directory: `list` fails, or shows nothing. -/
inductive ListingFault where
  /-- It fails with an error number. -/
  | fails (errno : Errno)
  /-- It shows nothing, whatever the directory holds. -/
  | showsNothing
  deriving DecidableEq, Repr

/-- **What can stand in a directory**: a file, a directory or a link. None of them has rights of its
own. -/
inductive Entry where
  /-- A file with its text. -/
  | file (text : String)
  /-- A directory, with what is wrong with its listing. -/
  | directory (fault : Option ListingFault)
  /-- A symbolic link with the text of its target. -/
  | link (target : String)
  deriving DecidableEq, Repr

/-- The entry is a `.directory` itself. -/
def Entry.isDirectory : Entry → Bool
  | .directory _ => true
  | _ => false

/-- The entry is a `.link` itself. -/
def Entry.isLink : Entry → Bool
  | .link _ => true
  | _ => false

/-- **A file tree**: entries at distinct locations. The root is a directory even without an entry of
its own, as `entryAt? []` says. -/
structure FileTree where
  /-- The entries and where they stand. -/
  entries : List (Location × Entry) := []
  /-- No location has two entries. -/
  nodup : (entries.map Prod.fst).Nodup := by decide

/-- One step of a path, as `stepsOf` cuts it. -/
inductive Step where
  /-- To the directory above. -/
  | up
  /-- To the same directory. -/
  | stay
  /-- To the entry with a name. -/
  | enter (name : Name)
  /-- To an entry whose name is longer than names can be. -/
  | overlong
  deriving DecidableEq, Repr

/-- The step that a part of a path text takes: `..` up, a name down, and an empty part or `.`
nowhere. -/
def Step.ofPart (part : List Char) : Step :=
  let text := String.ofList part
  if text = ".." then .up
  else if text.isEmpty ∨ text = "." then .stay
  else
    match Name.ofText? text with
    | some name => .enter name
    | none => .overlong

/-- The steps of a path text: one for each part between slashes, by `Step.ofPart`. -/
def stepsOf (text : String) : List Step :=
  (splitWhere (· == '/') text.toList).map Step.ofPart

/-- Where a path text starts, seen from the directory `here`: the root if it starts with a slash. -/
def startOf (text : String) (here : Location) : Location :=
  if text.startsWith "/" then [] else here

/-- Where a path leads: a `Location`, and the entry there if there is one. -/
structure Site where
  /-- The location. -/
  location : Location
  /-- The entry. -/
  entry? : Option Entry
  deriving DecidableEq, Repr

namespace FileTree

/-- The entry at a location; the root is a directory in any case. -/
def entryAt? (tree : FileTree) (location : Location) : Option Entry :=
  match tree.entries.lookup location with
  | some entry => some entry
  | none => if location = [] then some (.directory none) else none

/-- The names in the directory at a location, in no particular order; `sortNames` puts them in one.
-/
def namesIn (tree : FileTree) (location : Location) : List Name :=
  tree.entries.filterMap fun entry =>
    match entry.1 with
    | name :: parent => if parent = location then some name else none
    | [] => none

/-- The number of directories, the root included, which bounds how deep a `Route` without links can
be. -/
def directoryCount (tree : FileTree) : Nat :=
  tree.entries.countP (fun e => e.2.isDirectory) + 1

/-- Takes steps from a directory. A link is handed to `follow` with the steps that remain, unless
it is the last step and `followLast` does not hold. -/
def advance (tree : FileTree) (followLast : Bool)
    (follow : Location → List Step → Except Errno Site) :
    Location → List Step → Except Errno Site
  | here, [] => .ok ⟨here, tree.entryAt? here⟩
  | here, .stay :: steps => advance tree followLast follow here steps
  | here, .up :: steps => advance tree followLast follow here.tail steps
  | _, .overlong :: _ => .error Errno.nameTooLong
  | here, .enter name :: steps =>
    match tree.entryAt? (name :: here) with
    | some (.directory _) => advance tree followLast follow (name :: here) steps
    | some (.file text) =>
      if steps.isEmpty then .ok ⟨name :: here, some (.file text)⟩ else .error Errno.notDirectory
    | some (.link target) =>
      if steps.isEmpty && !followLast then .ok ⟨name :: here, some (.link target)⟩
      -- the target is read from the directory that holds the link
      else follow (startOf target here) (stepsOf target ++ steps)
    | none => if steps.isEmpty then .ok ⟨name :: here, none⟩ else .error Errno.noEntry

/-- Takes steps from a directory, and follows at most `links` links on the way. -/
def walk (tree : FileTree) (followLast : Bool) : Nat → Location → List Step → Except Errno Site
  | 0 => advance tree followLast fun _ _ => .error Errno.tooManyLinks
  | links + 1 => advance tree followLast (walk tree followLast links)

/-- **Resolves a path text**, from the root, by `walk`. Only the text itself is limited to
`maxPathBytes`, not what the links on the way add to it. -/
def locate (tree : FileTree) (followLast : Bool) (text : String) : Except Errno Site :=
  if text.utf8ByteSize ≤ maxPathBytes then tree.walk followLast maxLinks [] (stepsOf text)
  else .error Errno.nameTooLong

/-- The entry that a path text leads to, or `noEntry` if `locate` finds none. -/
def lookup (tree : FileTree) (followLast : Bool) (text : String) :
    Except Errno (Location × Entry) :=
  match tree.locate followLast text with
  | .ok ⟨location, some entry⟩ => .ok (location, entry)
  | .ok ⟨_, none⟩ => .error Errno.noEntry
  | .error errno => .error errno

end FileTree

end TreeSift
