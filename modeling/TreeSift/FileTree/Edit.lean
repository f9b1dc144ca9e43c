import TreeSift.FileTree.Query

/-! # Changing a file tree

`insert` and `removeBelow` change the entries at locations. `makeDirectory`, `makeDirectories`,
`writeText` and `makeLink` work on paths and fail as a file system does; `remove` takes a file, a
link or a whole directory away. An `Edit` is one of these changes as a value, and `apply` carries
it out, with the directories above made as needed. -/

namespace TreeSift

namespace FileTree

/-- Where only some locations are kept, what is at one of them is found by `lookup` as before. -/
theorem lookup_filter (keep : Location → Bool) {location : Location}
    (h : keep location = true) (entries : List (Location × Entry)) :
    (entries.filter fun e => keep e.1).lookup location = entries.lookup location := by
  induction entries with
  | nil => rfl
  | cons e entries ih =>
    obtain ⟨place, entry⟩ := e
    by_cases hplace : place = location
    · subst hplace
      simp [h]
    · have hne : (location == place) = false := by simpa using Ne.symm hplace
      by_cases hkeep : keep place = true <;> simp [hkeep, hne, ih, List.lookup_cons]

/-- Puts an entry at a location, in place of the one there; `entryAt?_insert` says what is where
then. -/
def insert (tree : FileTree) (location : Location) (entry : Entry) : FileTree where
  entries := (location, entry) :: tree.entries.filter fun e => e.1 != location
  nodup := by
    rw [List.map_cons, List.nodup_cons]
    constructor
    · simp
    · exact tree.nodup.sublist (List.filter_sublist.map Prod.fst)

/-- Takes away what stands at a location or below it: all entries with it as a suffix. -/
def removeBelow (tree : FileTree) (location : Location) : FileTree where
  entries := tree.entries.filter fun e => !location.isSuffixOf e.1
  nodup := tree.nodup.sublist (List.filter_sublist.map Prod.fst)

/-- After `insert` the new entry is at its location, and the others are where they were. -/
theorem entryAt?_insert (tree : FileTree) (location other : Location) (entry : Entry) :
    (tree.insert location entry).entryAt? other =
      if other = location then some entry else tree.entryAt? other := by
  by_cases h : other = location
  · subst h
    simp [entryAt?, insert]
  · have hlookup :
        (tree.insert location entry).entries.lookup other = tree.entries.lookup other := by
      have hne : (other == location) = false := by simpa using h
      rw [insert, List.lookup_cons, hne]
      exact lookup_filter (· != location) (by simpa using h) tree.entries
    simp [entryAt?, hlookup, h]

/-- Makes a directory at a path whose parent is there, or fails as `entryExists` or as `locate`
does. -/
def makeDirectory (tree : FileTree) (path : Path) : Except FileError FileTree :=
  if hasNul path.text then .error .nulCharacter
  else
    match tree.locate false path.text with
    | .ok ⟨location, none⟩ => .ok (tree.insert location (.directory none))
    | .ok ⟨_, some _⟩ => .error (.system Errno.entryExists (.text path.text))
    | .error errno => .error (.system errno (.text path.text))

/-- Makes a directory unless one is there already: an error of `makeDirectory` does not count then.
-/
def ensureDirectory (tree : FileTree) (path : Path) : Except FileError FileTree :=
  match tree.makeDirectory path with
  | .ok tree => .ok tree
  | .error error =>
    match tree.isDirectory path with
    | .ok true => .ok tree
    | .ok false => .error error
    | .error other => .error other

/-- Makes a directory and those above it, `depth` of which may be missing. -/
def makeDirectoriesTo (tree : FileTree) : Nat → Path → Except FileError FileTree
  | 0, path => tree.ensureDirectory path
  | depth + 1, path =>
    match tree.makeDirectory path with
    | .error (.system errno _) =>
      -- the directory above is missing: it is made first
      if errno = Errno.noEntry then do
        let tree ← tree.makeDirectoriesTo depth path.parent
        tree.ensureDirectory path
      else tree.ensureDirectory path
    | .error error => .error error
    | .ok tree => .ok tree

/-- **Makes a directory and all those above it that are missing**: `ensureDirectory` along the path.
-/
def makeDirectories (tree : FileTree) (path : Path) : Except FileError FileTree :=
  tree.makeDirectoriesTo path.parts.length path

/-- **Writes the text of the file at a path**, which is made if it is missing; links on the way are
followed by `locate`. -/
def writeText (tree : FileTree) (path : Path) (text : String) : Except FileError FileTree :=
  if hasNul path.text then .error .nulCharacter
  else
    match tree.locate true path.text with
    | .ok ⟨_, some (.directory _)⟩ => .error (.system Errno.isDirectory (.text path.text))
    | .ok ⟨location, _⟩ => .ok (tree.insert location (.file text))
    | .error errno => .error (.system errno (.text path.text))

/-- What keeps a text from being the target of a link: it is empty, or has more than `maxPathBytes`.
-/
def targetFault? (target : String) : Option Errno :=
  if target.isEmpty then some Errno.noEntry
  else if target.utf8ByteSize ≤ maxPathBytes then none
  else some Errno.nameTooLong

/-- Makes a link at a path, unless there is a `targetFault?` or something is there. -/
def makeLink (tree : FileTree) (path : Path) (target : String) : Except FileError FileTree :=
  let shown := ShownPath.link target path.text
  if hasNul path.text || hasNul target then .error .nulCharacter
  else
    match targetFault? target, tree.locate false path.text with
    | some errno, _ => .error (.system errno shown)
    | none, .ok ⟨location, none⟩ => .ok (tree.insert location (.link target))
    | none, .ok ⟨_, some _⟩ => .error (.system Errno.entryExists shown)
    | none, .error errno => .error (.system errno shown)

/-- Makes the listing of the directory at a path fail, with the given error number as its
`ListingFault`. -/
def failListing (tree : FileTree) (path : Path) (errno : Errno) : FileTree :=
  match tree.lookup true path.text with
  | .ok (location, .directory _) => tree.insert location (.directory (some (.fails errno)))
  | _ => tree

/-- Takes away what stands at a path: a file, a link, or a directory with all it holds, by
`removeBelow`. -/
def remove (tree : FileTree) (path : Path) : FileTree :=
  match tree.locate false path.text with
  | .ok ⟨location, _⟩ => tree.removeBelow location
  | .error _ => tree

/-- **One change of a file tree**, to be carried out by `Edit.apply`. -/
inductive Edit where
  /-- A file with a text. -/
  | file (path : Path) (text : String)
  /-- A directory. -/
  | directory (path : Path)
  /-- A link to a target. -/
  | link (path : Path) (target : String)
  /-- A directory whose listing fails. -/
  | failing (path : Path) (errno : Errno)
  /-- An entry that goes away. -/
  | removal (path : Path)
  deriving DecidableEq, Repr

/-- Carries out a change; the directories above are made as needed, by `makeDirectories`. -/
def Edit.apply (edit : Edit) (tree : FileTree) : Except FileError FileTree :=
  match edit with
  | .file path text => do (← tree.makeDirectories path.parent).writeText path text
  | .directory path => tree.makeDirectories path
  | .link path target => do (← tree.makeDirectories path.parent).makeLink path target
  | .failing path errno => do return (← tree.makeDirectories path).failListing path errno
  | .removal path => .ok (tree.remove path)

/-- The tree that changes make by `Edit.apply`, one after the other, out of an empty one. -/
def ofEdits (edits : List Edit) : Except FileError FileTree :=
  edits.foldlM (fun tree edit => edit.apply tree) {}

end FileTree

end TreeSift
