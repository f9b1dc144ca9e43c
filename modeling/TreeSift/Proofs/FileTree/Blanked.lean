import TreeSift.FileTree.Links
import TreeSift.Proofs.FileTree.Route

/-! # Listings that show nothing

`FileTree.blanked` is a file tree with the same entries, where the listings that fail show nothing.
Nothing else about it differs: it resolves paths to the same entries (`lookup_blanked`) and answers
the same about them (`query_blanked`), and only the listings that failed are changed
(`list_blanked_of_isDirectory`). -/

namespace TreeSift

/-- The entry whose listing, if it had a fault, `showsNothing`. -/
def Entry.blanked : Entry → Entry
  | .file text => .file text
  | .directory fault => .directory (fault.map fun _ => .showsNothing)
  | .link target => .link target

@[simp] theorem Entry.isDirectory_blanked (entry : Entry) :
    entry.blanked.isDirectory = entry.isDirectory := by
  cases entry <;> rfl

@[simp] theorem Entry.isLink_blanked (entry : Entry) : entry.blanked.isLink = entry.isLink := by
  cases entry <;> rfl

/-- Where a path leads, when listings have been blanked: the same location, with its entry
`blanked`. -/
def Site.blanked (site : Site) : Site :=
  ⟨site.location, site.entry?.map Entry.blanked⟩

namespace FileTree

/-- **The file tree where the listings that failed show nothing**: every directory with a fault has
the fault `showsNothing`. -/
def blanked (tree : FileTree) : FileTree where
  entries := tree.entries.map fun e => (e.1, e.2.blanked)
  nodup := by
    rw [List.map_map]
    exact tree.nodup

variable (tree : FileTree)

/-- The same entries are there, each `blanked`. -/
theorem entryAt?_blanked (location : Location) :
    tree.blanked.entryAt? location = (tree.entryAt? location).map Entry.blanked := by
  have hlookup (entries : List (Location × Entry)) :
      (entries.map fun e => (e.1, e.2.blanked)).lookup location =
        (entries.lookup location).map Entry.blanked := by
    induction entries with
    | nil => rfl
    | cons e entries ih =>
        rw [List.map_cons, List.lookup_cons, List.lookup_cons, ih]
        cases location == e.1 <;> rfl
  rw [entryAt?, entryAt?, blanked, hlookup]
  cases tree.entries.lookup location with
  | some entry => rfl
  | none => by_cases hroot : location = [] <;> simp [hroot, Entry.blanked]

/-- The entries have the same names: `namesIn` asks for locations only. -/
theorem namesIn_blanked (location : Location) :
    tree.blanked.namesIn location = tree.namesIn location := by
  rw [namesIn, namesIn, blanked, List.filterMap_map]
  rfl

/-- Where links lead to the same sites, so do steps: `advance` asks what kind an entry is, and
`blanked` keeps kinds. -/
theorem advance_blanked {followLast : Bool} {follow follow' : Location → List Step → Except Errno Site}
    (hfollow : ∀ here steps, follow' here steps = (follow here steps).map Site.blanked)
    (here : Location) (steps : List Step) :
    tree.blanked.advance followLast follow' here steps =
      (tree.advance followLast follow here steps).map Site.blanked := by
  induction steps generalizing here with
  | nil =>
      rw [advance, advance, entryAt?_blanked]
      rfl
  | cons step steps ih =>
      cases step with
      | stay => exact ih here
      | up => exact ih here.tail
      | overlong => rfl
      | enter name =>
          rw [advance, advance, entryAt?_blanked]
          -- blanking leaves the kind of an entry as it is, so both ways go on alike
          cases tree.entryAt? (name :: here) with
          | none => cases steps <;> rfl
          | some entry =>
              cases entry with
              | file text => cases steps <;> rfl
              | directory fault => exact ih (name :: here)
              | link target =>
                  by_cases hstop : (steps.isEmpty && !followLast) = true
                  · simp only [Option.map_some, Entry.blanked, if_pos hstop]
                    rfl
                  · simp only [Option.map_some, Entry.blanked, if_neg hstop]
                    exact hfollow _ _

/-- A `walk` leads to the same site, by induction on the links that it may follow. -/
theorem walk_blanked (followLast : Bool) (links : Nat) (here : Location) (steps : List Step) :
    tree.blanked.walk followLast links here steps =
      (tree.walk followLast links here steps).map Site.blanked := by
  induction links generalizing here steps with
  | zero =>
      have hstuck : ∀ (_ : Location) (_ : List Step), Except.error Errno.tooManyLinks =
          (Except.error Errno.tooManyLinks).map Site.blanked := fun _ _ => rfl
      exact tree.advance_blanked hstuck here steps
  | succ links ih => exact tree.advance_blanked ih here steps

/-- **A path leads to the same entry**, `blanked`: `lookup` gives the same location and the same
errors. -/
theorem lookup_blanked (followLast : Bool) (text : String) :
    tree.blanked.lookup followLast text =
      (tree.lookup followLast text).map fun found => (found.1, found.2.blanked) := by
  have hlocate : tree.blanked.locate followLast text =
      (tree.locate followLast text).map Site.blanked := by
    rw [locate, locate, walk_blanked]
    split <;> rfl
  rw [lookup, lookup, hlocate]
  cases tree.locate followLast text with
  | error errno => rfl
  | ok site =>
      obtain ⟨location, entry?⟩ := site
      cases entry? <;> rfl

/-! ## What is asked -/

/-- A question is answered as before if `test` does not tell an entry from the `blanked` one. -/
theorem query_blanked (followLast : Bool) (path : Path) {test : Entry → Bool}
    (htest : ∀ entry : Entry, test entry.blanked = test entry) :
    tree.blanked.query followLast path test = tree.query followLast path test := by
  rw [query, query, lookup_blanked]
  cases tree.lookup followLast path.text with
  | error errno => rfl
  | ok found =>
      show (if _ then _ else Except.ok (test found.2.blanked)) = _
      rw [htest]

@[simp] theorem isDirectory_blanked (path : Path) :
    tree.blanked.isDirectory path = tree.isDirectory path :=
  tree.query_blanked true path Entry.isDirectory_blanked

@[simp] theorem isLink_blanked (path : Path) : tree.blanked.isLink path = tree.isLink path :=
  tree.query_blanked false path Entry.isLink_blanked

@[simp] theorem inspect_blanked (path : Path) : tree.blanked.inspect path = tree.inspect path := by
  rw [inspect, inspect, isLink_blanked, isDirectory_blanked]

variable {tree}

/-- **A directory lists what it listed**, and nothing if its listing failed: `list` on
`tree.blanked` never fails on a directory. -/
theorem list_blanked_of_isDirectory {path : Path} (h : tree.isDirectory path = .ok true) :
    tree.blanked.list path = .ok ((tree.list path).toOption.getD []) := by
  obtain ⟨hnul, location, entry, hlookup, hentry⟩ := query_eq_true_iff.1 h
  rw [list, list, lookup_blanked, hlookup, if_neg (by simp [hnul]), if_neg (by simp [hnul])]
  cases entry with
  | file text => cases hentry
  | link target => cases hentry
  | directory fault =>
      cases fault with
      | none =>
          show Except.ok (sortNames (tree.blanked.namesIn location)) = _
          rw [namesIn_blanked]
          rfl
      | some fault => cases fault <;> rfl

/-- What is no directory cannot be listed, as before: `list` fails in the same way. -/
theorem list_blanked_of_not_isDirectory {path : Path} (h : tree.isDirectory path ≠ .ok true) :
    tree.blanked.list path = tree.list path := by
  rw [list, list, lookup_blanked]
  by_cases hnul : hasNul path.text = true
  · rw [if_pos hnul, if_pos hnul]
  · rw [if_neg hnul, if_neg hnul]
    cases hlookup : tree.lookup true path.text with
    | error errno => rfl
    | ok found =>
        obtain ⟨location, entry⟩ := found
        cases entry with
        | file text => rfl
        | link target => rfl
        | directory fault =>
            refine absurd (query_eq_true_iff.2 ⟨by simpa using hnul, location, _, hlookup, rfl⟩) h

end FileTree

end TreeSift
