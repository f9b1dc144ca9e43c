import TreeSift.FileTree.Links

/-! # Routes through a file tree

A `Route` is a way through a file tree: it takes steps from one location to another and counts the
links that it follows. `FileTree.walk` finds a directory exactly if a route with few enough links
leads to it (`walk_eq_directory_iff`).

Names that are entered one after the other spend links or go down in the tree, so a route with few
links enters few names (`Route.length_le`). Routes also say when a path is a directory
(`isDirectory_eq_true_iff`) and when it can be listed (`list_eq_ok_iff`). -/

namespace TreeSift

namespace FileTree

/-- **A way through a file tree** from one location to another along steps, with the number of links
that it follows. -/
inductive Route (tree : FileTree) : Nat → Location → List Step → Location → Prop where
  /-- Without steps, one is where one was. -/
  | done {here : Location} : Route tree 0 here [] here
  /-- A step to the same directory. -/
  | stay {links : Nat} {here there : Location} {steps : List Step} :
      Route tree links here steps there → Route tree links here (.stay :: steps) there
  /-- A step to the directory above. -/
  | up {links : Nat} {here there : Location} {steps : List Step} :
      Route tree links here.tail steps there → Route tree links here (.up :: steps) there
  /-- A step down into a directory. -/
  | down {links : Nat} {here there : Location} {steps : List Step} {name : Name}
      {fault : Option ListingFault} :
      tree.entryAt? (name :: here) = some (.directory fault) →
        Route tree links (name :: here) steps there →
          Route tree links here (.enter name :: steps) there
  /-- A link, whose target is read from the directory that holds it. -/
  | link {links : Nat} {here there : Location} {steps : List Step} {name : Name}
      {target : String} :
      tree.entryAt? (name :: here) = some (.link target) →
        Route tree links (startOf target here) (stepsOf target ++ steps) there →
          Route tree (links + 1) here (.enter name :: steps) there

namespace Route

variable {tree : FileTree}

/-- A `Route` and one that goes on from its end make one, whose links add up. -/
theorem append {links more : Nat} {here mid there : Location} {first rest : List Step}
    (h : Route tree links here first mid) (hrest : Route tree more mid rest there) :
    Route tree (links + more) here (first ++ rest) there := by
  induction h with
  | done => simpa using hrest
  | stay _ ih => exact .stay (ih hrest)
  | up _ ih => exact .up (ih hrest)
  | down hentry _ ih => exact .down hentry (ih hrest)
  | link hentry _ ih =>
      rw [Nat.add_right_comm]
      exact .link hentry (List.append_assoc .. ▸ ih hrest)

/-- A `Route` through two runs of steps passes a location `mid` between them. -/
theorem split {links : Nat} {here there : Location} {first rest : List Step}
    (h : Route tree links here (first ++ rest) there) :
    ∃ before after mid, links = before + after ∧ Route tree before here first mid ∧
      Route tree after mid rest there := by
  -- the first run is empty, or it starts with the first step of the route
  generalize hsteps : first ++ rest = steps at h
  induction h generalizing first with
  | @done here =>
      obtain ⟨rfl, rfl⟩ := List.append_eq_nil_iff.1 hsteps
      exact ⟨0, 0, here, rfl, .done, .done⟩
  | @stay links here there steps hroute ih =>
      cases first with
      | nil =>
          obtain rfl : rest = _ := hsteps
          exact ⟨0, links, here, by omega, .done, .stay hroute⟩
      | cons step first =>
          obtain ⟨rfl, hcut⟩ := List.cons_eq_cons.1 hsteps
          obtain ⟨before, after, mid, hlinks, hfirst, hafter⟩ := ih hcut
          exact ⟨before, after, mid, hlinks, .stay hfirst, hafter⟩
  | @up links here there steps hroute ih =>
      cases first with
      | nil =>
          obtain rfl : rest = _ := hsteps
          exact ⟨0, links, here, by omega, .done, .up hroute⟩
      | cons step first =>
          obtain ⟨rfl, hcut⟩ := List.cons_eq_cons.1 hsteps
          obtain ⟨before, after, mid, hlinks, hfirst, hafter⟩ := ih hcut
          exact ⟨before, after, mid, hlinks, .up hfirst, hafter⟩
  | @down links here there steps name fault hentry hroute ih =>
      cases first with
      | nil =>
          obtain rfl : rest = _ := hsteps
          exact ⟨0, links, here, by omega, .done, .down hentry hroute⟩
      | cons step first =>
          obtain ⟨rfl, hcut⟩ := List.cons_eq_cons.1 hsteps
          obtain ⟨before, after, mid, hlinks, hfirst, hafter⟩ := ih hcut
          exact ⟨before, after, mid, hlinks, .down hentry hfirst, hafter⟩
  | @link links here there steps name target hentry hroute ih =>
      cases first with
      | nil =>
          obtain rfl : rest = _ := hsteps
          exact ⟨0, links + 1, here, by omega, .done, .link hentry hroute⟩
      | cons step first =>
          obtain ⟨rfl, rfl⟩ := List.cons_eq_cons.1 hsteps
          -- the link's own steps belong to the first run
          obtain ⟨before, after, mid, hlinks, hfirst, hafter⟩ :=
            ih (List.append_assoc (stepsOf target) first rest)
          exact ⟨before + 1, after, mid, by omega, .link hentry hfirst, hafter⟩

end Route

/-! ## Walks are routes -/

/-- Where `follow` takes routes, so does `advance`: the case of one link less is a hypothesis. -/
theorem exists_route_of_advance {tree : FileTree} {links : Nat} {there : Location}
    {fault : Option ListingFault} {follow : Location → List Step → Except Errno Site}
    (hfollow : ∀ here steps, follow here steps = .ok ⟨there, some (.directory fault)⟩ →
      tree.entryAt? there = some (.directory fault) ∧
        ∃ used < links, Route tree used here steps there)
    {here : Location} {steps : List Step}
    (h : tree.advance true follow here steps = .ok ⟨there, some (.directory fault)⟩) :
    tree.entryAt? there = some (.directory fault) ∧
      ∃ used ≤ links, Route tree used here steps there := by
  -- on the steps: only directories and links let them end in a directory
  induction steps generalizing here with
  | nil =>
      simp only [advance, Except.ok.injEq, Site.mk.injEq] at h
      obtain ⟨rfl, hentry⟩ := h
      exact ⟨hentry, 0, Nat.zero_le _, .done⟩
  | cons step steps ih =>
      cases step with
      | stay =>
          obtain ⟨hentry, used, hused, hroute⟩ := ih h
          exact ⟨hentry, used, hused, .stay hroute⟩
      | up =>
          obtain ⟨hentry, used, hused, hroute⟩ := ih h
          exact ⟨hentry, used, hused, .up hroute⟩
      | overlong => simp [advance] at h
      | enter name =>
          rw [advance] at h
          split at h
          · next hname =>
            obtain ⟨hentry, used, hused, hroute⟩ := ih h
            exact ⟨hentry, used, hused, .down hname hroute⟩
          · split at h <;> simp at h
          · next hname =>
            rw [if_neg (by simp)] at h
            obtain ⟨hentry, used, hused, hroute⟩ := hfollow _ _ h
            exact ⟨hentry, used + 1, hused, .link hname hroute⟩
          · split at h <;> simp at h

/-- A `walk` that ends in a directory takes a `Route` there, by induction on the links that it may
follow. -/
theorem exists_route_of_walk {tree : FileTree} {links : Nat} {here there : Location}
    {steps : List Step} {fault : Option ListingFault}
    (h : tree.walk true links here steps = .ok ⟨there, some (.directory fault)⟩) :
    tree.entryAt? there = some (.directory fault) ∧
      ∃ used ≤ links, Route tree used here steps there := by
  induction links generalizing here steps with
  | zero => exact exists_route_of_advance (fun _ _ hfollow => by simp at hfollow) h
  | succ links ih =>
      -- one link less is left after a link
      refine exists_route_of_advance (fun here steps hfollow => ?_) h
      obtain ⟨hentry, used, hused, hroute⟩ := ih hfollow
      exact ⟨hentry, used, Nat.lt_succ_of_le hused, hroute⟩

/-- A `walk` that may follow as many links as a `Route` gets to the directory to which this leads.
-/
theorem walk_of_route {tree : FileTree} {used links : Nat} {here there : Location}
    {steps : List Step} {fault : Option ListingFault} (hroute : Route tree used here steps there)
    (hentry : tree.entryAt? there = some (.directory fault)) (hused : used ≤ links) :
    tree.walk true links here steps = .ok ⟨there, some (.directory fault)⟩ := by
  induction hroute generalizing links with
  | done => cases links <;> simp [walk, advance, hentry]
  | stay _ ih => cases links <;> exact ih hentry hused
  | up _ ih => cases links <;> exact ih hentry hused
  | down hname _ ih =>
      have hwalk := ih hentry hused
      cases links <;> simpa only [walk, advance, hname] using hwalk
  | @link used here there steps name target hname _ ih =>
      -- a link is followed, so at least one is allowed
      obtain ⟨links, rfl⟩ : ∃ more, links = more + 1 := ⟨links - 1, by omega⟩
      have hwalk := ih hentry (by omega : used ≤ links)
      simpa [walk, advance, hname] using hwalk

/-- **A walk ends in a directory exactly if a route leads there** that follows no more links than
`walk` may. -/
theorem walk_eq_directory_iff {tree : FileTree} {links : Nat} {here there : Location}
    {steps : List Step} {fault : Option ListingFault} :
    tree.walk true links here steps = .ok ⟨there, some (.directory fault)⟩ ↔
      tree.entryAt? there = some (.directory fault) ∧
        ∃ used ≤ links, Route tree used here steps there := by
  constructor
  · exact exists_route_of_walk
  · rintro ⟨hentry, used, hused, hroute⟩
    exact walk_of_route hroute hentry hused

/-! ## Routes with few links are short -/

/-- The number of directories whose locations have more than `depth` names. -/
def directoriesBelow (tree : FileTree) (depth : Nat) : Nat :=
  tree.entries.countP fun e => e.2.isDirectory && decide (depth < e.1.length)

/-- There are fewer of `directoriesBelow` than there are directories: the root has no names. -/
theorem directoriesBelow_lt (tree : FileTree) (depth : Nat) :
    tree.directoriesBelow depth < tree.directoryCount := by
  refine Nat.lt_succ_of_le (List.countP_mono_left fun e _ he => ?_)
  exact (Bool.and_eq_true_iff.1 he).1

/-- What stands at a location other than the root is one of the `entries`. -/
theorem mem_entries_of_entryAt? {tree : FileTree} {location : Location} {entry : Entry}
    (h : tree.entryAt? location = some entry) (hne : location ≠ []) :
    (location, entry) ∈ tree.entries := by
  have hlookup : tree.entries.lookup location = some entry := by
    cases hfound : tree.entries.lookup location with
    | none => simp [entryAt?, hfound, hne] at h
    | some found => simpa [entryAt?, hfound] using h
  obtain ⟨front, back, hsplit, -⟩ := List.lookup_eq_some_iff.1 hlookup
  simp [hsplit]

/-- Below a directory there are fewer directories left: `directoriesBelow` loses the directory
itself. -/
theorem directoriesBelow_length_lt {tree : FileTree} {name : Name} {here : Location}
    {fault : Option ListingFault} (h : tree.entryAt? (name :: here) = some (.directory fault)) :
    tree.directoriesBelow (name :: here).length < tree.directoriesBelow here.length := by
  obtain ⟨front, back, hsplit⟩ :=
    List.append_of_mem (mem_entries_of_entryAt? h (List.cons_ne_nil name here))
  -- the directory itself counts only seen from above
  have hmono (entries : List (Location × Entry)) :
      (entries.countP fun e => e.2.isDirectory && decide ((name :: here).length < e.1.length)) ≤
        entries.countP fun e => e.2.isDirectory && decide (here.length < e.1.length) := by
    refine List.countP_mono_left fun e _ he => ?_
    simp only [List.length_cons, Bool.and_eq_true, decide_eq_true_eq] at he ⊢
    exact ⟨he.1, by omega⟩
  have hfront := hmono front
  have hback := hmono back
  simp only [directoriesBelow, hsplit, List.countP_append, List.countP_cons, Entry.isDirectory,
    Nat.lt_irrefl, List.length_cons, Nat.lt_succ_self, decide_true, decide_false, Bool.and_false,
    Bool.and_true, Bool.false_eq_true, if_true, if_false] at hfront hback ⊢
  omega

/-- **A route enters no more names than its links and the directories of the tree allow**: after
each link the count of `directoriesBelow` starts again. -/
theorem Route.length_le {tree : FileTree} {links : Nat} {here there : Location}
    {names : List Name} (h : Route tree links here (names.map .enter) there) :
    names.length ≤ links * tree.directoryCount + tree.directoriesBelow here.length := by
  induction names generalizing links here with
  | nil => simp
  | cons name names ih =>
      cases h with
      | down hname hroute =>
          -- the name stands for a directory that is not counted further down
          have hless := directoriesBelow_length_lt hname
          have hnames := ih hroute
          simp only [List.length_cons]
          omega
      | @link links _ _ _ _ target hname hroute =>
          -- the target may lead anywhere, but it has used up a link
          obtain ⟨before, after, mid, rfl, -, hafter⟩ := hroute.split
          have hnames := ih hafter
          have hless := tree.directoriesBelow_lt mid.length
          have hmul : after * tree.directoryCount ≤ (before + after) * tree.directoryCount :=
            Nat.mul_le_mul_right _ (Nat.le_add_left after before)
          simp only [List.length_cons]
          rw [Nat.add_mul _ 1, Nat.one_mul]
          omega

/-! ## What is asked along routes -/

/-- An entry is found by `lookup` exactly if a `walk` ends there and the path text has at most
`maxPathBytes`. -/
theorem lookup_eq_ok_iff {tree : FileTree} {followLast : Bool} {text : String}
    {location : Location} {entry : Entry} :
    tree.lookup followLast text = .ok (location, entry) ↔
      text.utf8ByteSize ≤ maxPathBytes ∧
        tree.walk followLast maxLinks [] (stepsOf text) = .ok ⟨location, some entry⟩ := by
  rw [lookup, locate]
  by_cases hsize : text.utf8ByteSize ≤ maxPathBytes
  · rw [if_pos hsize]
    split <;> simp_all
  · simp [hsize]

/-- The answer of `query` is yes exactly if `test` holds of the entry that `lookup` finds. -/
theorem query_eq_true_iff {tree : FileTree} {followLast : Bool} {path : Path}
    {test : Entry → Bool} :
    tree.query followLast path test = .ok true ↔
      hasNul path.text = false ∧ ∃ location entry,
        tree.lookup followLast path.text = .ok (location, entry) ∧ test entry = true := by
  rw [query]
  by_cases hnul : hasNul path.text = true
  · simp [hnul]
  · rw [if_neg hnul]
    cases hlookup : tree.lookup followLast path.text with
    | ok found =>
        obtain ⟨location, entry⟩ := found
        constructor
        · intro h
          exact ⟨by simpa using hnul, location, entry, rfl, by simpa using h⟩
        · rintro ⟨-, _, _, hsame, htest⟩
          cases hsame
          simpa using htest
    | error errno => by_cases hunreachable : errno.isUnreachable = true <;> simp [hunreachable]

/-- **A directory is at a path exactly if a route leads to one** with at most `maxLinks` links, and
the path text is not too long. -/
theorem isDirectory_eq_true_iff {tree : FileTree} {path : Path} :
    tree.isDirectory path = .ok true ↔
      hasNul path.text = false ∧ path.text.utf8ByteSize ≤ maxPathBytes ∧
        ∃ there fault, tree.entryAt? there = some (.directory fault) ∧
          ∃ used ≤ maxLinks, Route tree used [] (stepsOf path.text) there := by
  rw [isDirectory, query_eq_true_iff]
  constructor
  · rintro ⟨hnul, there, entry, hlookup, htest⟩
    obtain ⟨hsize, hwalk⟩ := lookup_eq_ok_iff.1 hlookup
    cases entry with
    | directory fault => exact ⟨hnul, hsize, there, fault, walk_eq_directory_iff.1 hwalk⟩
    | file text => simp [Entry.isDirectory] at htest
    | link target => simp [Entry.isDirectory] at htest
  · rintro ⟨hnul, hsize, there, fault, hroute⟩
    exact ⟨hnul, there, .directory fault,
      lookup_eq_ok_iff.2 ⟨hsize, walk_eq_directory_iff.2 hroute⟩, rfl⟩

/-- The names that the listing of a directory shows: none if its fault `showsNothing`, and no answer
if it `fails`. -/
def shown? (tree : FileTree) (location : Location) : Option ListingFault → Option (List Name)
  | none => some (sortNames (tree.namesIn location))
  | some .showsNothing => some []
  | some (.fails _) => none

/-- **A listing succeeds exactly if a route leads to a directory** whose fault lets names be
`shown?`. -/
theorem list_eq_ok_iff {tree : FileTree} {path : Path} {names : List Name} :
    tree.list path = .ok names ↔
      hasNul path.text = false ∧ path.text.utf8ByteSize ≤ maxPathBytes ∧
        ∃ there fault, tree.shown? there fault = some names ∧
          tree.entryAt? there = some (.directory fault) ∧
            ∃ used ≤ maxLinks, Route tree used [] (stepsOf path.text) there := by
  constructor
  · intro h
    rw [list] at h
    split at h
    · cases h
    · next hnul =>
      -- a directory is listed if it has no fault, or one that only shows nothing
      split at h
      · next location hlookup =>
        obtain ⟨hsize, hwalk⟩ := lookup_eq_ok_iff.1 hlookup
        obtain rfl : _ = names := by simpa using h
        exact ⟨by simpa using hnul, hsize, location, none, rfl, walk_eq_directory_iff.1 hwalk⟩
      · next location hlookup =>
        obtain ⟨hsize, hwalk⟩ := lookup_eq_ok_iff.1 hlookup
        obtain rfl : [] = names := by simpa using h
        exact ⟨by simpa using hnul, hsize, location, some .showsNothing, rfl,
          walk_eq_directory_iff.1 hwalk⟩
      all_goals cases h
  · rintro ⟨hnul, hsize, there, fault, hshown, hroute⟩
    have hlookup : tree.lookup true path.text = .ok (there, .directory fault) :=
      lookup_eq_ok_iff.2 ⟨hsize, walk_eq_directory_iff.2 hroute⟩
    rw [list, if_neg (by simp [hnul]), hlookup]
    cases fault with
    | none => exact congrArg Except.ok (Option.some.inj hshown)
    | some fault =>
        cases fault with
        | fails errno => cases hshown
        | showsNothing => exact congrArg Except.ok (Option.some.inj hshown)

/-- What a listing shows is some of `namesIn` the directory. -/
theorem mem_namesIn_of_shown? {tree : FileTree} {location : Location} {fault : Option ListingFault}
    {names : List Name} (h : tree.shown? location fault = some names) {name : Name}
    (hname : name ∈ names) : name ∈ tree.namesIn location := by
  cases fault with
  | none =>
      cases h
      exact List.mem_mergeSort.1 hname
  | some fault =>
      cases fault with
      | fails errno => cases h
      | showsNothing =>
          cases h
          cases hname

/-- What can be listed is a directory: `list` fails on all else. -/
theorem isDirectory_of_list {tree : FileTree} {path : Path} {names : List Name}
    (h : tree.list path = .ok names) : tree.isDirectory path = .ok true := by
  obtain ⟨hnul, hsize, there, fault, -, hroute⟩ := list_eq_ok_iff.1 h
  exact isDirectory_eq_true_iff.2 ⟨hnul, hsize, there, fault, hroute⟩

end FileTree

end TreeSift
