import TreeSift.Proofs.Scan.Reach

/-! # Directories one in the other

`FileTree.nested` is a file tree of directories with one name, each in the one before, and a file in
the innermost one. A scan from the outermost directory that enters all of them reaches the file, and
the text of its path grows with their number (`NestedTree.utf8ByteSize_text_place`). With enough of
them all directories can be listed while the path of the file is too long to be examined. -/

namespace TreeSift

/-- **Directories with one name**, so many `levels` of them in each other, and a file named `leaf`
in the innermost one. -/
def FileTree.nested (name leaf : Name) (hne : leaf ≠ name) (levels : Nat) : FileTree where
  entries :=
    (leaf :: List.replicate levels name, .file "") ::
      (List.range levels).map fun depth => (List.replicate (depth + 1) name, .directory none)
  nodup := by
    rw [List.map_cons, List.map_map, List.nodup_cons]
    constructor
    · intro h
      obtain ⟨depth, -, hdepth⟩ := List.mem_map.1 h
      exact hne (List.cons.inj hdepth).1.symm
    · refine List.pairwise_map.2 (List.nodup_range.imp fun hdepths heq => hdepths ?_)
      have hlength := congrArg List.length heq
      simpa using hlength

namespace NestedTree

variable {name leaf : Name} {hne : leaf ≠ name} {levels depth : Nat}

/-- Every directory is there: `entryAt?` finds one at each depth up to `levels`. -/
theorem entryAt?_replicate (h : depth ≤ levels) :
    (FileTree.nested name leaf hne levels).entryAt? (List.replicate depth name) =
      some (.directory none) := by
  cases depth with
  | zero =>
      -- the root is a directory without an entry of its own
      have hlookup : (FileTree.nested name leaf hne levels).entries.lookup [] = none := by
        rw [List.lookup_eq_none_iff]
        intro entry hentry
        rcases List.mem_cons.1 hentry with rfl | hentry
        · simp
        · obtain ⟨depth, -, rfl⟩ := List.mem_map.1 hentry
          simp [List.replicate_succ]
      rw [List.replicate_zero, FileTree.entryAt?, hlookup, if_pos rfl]
  | succ depth =>
      refine FileTree.entryAt?_of_mem (List.mem_cons_of_mem _ (List.mem_map.2 ⟨depth, ?_, rfl⟩))
      exact List.mem_range.2 (by omega)

/-- A `Route` without links leads to every directory. -/
theorem route_replicate (hne : leaf ≠ name) (h : depth ≤ levels) :
    FileTree.Route (FileTree.nested name leaf hne levels) 0 [] (List.replicate depth (.enter name))
      (List.replicate depth name) := by
  induction depth with
  | zero => exact .done
  | succ depth ih =>
      have hstep : FileTree.Route (FileTree.nested name leaf hne levels) 0
          (List.replicate depth name) [.enter name] (List.replicate (depth + 1) name) :=
        .down (entryAt?_replicate h) .done
      rw [List.replicate_succ']
      exact (ih (by omega)).append hstep

/-- The innermost directory holds `leaf`, and every other one the next directory. -/
theorem mem_namesIn_iff (hne : leaf ≠ name) (h : depth < levels) {inner : Name} :
    inner ∈ (FileTree.nested name leaf hne levels).namesIn (List.replicate (depth + 1) name) ↔
      inner = if depth + 1 = levels then leaf else name := by
  rw [FileTree.mem_namesIn_iff]
  constructor
  · rintro ⟨entry, hentry⟩
    -- an entry of the tree is the file or one of the directories
    rcases List.mem_cons.1 hentry with heq | hentry
    · obtain ⟨hinner, hreplicate⟩ := List.cons.inj (Prod.mk.inj heq).1
      have hlength := congrArg List.length hreplicate
      simp only [List.length_replicate] at hlength
      rw [if_pos hlength, hinner]
    · obtain ⟨other, hother, heq⟩ := List.mem_map.1 hentry
      obtain ⟨hinner, hreplicate⟩ := List.cons.inj (Prod.mk.inj heq).1
      have hlength := congrArg List.length hreplicate
      have hless := List.mem_range.1 hother
      simp only [List.length_replicate] at hlength
      rw [if_neg (by omega), hinner]
  · rintro rfl
    by_cases hinner : depth + 1 = levels
    · rw [if_pos hinner, hinner]
      exact ⟨_, List.mem_cons_self⟩
    · rw [if_neg hinner]
      refine ⟨_, List.mem_cons_of_mem _ (List.mem_map.2 ⟨depth + 1, ?_, rfl⟩)⟩
      exact List.mem_range.2 (by omega)

/-- The path of the directory `depth` levels below the outermost one. -/
def placeOf (name : Name) (depth : Nat) : Path :=
  RelativePath.below (.ofText name.text) (List.replicate depth name)

/-- The path of `name.text` has the name as its only part. -/
theorem ofText_text (name : Name) : Path.ofText name.text = ⟨"", [name.text]⟩ := by
  have hparts := RelativePath.partsOf_text [name]
  have hroot := RelativePath.rootOf_text [name]
  rw [RelativePath.text_singleton] at hparts hroot
  rw [Path.ofText, hparts, hroot]
  rfl

/-- The text of `placeOf name 0` is the name. -/
theorem text_placeOf_zero (name : Name) : (placeOf name 0).text = name.text := by
  simp [placeOf, RelativePath.below, ofText_text, Path.text, name.text_ne_empty]

/-- What is in a directory has a slash and its name after the text of `placeOf name depth`. -/
theorem text_child_placeOf (name : Name) (depth : Nat) (inner : Name) :
    ((placeOf name depth).child inner.text).text =
      (placeOf name depth).text ++ "/" ++ inner.text := by
  have hnormal : (placeOf name depth).IsNormal :=
    ScanPlan.isNormal_below (Path.isNormal_ofText name.text) _
  refine hnormal.text_child (fun hparts => ?_) inner
  rw [placeOf, RelativePath.below_eq, ofText_text] at hparts
  simp at hparts

/-- On the next level, a slash and the name come after the text of `placeOf`. -/
theorem text_placeOf_succ (name : Name) (depth : Nat) :
    (placeOf name (depth + 1)).text = (placeOf name depth).text ++ "/" ++ name.text :=
  text_child_placeOf name depth name

/-- The steps to `placeOf name depth` enter `depth + 1` directories one after the other. -/
theorem stepsOf_text_placeOf (name : Name) (depth : Nat) :
    stepsOf (placeOf name depth).text = List.replicate (depth + 1) (.enter name) := by
  induction depth with
  | zero => rw [text_placeOf_zero, name.stepsOf_text, List.replicate_one]
  | succ depth ih =>
      rw [text_placeOf_succ, stepsOf_append_slash, ih, name.stepsOf_text]
      exact List.replicate_succ'.symm

/-- **The text of a path grows with every level**: by a slash and the bytes of `name`. -/
theorem utf8ByteSize_text_placeOf (name : Name) (depth : Nat) :
    (placeOf name depth).text.utf8ByteSize =
      name.text.utf8ByteSize + depth * (name.text.utf8ByteSize + 1) := by
  induction depth with
  | zero => rw [text_placeOf_zero, Nat.zero_mul, Nat.add_zero]
  | succ depth ih =>
      have hslash : "/".utf8ByteSize = 1 := rfl
      rw [text_placeOf_succ, String.utf8ByteSize_append, String.utf8ByteSize_append, ih, hslash,
        Nat.succ_mul]
      omega

/-- The text of `placeOf` holds no NUL character, as no `Name` does. -/
theorem hasNul_text_placeOf (name : Name) (depth : Nat) :
    FileTree.hasNul (placeOf name depth).text = false := by
  induction depth with
  | zero => rw [text_placeOf_zero, name.hasNul_text]
  | succ depth ih =>
      exact FileTree.hasNul_text_child
        (ScanPlan.isNormal_below (Path.isNormal_ofText name.text) _) ih name

/-- Paths of directories further out are no longer: the size of the text of `placeOf` grows with the
depth. -/
theorem utf8ByteSize_text_placeOf_le (name : Name) (h : depth ≤ levels) :
    (placeOf name depth).text.utf8ByteSize ≤ (placeOf name levels).text.utf8ByteSize := by
  rw [utf8ByteSize_text_placeOf, utf8ByteSize_text_placeOf]
  exact Nat.add_le_add_left (Nat.mul_le_mul_right _ h) _

/-! ## Scans from the outermost directory -/

variable {plan : ScanPlan} {opens : RelativePath → Prop}

/-- The directories lie on the way down from the base directory: `place` of so many names is
`placeOf`. -/
theorem place_replicate (hbase : plan.base = .ofText name.text) (depth : Nat) :
    plan.place (List.replicate depth name) = placeOf name depth := by
  rw [ScanPlan.place, hbase, placeOf]

/-- If the path of the innermost directory has at most `maxPathBytes`, every directory lists the
next one, and the innermost one `leaf`. -/
theorem lists_iff (hne : leaf ≠ name) (hbase : plan.base = .ofText name.text)
    (hsize : (placeOf name levels).text.utf8ByteSize ≤ maxPathBytes) (h : depth ≤ levels)
    {inner : Name} :
    plan.Lists (FileTree.nested name leaf hne (levels + 1)) (List.replicate depth name) inner ↔
      inner = if depth = levels then leaf else name := by
  have hplace := place_replicate hbase depth
  have hshort := Nat.le_trans (utf8ByteSize_text_placeOf_le name h) hsize
  have hroute := route_replicate hne (Nat.succ_le_succ h)
  -- the route goes down through all directories and follows no link
  have hlist : (FileTree.nested name leaf hne (levels + 1)).list (placeOf name depth) =
      .ok (FileTree.sortNames ((FileTree.nested name leaf hne (levels + 1)).namesIn
        (List.replicate (depth + 1) name))) := by
    refine FileTree.list_eq_ok_iff.2 ⟨hasNul_text_placeOf name depth, hshort, _, none, rfl,
      entryAt?_replicate (Nat.succ_le_succ h), 0, Nat.zero_le _, ?_⟩
    rwa [stepsOf_text_placeOf]
  have hnames : inner ∈ (FileTree.nested name leaf hne (levels + 1)).namesIn
      (List.replicate (depth + 1) name) ↔ inner = if depth = levels then leaf else name := by
    rw [mem_namesIn_iff hne (Nat.lt_succ_of_le h)]
    simp only [Nat.succ_inj]
  rw [ScanPlan.Lists, hplace, hlist, ← hnames]
  constructor
  · rintro ⟨_, hok, hinner⟩
    cases hok
    exact List.mem_mergeSort.1 hinner
  · exact fun hinner => ⟨_, rfl, List.mem_mergeSort.2 hinner⟩

/-- Every directory is known to be one: `isDirectory` says yes of each `place`. -/
theorem isDirectory_place (hne : leaf ≠ name) (hbase : plan.base = .ofText name.text)
    (hsize : (placeOf name levels).text.utf8ByteSize ≤ maxPathBytes) (h : depth ≤ levels) :
    (FileTree.nested name leaf hne (levels + 1)).isDirectory
      (plan.place (List.replicate depth name)) = .ok true := by
  obtain ⟨names, hlist, -⟩ := (lists_iff hne hbase hsize h).2 rfl
  exact FileTree.isDirectory_of_list hlist

/-- A scan whose `opens` holds of every directory reaches all of them. -/
theorem reachesBy_replicate (hne : leaf ≠ name) (hbase : plan.base = .ofText name.text)
    (hsize : (placeOf name levels).text.utf8ByteSize ≤ maxPathBytes)
    (hopens : ∀ path, (FileTree.nested name leaf hne (levels + 1)).isDirectory (plan.place path) =
      .ok true → opens path) (h : depth ≤ levels) :
    plan.ReachesBy (FileTree.nested name leaf hne (levels + 1)) opens
      (List.replicate depth name) := by
  induction depth with
  | zero => exact ScanPlan.reachesBy_nil
  | succ depth ih =>
      have hless := Nat.le_of_succ_le h
      have hlists := (lists_iff hne hbase hsize hless).2 (if_neg (Nat.ne_of_lt h)).symm
      exact ScanPlan.reachesBy_cons.2
        ⟨ih hless, hlists, fun _ => hopens _ (isDirectory_place hne hbase hsize hless)⟩

/-- **A scan that enters every directory reaches the file**: `leaf` in the innermost one. -/
theorem reachesBy_leaf (hne : leaf ≠ name) (hbase : plan.base = .ofText name.text)
    (hsize : (placeOf name levels).text.utf8ByteSize ≤ maxPathBytes)
    (hopens : ∀ path, (FileTree.nested name leaf hne (levels + 1)).isDirectory (plan.place path) =
      .ok true → opens path) :
    plan.ReachesBy (FileTree.nested name leaf hne (levels + 1)) opens
      (leaf :: List.replicate levels name) := by
  have hself := Nat.le_refl levels
  have hlists := (lists_iff hne hbase hsize hself).2 (if_pos rfl).symm
  exact ScanPlan.reachesBy_cons.2 ⟨reachesBy_replicate hne hbase hsize hopens hself, hlists,
    fun _ => hopens _ (isDirectory_place hne hbase hsize hself)⟩

/-- **A scan that does not enter one of the directories** gets to it and no further: what is reached
has a depth of at most `shut`. -/
theorem exists_depth_of_reachesBy (hne : leaf ≠ name) (hbase : plan.base = .ofText name.text)
    (hsize : (placeOf name levels).text.utf8ByteSize ≤ maxPathBytes) {shut : Nat} (hpos : shut ≠ 0)
    (hlevels : shut ≤ levels) (hshut : ¬opens (List.replicate shut name)) {path : RelativePath}
    (h : plan.ReachesBy (FileTree.nested name leaf hne (levels + 1)) opens path) :
    ∃ depth ≤ shut, path = List.replicate depth name := by
  induction path with
  | nil => exact ⟨0, Nat.zero_le shut, rfl⟩
  | cons inner parent ih =>
      obtain ⟨hparent, hlists, hopens⟩ := ScanPlan.reachesBy_cons.1 h
      obtain ⟨depth, hdepth, rfl⟩ := ih hparent
      -- to get here, it has entered the directory above, so that is another one
      have hother : depth ≠ shut := by
        rintro rfl
        exact hshut (hopens (by simpa using hpos))
      have hless : depth < shut := Nat.lt_of_le_of_ne hdepth hother
      have hinner := (lists_iff hne hbase hsize (Nat.le_trans hdepth hlevels)).1 hlists
      rw [if_neg (Nat.ne_of_lt (Nat.lt_of_lt_of_le hless hlevels))] at hinner
      exact ⟨depth + 1, hless, by rw [hinner, List.replicate_succ]⟩

/-- The path of `leaf` is too long if there are enough directories, so that it is not `Examinable`.
-/
theorem not_examinable_leaf (hbase : plan.base = .ofText name.text)
    (hsize : maxPathBytes ≤ (placeOf name levels).text.utf8ByteSize) :
    ¬plan.Examinable (FileTree.nested name leaf hne (levels + 1))
      (leaf :: List.replicate levels name) := by
  intro h
  have hplace : plan.place (leaf :: List.replicate levels name) =
      (placeOf name levels).child leaf.text := by
    rw [ScanPlan.place, hbase, placeOf]
    rfl
  -- the slash and the name make the text too long
  have hsize' := h.size_le (List.cons_ne_nil _ _)
  have hslash : "/".utf8ByteSize = 1 := rfl
  rw [hplace, text_child_placeOf, String.utf8ByteSize_append, String.utf8ByteSize_append,
    hslash] at hsize'
  omega

/-! ## A path that is too long -/

/-- A name of 63 letters, which makes `deepTree` as deep as path texts allow. -/
def longName : Name where
  text := "ddddddddddddddddddddddddddddddddddddddddddddddddddddddddddddddd"
  isEntryName_text := by decide +kernel

/-- A short name, for the file in `deepTree`. -/
def leafName : Name where
  text := "f"
  isEntryName_text := by decide

/-- The long name has 63 bytes: `longName.text.utf8ByteSize`. -/
theorem utf8ByteSize_longName : longName.text.utf8ByteSize = 63 := by decide +kernel

theorem leafName_ne_longName : leafName ≠ longName := by
  intro h
  have hsize : leafName.text.utf8ByteSize = longName.text.utf8ByteSize := by rw [h]
  rw [utf8ByteSize_longName] at hsize
  exact absurd hsize (by decide)

/-- **64 directories named** `longName`, one in the other, and the file `leafName` in the innermost
one. -/
def deepTree : FileTree :=
  .nested longName leafName leafName_ne_longName 64

/-- The path of the innermost directory of `deepTree` has exactly `maxPathBytes`, so that it can be
listed and nothing in it can be examined. -/
theorem utf8ByteSize_text_placeOf_longName :
    (placeOf longName 63).text.utf8ByteSize = maxPathBytes := by
  rw [utf8ByteSize_text_placeOf, utf8ByteSize_longName, maxPathBytes]

/-- The outermost directory of `deepTree` can be a base directory. -/
theorem isDirectory_deepTree : deepTree.isDirectory (.ofText longName.text) = .ok true := by
  have hsize := Nat.le_of_eq utf8ByteSize_text_placeOf_longName
  have hbase : (ScanPlan.mk (.ofText longName.text) {} false none).base = .ofText longName.text := rfl
  have hplace := isDirectory_place leafName_ne_longName hbase hsize (Nat.zero_le 63)
  rw [List.replicate_zero, ScanPlan.place, hbase, RelativePath.below] at hplace
  exact hplace

/-- A scan of `deepTree` that enters every directory below its base directory reaches what is not
`Examinable`. -/
theorem exists_not_examinable (hbase : plan.base = .ofText longName.text)
    (hopens : ∀ path, [longName] <:+ path → deepTree.isDirectory (plan.place path) = .ok true →
      plan.Opens deepTree path) :
    ∃ path, plan.Reachable deepTree path ∧ ¬plan.Examinable deepTree path := by
  have hsize := utf8ByteSize_text_placeOf_longName
  have hleaf : plan.ReachesBy deepTree
      (fun path => deepTree.isDirectory (plan.place path) = .ok true)
      (leafName :: List.replicate 63 longName) :=
    reachesBy_leaf leafName_ne_longName hbase (Nat.le_of_eq hsize) fun _ h => h
  have houter : [longName] <:+ leafName :: List.replicate 63 longName :=
    ⟨leafName :: List.replicate 62 longName, rfl⟩
  refine ⟨_, ⟨hleaf.lists, fun name parent hsuffix hne => ?_⟩,
    not_examinable_leaf hbase (Nat.le_of_eq hsize.symm)⟩
  have hparent := (List.suffix_cons name parent).trans hsuffix
  exact hopens parent (List.suffix_of_suffix_length_le houter hparent (List.length_pos_iff.2 hne))
    (hleaf.opens name parent hsuffix hne)

end NestedTree

end TreeSift
