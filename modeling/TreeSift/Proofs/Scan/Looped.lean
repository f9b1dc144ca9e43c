import TreeSift.Proofs.Scan.Nested

/-! # A link to its own directory

`FileTree.looped` is a directory that holds nothing but a link to itself. A scan that follows links
enters the link time and again (`LoopedTree.lists_iff`), and the text of its path grows until it is
too long to be examined. A scan that does not follow links meets the link once. -/

namespace TreeSift

/-- **A directory with a link to itself**: the directory `name`, in which the link `name` leads back
to it. -/
def FileTree.looped (name : Name) : FileTree where
  entries := [([name], .directory none), ([name, name], .link ".")]
  nodup := by simp

namespace LoopedTree

open NestedTree (placeOf)

variable {name : Name} {depth : Nat} {plan : ScanPlan} {opens : RelativePath → Prop}

/-- The directory of `looped` stands at `[name]`. -/
theorem entryAt?_directory (name : Name) :
    (FileTree.looped name).entryAt? [name] = some (.directory none) :=
  FileTree.entryAt?_of_mem List.mem_cons_self

/-- The link of `looped` stands at `[name, name]`, and its target is `.`, the directory that it is
in. -/
theorem entryAt?_link (name : Name) :
    (FileTree.looped name).entryAt? [name, name] = some (.link ".") :=
  FileTree.entryAt?_of_mem (List.mem_cons_of_mem _ List.mem_cons_self)

/-- The link is all that `namesIn` finds in it. -/
theorem namesIn_directory (name : Name) : (FileTree.looped name).namesIn [name] = [name] := by
  simp [FileTree.namesIn, FileTree.looped]

/-- **However often the link is entered**, the route leads to the directory: after `depth` links it
ends in `[name]`. -/
theorem route_replicate (name : Name) (depth : Nat) :
    FileTree.Route (FileTree.looped name) depth [] (List.replicate (depth + 1) (.enter name))
      [name] := by
  induction depth with
  | zero => exact .down (entryAt?_directory name) .done
  | succ depth ih =>
      -- the target is a dot, so it stays where the link stands
      have hsteps : stepsOf "." = [.stay] := by decide +kernel
      have hslash : ".".startsWith "/" = false := by decide +kernel
      have hstart : startOf "." [name] = [name] := by
        rw [startOf, hslash]
        rfl
      have hagain : FileTree.Route (FileTree.looped name) 0 (startOf "." [name]) (stepsOf "." ++ [])
          [name] := by
        rw [hsteps, hstart]
        exact .stay .done
      rw [List.replicate_succ']
      exact ih.append (.link (entryAt?_link name) hagain)

/-- As long as its path text has at most `maxPathBytes` bytes and its depth is at most `maxLinks`,
`list` finds the link behind itself. -/
theorem list_placeOf (hsize : (placeOf name depth).text.utf8ByteSize ≤ maxPathBytes)
    (hdepth : depth ≤ maxLinks) : (FileTree.looped name).list (placeOf name depth) = .ok [name] := by
  refine FileTree.list_eq_ok_iff.2 ⟨NestedTree.hasNul_text_placeOf name depth, hsize, [name], none,
    ?_, entryAt?_directory name, depth, hdepth, ?_⟩
  · rw [FileTree.shown?, namesIn_directory, FileTree.sortNames, List.mergeSort_singleton]
  · rw [NestedTree.stepsOf_text_placeOf]
    exact route_replicate name depth

/-- The directory of `looped` is one that a scan can start from. -/
theorem isDirectory_ofText (hsize : (placeOf name depth).text.utf8ByteSize ≤ maxPathBytes) :
    (FileTree.looped name).isDirectory (.ofText name.text) = .ok true := by
  have hbase := Nat.le_trans (NestedTree.utf8ByteSize_text_placeOf_le name (Nat.zero_le depth)) hsize
  have hlist := list_placeOf hbase (Nat.zero_le _)
  exact FileTree.isDirectory_of_list hlist

/-- A scan that enters every directory gets to the link as often as links are followed: `ReachesBy`
holds of all `levels` up to `maxLinks`, while the path text is not too long. -/
theorem reachesBy_replicate (hbase : plan.base = .ofText name.text) {levels : Nat}
    (hsize : (placeOf name levels).text.utf8ByteSize ≤ maxPathBytes) (hlevels : levels ≤ maxLinks)
    (hopens : ∀ path, (FileTree.looped name).isDirectory (plan.place path) = .ok true → opens path)
    (h : depth ≤ levels + 1) :
    plan.ReachesBy (FileTree.looped name) opens (List.replicate depth name) := by
  induction depth with
  | zero => exact ScanPlan.reachesBy_nil
  | succ depth ih =>
      have hless := Nat.le_of_succ_le_succ h
      have hlist : (FileTree.looped name).list (plan.place (List.replicate depth name)) =
          .ok [name] := by
        rw [NestedTree.place_replicate hbase]
        exact list_placeOf (Nat.le_trans (NestedTree.utf8ByteSize_text_placeOf_le name hless) hsize)
          (Nat.le_trans hless hlevels)
      exact ScanPlan.reachesBy_cons.2 ⟨ih (Nat.le_succ_of_le hless), ⟨_, hlist, List.mem_cons_self⟩,
        fun _ => hopens _ (FileTree.isDirectory_of_list hlist)⟩

/-- The first link below the directory is known to be one: `isLink` answers `true`. -/
theorem isLink_placeOf_one (hsize : (placeOf name 1).text.utf8ByteSize ≤ maxPathBytes) :
    (FileTree.looped name).isLink (placeOf name 1) = .ok true := by
  refine FileTree.query_eq_true_iff.2 ⟨NestedTree.hasNul_text_placeOf name 1, [name, name],
    .link ".", FileTree.lookup_eq_ok_iff.2 ⟨hsize, ?_⟩, rfl⟩
  rw [NestedTree.stepsOf_text_placeOf]
  simp [FileTree.walk, maxLinks, FileTree.advance, entryAt?_directory, entryAt?_link]

/-- **A scan that enters no link** gets to the link once: what `ReachesBy` reaches is the directory
or the link in it. -/
theorem eq_of_reachesBy (hbase : plan.base = .ofText name.text)
    (hsize : (placeOf name 1).text.utf8ByteSize ≤ maxPathBytes)
    (hopens : ∀ path, opens path → (FileTree.looped name).isLink (plan.place path) ≠ .ok true)
    {path : RelativePath} (h : plan.ReachesBy (FileTree.looped name) opens path) :
    path = [] ∨ path = [name] := by
  induction path with
  | nil => exact .inl rfl
  | cons inner parent ih =>
      obtain ⟨hparent, ⟨names, hlist, hinner⟩, hopen⟩ := ScanPlan.reachesBy_cons.1 h
      have hplace (depth : Nat) := NestedTree.place_replicate hbase depth
      rcases ih hparent with rfl | rfl
      · have hbaseSize := Nat.le_trans
          (NestedTree.utf8ByteSize_text_placeOf_le name (Nat.zero_le 1)) hsize
        rw [← List.replicate_zero, hplace 0, list_placeOf hbaseSize (Nat.zero_le _)] at hlist
        cases hlist
        rw [List.mem_singleton.1 hinner]
        exact .inr rfl
      · -- to get further, it would have to enter the link
        have hlink := isLink_placeOf_one hsize
        rw [← hplace 1] at hlink
        exact absurd hlink (hopens _ (hopen (List.cons_ne_nil _ _)))

/-! ## A path that grows too long -/

/-- A text of 255 letters can name an entry: `isEntryName` allows that many bytes. -/
theorem isEntryName_replicate : isEntryName (String.ofList (List.replicate 255 'd')) = true := by
  rw [isEntryName, String.toList_ofList]
  decide +kernel

/-- A name of 255 times the letter `d`. -/
def wideName : Name :=
  ⟨String.ofList (List.replicate 255 'd'), isEntryName_replicate⟩

/-- The name of `wideTree` has as many bytes as a name may have. -/
theorem utf8ByteSize_wideName : wideName.text.utf8ByteSize = 255 := by decide +kernel

/-- When the link of `wideTree` has been entered 15 times, its path text has `maxPathBytes` bytes;
once more, and it is too long. -/
theorem utf8ByteSize_text_placeOf_wideName :
    (placeOf wideName 15).text.utf8ByteSize = maxPathBytes := by
  rw [NestedTree.utf8ByteSize_text_placeOf, utf8ByteSize_wideName, maxPathBytes]

/-- **A directory that holds a link to itself**, with a long name: `looped wideName`. -/
def wideTree : FileTree :=
  .looped wideName

/-- The directory of `wideTree` is one that a scan can start from. -/
theorem isDirectory_wideTree : wideTree.isDirectory (.ofText wideName.text) = .ok true :=
  isDirectory_ofText (Nat.le_of_eq utf8ByteSize_text_placeOf_wideName)

/-- A scan that follows links reaches something in `wideTree` that is not `Examinable`. -/
theorem exists_not_examinable (hbase : plan.base = .ofText wideName.text)
    (hopens : ∀ path, wideTree.isDirectory (plan.place path) = .ok true → plan.Opens wideTree path) :
    ∃ path, plan.Reachable wideTree path ∧ ¬plan.Examinable wideTree path := by
  have hsize := utf8ByteSize_text_placeOf_wideName
  refine ⟨List.replicate 16 wideName, reachesBy_replicate hbase (Nat.le_of_eq hsize) (by decide)
    hopens (Nat.le_refl 16), fun h => ?_⟩
  have hsize' := h.size_le (List.cons_ne_nil _ _)
  rw [NestedTree.place_replicate hbase, NestedTree.utf8ByteSize_text_placeOf,
    utf8ByteSize_wideName, maxPathBytes] at hsize'
  exact absurd hsize' (by decide)

end LoopedTree

end TreeSift
