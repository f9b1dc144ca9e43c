import TreeSift.Proofs.FileTree.Route

/-! # Entries of listed directories

An entry that a listing names is there, so asking what it is fails for one reason only: the text of
its path is longer than path texts can be (`inspect_isOk_iff`). Only the text counts, so this can
happen behind links whose targets are far shorter. -/

namespace TreeSift

open TreeSift.Text (splitWhere splitWhere_eq_singleton splitWhere_append_cons)

/-! ## Names -/

namespace Name

/-- A name is not empty, by `isEntryName`. -/
theorem text_ne_empty (name : Name) : name.text ≠ "" := by
  intro h
  simpa [isEntryName, h] using name.isEntryName_text

/-- A name holds no slash, by `isEntryName`. -/
theorem ne_slash_of_mem {name : Name} {c : Char} (h : c ∈ name.text.toList) : c ≠ '/' := by
  have hname := name.isEntryName_text
  simp only [isEntryName, Bool.and_eq_true, List.all_eq_true] at hname
  simpa using (hname.2 c h).1

/-- A name holds no NUL character, by `isEntryName`. -/
theorem hasNul_text (name : Name) : FileTree.hasNul name.text = false := by
  have hname := name.isEntryName_text
  simp only [isEntryName, Bool.and_eq_true, List.all_eq_true] at hname
  rw [FileTree.hasNul, Bool.eq_false_iff]
  intro hnul
  have hvalid := hname.2 '\x00' (by simpa using hnul)
  simp at hvalid

/-- A name is the only part between slashes of its `text`. -/
theorem splitWhere_text (name : Name) :
    splitWhere (· == '/') name.text.toList = [name.text.toList] :=
  splitWhere_eq_singleton fun _ hc => by simpa using ne_slash_of_mem hc

/-- The text of a name gives the name: `ofText?` undoes `text`. -/
@[simp] theorem ofText?_text (name : Name) : Name.ofText? name.text = some name := by
  simp [ofText?, name.isEntryName_text]

/-- A name is kept as a part of a path: it is neither empty nor `.`. -/
theorem isKept_text (name : Name) : Path.isKept name.text.toList = true := by
  have hname := name.isEntryName_text
  simp only [isEntryName, Bool.and_eq_true, bne_iff_ne, ne_eq] at hname
  obtain ⟨⟨⟨⟨-, hdot⟩, -⟩, -⟩, -⟩ := hname
  have hdot' : name.text.toList ≠ ['.'] := fun h => hdot (String.toList_inj.1 h)
  simpa [Path.isKept, hdot'] using name.text_ne_empty

/-- The `text` of a name is a step to the entry with that name. -/
theorem stepsOf_text (name : Name) : stepsOf name.text = [.enter name] := by
  have hname := name.isEntryName_text
  simp only [isEntryName, Bool.and_eq_true, bne_iff_ne, ne_eq] at hname
  obtain ⟨⟨⟨⟨-, hdot⟩, hdots⟩, -⟩, -⟩ := hname
  have hempty : name.text.isEmpty = false := by simpa using name.text_ne_empty
  rw [stepsOf, splitWhere_text]
  simp [Step.ofPart, hdots, hdot, hempty]

end Name

/-! ## Paths in normal form -/

namespace Path

/-- **A path as a text writes it**: its `root` is one that `rootOf` gives, and none of its `parts`
is empty. -/
structure IsNormal (path : Path) : Prop where
  /-- The root is none, one slash or two. -/
  root_cases : path.root = "" ∨ path.root = "/" ∨ path.root = "//"
  /-- No part is empty. -/
  ne_empty_of_mem : ∀ part ∈ path.parts, part ≠ ""

/-- The root of a text is none, one slash or two: three slashes count as one. -/
theorem rootOf_cases (text : List Char) :
    rootOf text = "" ∨ rootOf text = "/" ∨ rootOf text = "//" := by
  rw [rootOf.eq_def]
  split <;> simp

/-- A text writes a path in normal form: `ofText` keeps no empty part. -/
theorem isNormal_ofText (text : String) : (ofText text).IsNormal where
  root_cases := rootOf_cases text.toList
  ne_empty_of_mem part hpart := by
    obtain ⟨chars, hchars, rfl⟩ := List.mem_map.1 hpart
    -- only parts that are not empty are kept
    have hkept := (List.mem_filter.1 hchars).2
    intro hempty
    have hnil : chars = [] := by simpa using congrArg String.toList hempty
    simp [hnil, isKept] at hkept

variable {path : Path}

/-- An entry of a directory in normal form is in normal form, as no `Name` is empty. -/
theorem IsNormal.child (h : path.IsNormal) (name : Name) : (path.child name.text).IsNormal where
  root_cases := h.root_cases
  ne_empty_of_mem part hpart := by
    rcases List.mem_append.1 hpart with hpart | hpart
    · exact h.ne_empty_of_mem part hpart
    · rw [List.mem_singleton.1 hpart]
      exact name.text_ne_empty

/-- Parts of which none is empty join to a text that is not empty: what `intercalate` puts between
them is no matter. -/
theorem intercalate_ne_empty {parts : List String} (hne : parts ≠ [])
    (hparts : ∀ part ∈ parts, part ≠ "") : "/".intercalate parts ≠ "" := by
  obtain ⟨part, others, rfl⟩ := List.exists_cons_of_ne_nil hne
  cases others with
  | nil => simpa using hparts part List.mem_cons_self
  | cons other others => simp [String.intercalate_cons_cons]

/-- With parts, the `text` of a path is its root and then the parts with slashes between them. -/
theorem IsNormal.text_eq (h : path.IsNormal) (hne : path.parts ≠ []) :
    path.text = path.root ++ "/".intercalate path.parts := by
  have hparts := intercalate_ne_empty hne h.ne_empty_of_mem
  rw [text, if_neg]
  simpa using fun _ => hparts

/-- The text of an entry is its name after the text of the directory and a slash, if this has parts.
-/
theorem IsNormal.text_child (h : path.IsNormal) (hne : path.parts ≠ []) (name : Name) :
    (path.child name.text).text = path.text ++ "/" ++ name.text := by
  rw [(h.child name).text_eq (by simp [Path.child]), h.text_eq hne, Path.child,
    String.intercalate_append_of_ne_nil hne (by simp)]
  simp [String.append_assoc]

/-- Without parts, the text of an entry is its name after the `root`. -/
theorem IsNormal.text_child_of_root (h : path.IsNormal) (hnil : path.parts = []) (name : Name) :
    (path.child name.text).text = path.root ++ name.text := by
  rw [(h.child name).text_eq (by simp [Path.child]), Path.child, hnil]
  simp

end Path

/-- A slash ends the steps before it: `stepsOf` cuts there. -/
theorem stepsOf_append_slash (front back : String) :
    stepsOf (front ++ "/" ++ back) = stepsOf front ++ stepsOf back := by
  have hslash : (front ++ "/" ++ back).toList = front.toList ++ '/' :: back.toList := by simp
  rw [stepsOf, hslash, splitWhere_append_cons (by simp), List.map_append]
  rfl

namespace FileTree

variable {tree : FileTree}

/-- From a directory to which a `Route` leads one can step to what stands in it. -/
theorem walk_enter_of_route {used links : Nat} {here there : Location} {steps : List Step}
    {name : Name} {entry : Entry} (hroute : Route tree used here steps there)
    (hname : tree.entryAt? (name :: there) = some entry) (hused : used ≤ links) :
    tree.walk false links here (steps ++ [.enter name]) = .ok ⟨name :: there, some entry⟩ := by
  induction hroute generalizing links with
  | done => cases links <;> cases entry <;> simp [walk, advance, hname]
  | stay _ ih => cases links <;> exact ih hname hused
  | up _ ih => cases links <;> exact ih hname hused
  | down hentry _ ih =>
      have hwalk := ih hname hused
      cases links <;> simpa only [walk, advance, hentry, List.cons_append] using hwalk
  | @link used here there steps outer target hentry _ ih =>
      obtain ⟨links, rfl⟩ : ∃ more, links = more + 1 := ⟨links - 1, by omega⟩
      have hwalk := ih hname (by omega : used ≤ links)
      simpa [walk, advance, hentry] using hwalk

/-- The way to what stands in a directory is, but for steps that stay, the way to the directory and
the step `.enter name`. -/
theorem exists_steps_child (tree : FileTree) {path : Path} (h : path.IsNormal) (name : Name) :
    ∃ steps, stepsOf (path.child name.text).text = steps ++ [.enter name] ∧
      ∀ used there, Route tree used [] steps there ↔ Route tree used [] (stepsOf path.text) there := by
  by_cases hparts : path.parts = []
  · -- a path without parts is written as a dot or as its root, whose steps all stay
    have htext : path.text = if path.root = "" then "." else path.root := by
      rw [Path.text, hparts]
      simp
    have hstay (steps : List Step) (used : Nat) (there : Location) :
        Route tree used [] steps there ↔ Route tree used [] (.stay :: steps) there :=
      ⟨.stay, fun hroute => by cases hroute with | stay hroute => exact hroute⟩
    rw [htext, h.text_child_of_root hparts]
    rcases h.root_cases with hroot | hroot | hroot
    · rw [hroot, String.empty_append, name.stepsOf_text, if_pos rfl]
      exact ⟨[], rfl, hstay []⟩
    · have hsteps : stepsOf ("/" ++ name.text) = [.stay] ++ [.enter name] := by
        rw [show "/" = "" ++ "/" from rfl, stepsOf_append_slash, name.stepsOf_text]
        rfl
      rw [hroot, if_neg (by decide), hsteps]
      exact ⟨[.stay], rfl, hstay [.stay]⟩
    · have hsteps : stepsOf ("//" ++ name.text) = [.stay, .stay] ++ [.enter name] := by
        rw [show "//" = "/" ++ "/" from rfl, stepsOf_append_slash, name.stepsOf_text]
        rfl
      rw [hroot, if_neg (by decide), hsteps]
      exact ⟨[.stay, .stay], rfl, hstay [.stay, .stay]⟩
  · rw [h.text_child hparts, stepsOf_append_slash, name.stepsOf_text]
    exact ⟨_, rfl, fun _ _ => Iff.rfl⟩

/-- The text of an entry holds a NUL character only if the text of its directory does: no `Name`
does. -/
theorem hasNul_text_child {path : Path} (h : path.IsNormal) (hnul : hasNul path.text = false)
    (name : Name) : hasNul (path.child name.text).text = false := by
  have hname : '\x00' ∉ name.text.toList := by simpa [hasNul] using name.hasNul_text
  have hpath : '\x00' ∉ path.text.toList := by simpa [hasNul] using hnul
  by_cases hparts : path.parts = []
  · rw [h.text_child_of_root hparts]
    rcases h.root_cases with hroot | hroot | hroot <;> simp [hasNul, hroot, hname]
  · rw [h.text_child hparts]
    simp [hasNul, hname, hpath]

/-- An entry of the tree is what stands at its location: no location comes twice in `entries`. -/
theorem entryAt?_of_mem {location : Location} {entry : Entry}
    (h : (location, entry) ∈ tree.entries) : tree.entryAt? location = some entry := by
  have hlookup : tree.entries.lookup location = some entry := by
    obtain ⟨front, back, hsplit⟩ := List.append_of_mem h
    refine List.lookup_eq_some_iff.2 ⟨front, back, hsplit, fun other hother => ?_⟩
    -- no entry before it stands at the same location
    have hdistinct := List.pairwise_map.1 tree.nodup
    rw [hsplit, List.pairwise_append] at hdistinct
    simpa using (hdistinct.2.2 other hother _ List.mem_cons_self).symm
  rw [entryAt?, hlookup]

/-- The names at a location are those of the `entries` that stand in it. -/
theorem mem_namesIn_iff {here : Location} {name : Name} :
    name ∈ tree.namesIn here ↔ ∃ entry, (name :: here, entry) ∈ tree.entries := by
  rw [namesIn, List.mem_filterMap]
  constructor
  · rintro ⟨⟨location, entry⟩, hmem, hname⟩
    cases location with
    | nil => simp at hname
    | cons inner parent =>
        obtain ⟨rfl, rfl⟩ : parent = here ∧ inner = name := by simpa using hname
        exact ⟨entry, hmem⟩
  · rintro ⟨entry, hmem⟩
    exact ⟨_, hmem, by simp⟩

/-- A location has no name twice, as `entries` has no location twice. -/
theorem nodup_namesIn (tree : FileTree) (here : Location) : (tree.namesIn here).Nodup := by
  have hdistinct : tree.entries.Pairwise fun a b => a.1 ≠ b.1 := List.pairwise_map.1 tree.nodup
  refine List.pairwise_filterMap.2 (hdistinct.imp ?_)
  rintro ⟨first, firstEntry⟩ ⟨second, secondEntry⟩ hne a ha b hb rfl
  -- both names would stand at the same location
  cases first with
  | nil => simp at ha
  | cons firstName firstParent =>
      cases second with
      | nil => simp at hb
      | cons secondName secondParent =>
          simp only [Option.ite_none_right_eq_some, Option.some.injEq] at ha hb
          obtain ⟨rfl, rfl⟩ := ha
          obtain ⟨rfl, rfl⟩ := hb
          exact hne rfl

/-- Names without repetition are sorted in the order of their texts: `sortNames` leaves them
strictly ascending. -/
theorem pairwise_sortNames {names : List Name} (h : names.Nodup) :
    (sortNames names).Pairwise fun a b => a.text < b.text := by
  have hsorted : (sortNames names).Pairwise fun a b => decide (a.text ≤ b.text) = true := by
    refine List.pairwise_mergeSort (fun a b c hab hbc => ?_) (fun a b => ?_) _
    · rw [decide_eq_true_eq] at hab hbc ⊢
      exact String.le_trans hab hbc
    · rw [Bool.or_eq_true, decide_eq_true_eq, decide_eq_true_eq]
      exact String.le_total a.text b.text
  have hnodup : (sortNames names).Nodup := (List.mergeSort_perm ..).nodup_iff.2 h
  refine hsorted.imp₂ (fun a b hle hne => ?_) hnodup
  rw [decide_eq_true_eq] at hle
  exact String.not_le.1 fun hge => hne (Name.ext (String.le_antisymm hle hge))

/-- What `list` names are entries in the order of their texts, and none twice. -/
theorem ascending_of_list {path : Path} {names : List Name} (h : tree.list path = .ok names) :
    names.Pairwise fun a b => a.text < b.text := by
  obtain ⟨-, -, there, fault, hshown, -⟩ := list_eq_ok_iff.1 h
  cases fault with
  | none =>
      cases hshown
      exact pairwise_sortNames (tree.nodup_namesIn there)
  | some fault =>
      cases fault with
      | fails errno => cases hshown
      | showsNothing =>
          cases hshown
          exact List.Pairwise.nil

/-- An `inspect` of an entry fails as `nameTooLong` if the text of its path has more than
`maxPathBytes`. -/
theorem inspect_child_eq_error {path : Path} (h : path.IsNormal) (hnul : hasNul path.text = false)
    {name : Name} (hsize : ¬(path.child name.text).text.utf8ByteSize ≤ maxPathBytes) :
    tree.inspect (path.child name.text) =
      .error (.system Errno.nameTooLong (.text (path.child name.text).text)) := by
  have hlookup : tree.lookup false (path.child name.text).text = .error Errno.nameTooLong := by
    rw [lookup, locate, if_neg hsize]
  have hlink : tree.isLink (path.child name.text) =
      .error (.system Errno.nameTooLong (.text (path.child name.text).text)) := by
    rw [isLink, query, if_neg (by simp [hasNul_text_child h hnul name]), hlookup]
    rfl
  rw [inspect, hlink]
  rfl

/-- **An entry that a listing names can be examined exactly if the text of its path is not too
long**: `inspect` has no other error for it. -/
theorem inspect_isOk_iff {path : Path} (h : path.IsNormal) {names : List Name} {name : Name}
    (hlist : tree.list path = .ok names) (hname : name ∈ names) :
    (∃ info, tree.inspect (path.child name.text) = .ok info) ↔
      (path.child name.text).text.utf8ByteSize ≤ maxPathBytes := by
  obtain ⟨hnul, -, there, fault, hshown, -, used, hused, hroute⟩ := list_eq_ok_iff.1 hlist
  obtain ⟨steps, hsteps, hsame⟩ := exists_steps_child tree h name
  obtain ⟨entry, hmem⟩ := mem_namesIn_iff.1 (mem_namesIn_of_shown? hshown hname)
  -- what is listed is there, so only the text of its path can be at fault
  have hentry := entryAt?_of_mem hmem
  by_cases hsize : (path.child name.text).text.utf8ByteSize ≤ maxPathBytes
  · have hwalk := walk_enter_of_route ((hsame used there).2 hroute) hentry hused
    have hlookup := lookup_eq_ok_iff.2 ⟨hsize, hsteps ▸ hwalk⟩
    have hlink : tree.isLink (path.child name.text) = .ok entry.isLink := by
      rw [isLink, query, if_neg (by simp [hasNul_text_child h hnul name]), hlookup]
    rw [inspect, hlink]
    exact ⟨fun _ => hsize, fun _ => ⟨_, rfl⟩⟩
  · rw [inspect_child_eq_error h hnul hsize]
    constructor
    · rintro ⟨info, hinfo⟩
      cases hinfo
    · exact fun h => absurd h hsize

end FileTree

end TreeSift
