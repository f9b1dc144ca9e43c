import TreeSift.Proofs.Scan.Looped
import TreeSift.Proofs.Scan.Specification

/-! # Following links

A scan that does not follow links finds what a scan that does finds, but for what lies behind a link
(`Unlinked`), and it notes the links it stops at. Asking whether a directory is reached through a
link, part by part from the base directory, says the same about what has been found
(`isReachedByLink_eq_false_iff`). -/

namespace TreeSift

/-- Whether `isLink` answers yes about a path can be found out. -/
instance decidableIsLink (tree : FileTree) (path : Path) : Decidable (tree.isLink path = .ok true) :=
  match tree.isLink path with
  | .ok true => isTrue rfl
  | .ok false => isFalse fun h => nomatch h
  | .error _ => isFalse fun h => nomatch h

/-- **An entry that does not lie behind a link**: `isLink` holds of no directory above it, the base
directory aside. -/
def Unlinked (tree : FileTree) (base : Path) (path : RelativePath) : Prop :=
  ∀ ancestor, ancestor <:+ path → ancestor ≠ path → ancestor ≠ [] →
    tree.isLink (RelativePath.below base ancestor) ≠ .ok true

variable {tree : FileTree} {base : Path} {name : Name} {path parent : RelativePath}

theorem unlinked_nil : Unlinked tree base [] :=
  RelativePath.clear_nil

/-- What lies above an entry is its directory and what lies above that: `Unlinked` by all suffixes
of `parent`. -/
theorem unlinked_cons_iff_forall :
    Unlinked tree base (name :: parent) ↔ ∀ ancestor, ancestor <:+ parent → ancestor ≠ [] →
      tree.isLink (RelativePath.below base ancestor) ≠ .ok true :=
  RelativePath.clear_cons_iff_forall

/-- An entry is `Unlinked` if its directory is, and this is not a link, unless it is the base
directory. -/
theorem unlinked_cons :
    Unlinked tree base (name :: parent) ↔
      Unlinked tree base parent ∧
        (parent ≠ [] → tree.isLink (RelativePath.below base parent) ≠ .ok true) :=
  RelativePath.clear_cons

/-- Whether an entry is `Unlinked` can be found out, directory by directory. -/
instance decidableUnlinked (tree : FileTree) (base : Path) :
    (path : RelativePath) → Decidable (Unlinked tree base path)
  | [] => isTrue unlinked_nil
  | _ :: parent =>
    have : Decidable (Unlinked tree base parent) := decidableUnlinked tree base parent
    decidable_of_iff _ unlinked_cons.symm

/-! ## Asking part by part -/

namespace FileTree

/-- The last part is asked if no part before it is a link: `anyLinkBelow` unfolds from the end. -/
theorem anyLinkBelow_concat (tree : FileTree) (base : Path) (parts : List String) (part : String) :
    tree.anyLinkBelow base (parts ++ [part]) = (do
      if ← tree.anyLinkBelow base parts then return true
      tree.isLink ⟨base.root, base.parts ++ (parts ++ [part])⟩) := by
  induction parts generalizing base with
  | nil =>
      show (do
        if ← tree.isLink (base.child part) then return true
        .ok false) = tree.isLink (base.child part)
      cases tree.isLink (base.child part) with
      | error error => rfl
      | ok isLink => cases isLink <;> rfl
  | cons first parts ih =>
      rw [List.cons_append, anyLinkBelow, ih, anyLinkBelow]
      cases tree.isLink (base.child first) with
      | error error => rfl
      | ok isLink =>
          cases isLink with
          | true => rfl
          | false =>
              have hplace : (base.child first).parts ++ (parts ++ [part]) =
                  base.parts ++ (first :: parts ++ [part]) := by simp [Path.child]
              rw [hplace]
              rfl

/-- **Asking part by part** finds out whether a directory or one above it is a link, if `isLink`
answers about each of them. -/
theorem anyLinkBelow_eq_false_iff
    (hanswers : ∀ ancestor, ancestor <:+ path → ancestor ≠ [] →
      ∃ answer, tree.isLink (RelativePath.below base ancestor) = .ok answer) :
    tree.anyLinkBelow base (path.reverse.map Name.text) = .ok false ↔
      ∀ ancestor, ancestor <:+ path → ancestor ≠ [] →
        tree.isLink (RelativePath.below base ancestor) ≠ .ok true := by
  induction path with
  | nil =>
      refine ⟨fun _ ancestor hsuffix hne => absurd (List.suffix_nil.1 hsuffix) hne, fun _ => rfl⟩
  | cons name parent ih =>
      have hself := List.suffix_refl (name :: parent)
      obtain ⟨answer, hanswer⟩ := hanswers _ hself (List.cons_ne_nil name parent)
      have hparent := ih fun ancestor hsuffix =>
        hanswers ancestor (hsuffix.trans (List.suffix_cons name parent))
      rw [List.reverse_cons, List.map_append, List.map_singleton, anyLinkBelow_concat,
        ← List.map_singleton, ← List.map_append, ← List.reverse_cons, ← RelativePath.below_eq, hanswer]
      -- the last part is the entry itself, and the others are those above it
      have hsplit : (∀ ancestor, ancestor <:+ name :: parent → ancestor ≠ [] →
          tree.isLink (RelativePath.below base ancestor) ≠ .ok true) ↔
            answer ≠ true ∧ ∀ ancestor, ancestor <:+ parent → ancestor ≠ [] →
              tree.isLink (RelativePath.below base ancestor) ≠ .ok true := by
        simp only [List.suffix_cons_iff, or_imp, forall_and, forall_eq, hanswer]
        simp
      rw [hsplit, ← hparent]
      cases tree.anyLinkBelow base (parent.reverse.map Name.text) with
      | error error => simp [bind, Except.bind]
      | ok any => cases any <;> cases answer <;> simp [bind, Except.bind, pure, Except.pure]

end FileTree

/-- The text of the directory of an entry, from the `text` of the entry: what stands before its last
slash. -/
def RelativePath.dirname (text : String) : String :=
  RelativePath.text (RelativePath.ofText text).tail

@[simp] theorem RelativePath.dirname_text_cons (name : Name) (parent : RelativePath) :
    RelativePath.dirname (RelativePath.text (name :: parent)) = RelativePath.text parent := by
  rw [RelativePath.dirname, RelativePath.ofText_text, List.tail_cons]

namespace Scanner

/-- **A directory is reached through a link** exactly if what is in it is not `Unlinked`, as far as
`isLink` answers about the directories on the way. -/
theorem isReachedByLink_eq_false_iff {scanner : Scanner} (hbase : scanner.settings.basedir = some base)
    (hanswers : ∀ ancestor, ancestor <:+ parent → ancestor ≠ [] →
      ∃ answer, tree.isLink (RelativePath.below base ancestor) = .ok answer) :
    scanner.isReachedByLink tree (base.join (RelativePath.text parent)) = .ok false ↔
      Unlinked tree base (name :: parent) := by
  rw [unlinked_cons_iff_forall, ← FileTree.anyLinkBelow_eq_false_iff hanswers]
  simp only [isReachedByLink, FileTree.isReachedByLink, hbase, RelativePath.join_text,
    RelativePath.partsAfter?_below]

/-! ## Following links and stopping at them -/

variable {settings : ScanSettings} {prune : Bool}

/-- The `settings` with `followLinks` set to `follow`, and all else as it is. -/
def following (settings : ScanSettings) (follow : Bool) : ScanSettings :=
  { settings with followLinks := follow }

/-- Under `following settings false` the open directories are those of `following settings true`
that are no links. -/
theorem opens_following_false_iff :
    (planFrom (following settings false) prune base).Opens tree path ↔
      (planFrom (following settings true) prune base).Opens tree path ∧
        tree.isLink (RelativePath.below base path) ≠ .ok true := by
  constructor
  · intro h
    exact ⟨⟨h.isDirectory, h.not_excludes, fun _ => rfl, h.could_hold⟩, fun hlink =>
      nomatch h.followLinks hlink⟩
  · rintro ⟨h, hlink⟩
    exact ⟨h.isDirectory, h.not_excludes, fun hislink => absurd hislink hlink, h.could_hold⟩

/-- **Where links are not followed, one reaches what does not lie behind a link**: `Reachable` is
that of `following settings true`, and `Unlinked`. -/
theorem reachable_following_false_iff :
    (planFrom (following settings false) prune base).Reachable tree path ↔
      (planFrom (following settings true) prune base).Reachable tree path ∧
        Unlinked tree base path := by
  have hbase : (planFrom (following settings false) prune base).base =
      (planFrom (following settings true) prune base).base := rfl
  -- a directory that is a link is the only one that only the other scan enters
  exact ScanPlan.reachable_iff_clear hbase fun _ => opens_following_false_iff

/-- What is `Examinable` under `following settings true` is so under `following settings false`. -/
theorem examinable_following_false
    (h : (planFrom (following settings true) prune base).Examinable tree path) :
    (planFrom (following settings false) prune base).Examinable tree path where
  size_le := h.size_le
  isIncluded_eq_ok := h.isIncluded_eq_ok
  isExcluded_eq_ok hasks := by
    refine h.isExcluded_eq_ok (hasks.imp_right ?_)
    rintro ⟨hne, hdirectory, -⟩
    exact ⟨hne, hdirectory, fun _ => rfl⟩

/-! ## Both results -/

/-- **What a scan that stops at links owes to one that follows them**: its lists are those of
`followed` restricted to what is `Unlinked`, and it notes the links where it stops. -/
structure StopsAtLinks (tree : FileTree) (base : Path) (stopping followed : ScanResult) : Prop where
  /-- It finds what does not lie behind a link. -/
  list_eq : ∀ isDirectory c, stopping.list isDirectory c =
    (followed.list isDirectory c).filter fun name =>
      decide (Unlinked tree base (RelativePath.ofText name))
  /-- Where links are followed, none is noted as not followed. -/
  notFollowedLinks_eq_nil : followed.notFollowedLinks = []
  /-- Where they are not, those of the directories found are noted that are links. -/
  mem_notFollowedLinks : ∀ name, name ∈ stopping.notFollowedLinks ↔
    name ≠ "" ∧ (∃ c, name ∈ stopping.list true c) ∧ tree.isLink (base.join name) = .ok true
  /-- What lies behind a link is what is said to be reached through one. -/
  unlinked_iff : ∀ isDirectory c, ∀ name ∈ followed.list isDirectory c, name ≠ "" →
    ∀ scanner : Scanner, scanner.settings.basedir = some base →
      (Unlinked tree base (RelativePath.ofText name) ↔
        scanner.isReachedByLink tree (base.join (RelativePath.dirname name)) = .ok false)

section Describes

variable {stopping followed : ScanResult}
  (hstopping : (planFrom (following settings false) prune base).Describes tree stopping)
  (hfollowed : (planFrom (following settings true) prune base).Describes tree followed)

include hstopping hfollowed in
/-- The lists of `stopping` are what is left of those of `followed` by `Unlinked`. -/
theorem list_eq_filter (isDirectory : Bool) (c : Classification) :
    stopping.list isDirectory c = (followed.list isDirectory c).filter fun name =>
      decide (Unlinked tree base (RelativePath.ofText name)) := by
  refine eq_filter_of_mem_iff (hstopping.ascending_list isDirectory c)
    (hfollowed.ascending_list isDirectory c) fun name => ?_
  rw [hstopping.mem_list, hfollowed.mem_list]
  constructor
  · rintro ⟨path, hreach, rfl, hkind, hclass⟩
    obtain ⟨hreach, hunlinked⟩ := reachable_following_false_iff.1 hreach
    rw [RelativePath.ofText_text]
    exact ⟨⟨path, hreach, rfl, hkind, hclass⟩, hunlinked⟩
  · rintro ⟨⟨path, hreach, rfl, hkind, hclass⟩, hunlinked⟩
    rw [RelativePath.ofText_text] at hunlinked
    exact ⟨path, reachable_following_false_iff.2 ⟨hreach, hunlinked⟩, rfl, hkind, hclass⟩

include hfollowed in
/-- Where links are followed, `notFollowedLinks` is empty. -/
theorem notFollowedLinks_eq_nil_of_describes : followed.notFollowedLinks = [] := by
  refine List.eq_nil_iff_forall_not_mem.2 fun name hname => ?_
  obtain ⟨path, -, -, -, -, -, hfollow⟩ := (hfollowed.mem_notFollowedLinks name).1 hname
  cases hfollow

include hstopping in
/-- The links in `notFollowedLinks` are the directories found that are links, the base directory
aside. -/
theorem mem_notFollowedLinks_iff (name : String) :
    name ∈ stopping.notFollowedLinks ↔
      name ≠ "" ∧ (∃ c, name ∈ stopping.list true c) ∧ tree.isLink (base.join name) = .ok true := by
  rw [hstopping.mem_notFollowedLinks]
  constructor
  · rintro ⟨path, hne, hreach, rfl, hdirectory, hlink, -⟩
    obtain ⟨c, hclass⟩ := settings.exists_hasClass (RelativePath.text path)
    refine ⟨fun hempty => hne (RelativePath.text_injective hempty), ⟨c, ?_⟩, ?_⟩
    · exact (hstopping.mem_list true c _).2 ⟨path, hreach, rfl, by simp [hdirectory], hclass⟩
    · rw [RelativePath.join_text]
      exact hlink
  · rintro ⟨hne, ⟨c, hname⟩, hlink⟩
    obtain ⟨path, hreach, rfl, hdirectory, -⟩ := (hstopping.mem_list true c name).1 hname
    rw [RelativePath.join_text] at hlink
    exact ⟨path, fun hnil => hne (hnil ▸ rfl), hreach, rfl, hdirectory.1 rfl, hlink, rfl⟩

include hfollowed in
/-- What has been found is `Unlinked` exactly if `isReachedByLink` says no about its directory. -/
theorem unlinked_iff_of_describes (hnormal : base.IsNormal)
    (hexaminable : ∀ path, (planFrom (following settings true) prune base).Reachable tree path →
      (planFrom (following settings true) prune base).Examinable tree path)
    {isDirectory : Bool} {c : Classification} {name : String}
    (hname : name ∈ followed.list isDirectory c) (hne : name ≠ "") {scanner : Scanner}
    (hbase : scanner.settings.basedir = some base) :
    Unlinked tree base (RelativePath.ofText name) ↔
      scanner.isReachedByLink tree (base.join (RelativePath.dirname name)) = .ok false := by
  obtain ⟨path, hreach, rfl, -⟩ := (hfollowed.mem_list isDirectory c name).1 hname
  cases path with
  | nil => exact absurd rfl hne
  | cons name parent =>
      rw [RelativePath.ofText_text, RelativePath.dirname_text_cons]
      have hplan : (planFrom (following settings true) prune base).base.IsNormal := hnormal
      refine (isReachedByLink_eq_false_iff hbase fun ancestor hsuffix hancestor => ?_).symm
      have habove := hreach.of_suffix (hsuffix.trans (List.suffix_cons name parent))
      have hanswer := ScanPlan.exists_isLink_eq_ok hplan hancestor habove (hexaminable ancestor habove)
      exact hanswer

end Describes

/-! ## Both scans -/

variable {text : String}

/-- **Following links only adds what lies behind them**, as far as it gets through: both scans have
results that satisfy `StopsAtLinks` exactly if everything `Reachable` by following links is
`Examinable`. -/
theorem outcomes_stopsAtLinks_iff (hbase : settings.basedir = some (.ofText text))
    (hcheck : checkBasedir tree settings.basedir = none) :
    (∃ stopping followed, outcome (following settings false) prune tree = .ok stopping ∧
        outcome (following settings true) prune tree = .ok followed ∧
          StopsAtLinks tree (.ofText text) stopping followed) ↔
      ∀ path, (planFrom (following settings true) prune (.ofText text)).Reachable tree path →
        (planFrom (following settings true) prune (.ofText text)).Examinable tree path := by
  have hbasedir (follow : Bool) : (following settings follow).basedir = some (.ofText text) := hbase
  have hchecked (follow : Bool) : checkBasedir tree (following settings follow).basedir = none :=
    hcheck
  have hfollowing : (∃ followed, outcome (following settings true) prune tree = .ok followed) ↔ _ :=
    exists_outcome_eq_ok_iff (hbasedir true) (hchecked true)
  constructor
  · rintro ⟨stopping, followed, -, hfollowed, -⟩
    exact hfollowing.1 ⟨followed, hfollowed⟩
  · intro h
    obtain ⟨followed, hfollowed⟩ := hfollowing.2 h
    -- whatever is reached without following links is reached with following them as well
    obtain ⟨stopping, hstopping⟩ : ∃ stopping,
        outcome (following settings false) prune tree = .ok stopping :=
      (exists_outcome_eq_ok_iff (hbasedir false) (hchecked false)).2 fun path hreach =>
        examinable_following_false (h path (reachable_following_false_iff.1 hreach).1)
    have hdescribes := describes_outcome (hbasedir true) (hchecked true) hfollowed
    have hdescribes' := describes_outcome (hbasedir false) (hchecked false) hstopping
    exact ⟨stopping, followed, hstopping, hfollowed,
      { list_eq := list_eq_filter hdescribes' hdescribes
        notFollowedLinks_eq_nil := notFollowedLinks_eq_nil_of_describes hdescribes
        mem_notFollowedLinks := mem_notFollowedLinks_iff hdescribes'
        unlinked_iff := fun _ _ _ hname hne _ hbasedir =>
          unlinked_iff_of_describes hdescribes (Path.isNormal_ofText text) h hname hne hbasedir }⟩

/-- The name of the link in `linkedTree`. -/
def linkName : Name where
  text := "l"
  isEntryName_text := by decide

/-- The name of the directory that the link of `linkedTree` leads to. -/
def targetName : Name where
  text := "e"
  isEntryName_text := by decide

/-- The entries of `linkedTree`: a directory with a link to another one, which holds a file. -/
def linkedEntries : List (Location × Entry) :=
  [([directoryName], .directory none), ([linkName, directoryName], .link "/e"),
    ([targetName], .directory none), ([NestedTree.leafName, targetName], .file "")]

theorem nodup_linkedEntries : (linkedEntries.map Prod.fst).Nodup := by decide

/-- A directory with a link, `linkName`, to another one, which holds a file. -/
def linkedTree : FileTree :=
  ⟨linkedEntries, nodup_linkedEntries⟩

/-- Settings without excludes for a scan of the directory in `linkedTree`. -/
def linkedSettings : ScanSettings where
  basedir := some (.ofText "/d")
  useDefaultExcludes := false

/-- Both scans of `linkedTree` have results, and they satisfy `StopsAtLinks`. -/
theorem outcomes_stopsAtLinks_linkedTree :
    checkBasedir linkedTree linkedSettings.basedir = none ∧
      ∃ stopping followed, outcome (following linkedSettings false) true linkedTree = .ok stopping ∧
        outcome (following linkedSettings true) true linkedTree = .ok followed ∧
          StopsAtLinks linkedTree (.ofText "/d") stopping followed := by
  have hcheck : checkBasedir linkedTree linkedSettings.basedir = none := by decide +kernel
  have hisOk : (outcome (following linkedSettings true) true linkedTree).isOk = true := by
    decide +kernel
  exact ⟨hcheck, (outcomes_stopsAtLinks_iff rfl hcheck).2
    ((exists_outcome_eq_ok_iff rfl hcheck).1 (exists_eq_ok_of_isOk hisOk))⟩

/-- Settings without excludes for a scan of `LoopedTree.wideTree`. -/
def wideSettings : ScanSettings where
  basedir := some (.ofText LoopedTree.wideName.text)
  useDefaultExcludes := false

/-- A scan of `LoopedTree.wideTree` that enters the link has no result. -/
theorem not_exists_outcome_wideTree
    (hbase : settings.basedir = some (.ofText LoopedTree.wideName.text))
    (hexcludes : settings.excludes = []) (hdefault : settings.useDefaultExcludes = false)
    (hfollow : settings.followLinks = true) (hprune : prune = false ∨ settings.includes = []) :
    ¬∃ result, outcome settings prune LoopedTree.wideTree = .ok result := by
  intro h
  have hcheck : checkBasedir LoopedTree.wideTree settings.basedir = none := by
    rw [hbase]
    exact checkBasedir_eq_none_iff.2 LoopedTree.isDirectory_wideTree
  have hplan : (planFrom settings prune (.ofText LoopedTree.wideName.text)).base =
      .ofText LoopedTree.wideName.text := rfl
  obtain ⟨path, hreach, hnot⟩ := LoopedTree.exists_not_examinable hplan fun _ =>
    ScanPlan.opens_of_isDirectory hexcludes hdefault hfollow hprune
  exact hnot ((exists_outcome_eq_ok_iff hbase hcheck).1 h path hreach)

/-- **A path that grows too long fails a scan that follows links**: on `wideTree` only the scan
under `following wideSettings false` has a result. -/
theorem not_outcomes_stopsAtLinks_wideTree :
    checkBasedir LoopedTree.wideTree wideSettings.basedir = none ∧
      (∃ stopping, outcome (following wideSettings false) true LoopedTree.wideTree = .ok stopping) ∧
        ¬∃ followed, outcome (following wideSettings true) true LoopedTree.wideTree =
          .ok followed := by
  have hcheck : checkBasedir LoopedTree.wideTree wideSettings.basedir = none :=
    checkBasedir_eq_none_iff.2 LoopedTree.isDirectory_wideTree
  have hbase (follow : Bool) : (following wideSettings follow).basedir =
      some (.ofText LoopedTree.wideName.text) := rfl
  have hplan (follow : Bool) : (planFrom (following wideSettings follow) true
      (.ofText LoopedTree.wideName.text)).base = .ofText LoopedTree.wideName.text := rfl
  have hsize := Nat.le_trans
    (NestedTree.utf8ByteSize_text_placeOf_le LoopedTree.wideName (show 1 ≤ 15 by decide))
    (Nat.le_of_eq LoopedTree.utf8ByteSize_text_placeOf_wideName)
  refine ⟨hcheck, (exists_outcome_eq_ok_iff (hbase false) hcheck).2 fun path hreach => ?_, fun h => ?_⟩
  · have hincludes : ∀ p ∈ (following wideSettings false).includes, p.kind = .ant := by decide
    have hexcludes : ∀ p ∈ (following wideSettings false).effectiveExcludes, p.kind = .ant := by
      decide
    refine (ScanPlan.examinable_iff_of_ant hincludes hexcludes).2 fun hne => ?_
    have hstops (path : RelativePath) : (planFrom (following wideSettings false) true
        (.ofText LoopedTree.wideName.text)).Opens LoopedTree.wideTree path →
          LoopedTree.wideTree.isLink ((planFrom (following wideSettings false) true
            (.ofText LoopedTree.wideName.text)).place path) ≠ .ok true := fun hopens hlink =>
      nomatch hopens.followLinks hlink
    obtain rfl := (LoopedTree.eq_of_reachesBy (hplan false) hsize hstops hreach).resolve_left hne
    rw [← List.replicate_one, NestedTree.place_replicate (hplan false)]
    exact hsize
  · exact not_exists_outcome_wideTree (hbase true) rfl rfl rfl (.inr rfl) h

end Scanner

end TreeSift
