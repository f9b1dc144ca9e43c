import TreeSift.Proofs.Scan.Selection
import TreeSift.Proofs.Scan.Survey

/-! # What a scan reaches

An entry is reachable if every directory on the way to it can be listed and, below the base
directory, is open (`ScanPlan.Reachable`). A survey visits the reachable entries, each once, if all
of them can be examined (`mem_descendants_iff`, `nodup_descendants`), and if one of them cannot, it
ends without a result (`exists_survey_eq_ok_iff`). -/

namespace TreeSift

namespace ScanPlan

/-- **An open directory**: one that a scan enters when it comes to it. It is a directory, not a link
that is not followed, not `Excludes`, and could hold something included. -/
structure Opens (plan : ScanPlan) (tree : FileTree) (path : RelativePath) : Prop where
  /-- A directory is there, behind links. -/
  isDirectory : tree.isDirectory (plan.place path) = .ok true
  /-- It is not excluded. -/
  not_excludes : ¬plan.settings.Excludes (RelativePath.text path)
  /-- If it is a link, links are followed. -/
  followLinks : tree.isLink (plan.place path) = .ok true → plan.settings.followLinks = true
  /-- It is not left out for what its include patterns start with. -/
  could_hold : plan.prune = false ∨ plan.settings.includes = [] ∨
    ∃ p ∈ plan.settings.includes, p.matchesStart plan.settings.mode (RelativePath.text path) = true

/-- The directory at `parent` can be listed and has an entry named `name`. -/
def Lists (plan : ScanPlan) (tree : FileTree) (parent : RelativePath) (name : Name) : Prop :=
  ∃ names, tree.list (plan.place parent) = .ok names ∧ name ∈ names

/-- A way to an entry through listed directories, which satisfy `opens` below the base directory. -/
structure ReachesBy (plan : ScanPlan) (tree : FileTree) (opens : RelativePath → Prop)
    (path : RelativePath) : Prop where
  /-- Every directory on the way lists the next entry. -/
  lists : ∀ name parent, name :: parent <:+ path → plan.Lists tree parent name
  /-- Every directory on the way but the base directory satisfies the condition. -/
  opens : ∀ name parent, name :: parent <:+ path → parent ≠ [] → opens parent

/-- **A reachable entry**: every directory above it can be listed, and `Opens` or is the base
directory. -/
def Reachable (plan : ScanPlan) (tree : FileTree) (path : RelativePath) : Prop :=
  plan.ReachesBy tree (plan.Opens tree) path

variable {plan : ScanPlan} {tree : FileTree} {opens opens' : RelativePath → Prop}

/-! ## Ways to entries -/

/-- The base directory, `[]`, is always reached. -/
theorem reachesBy_nil : plan.ReachesBy tree opens [] where
  lists name parent h := by simp at h
  opens name parent h := by simp at h

/-- An entry is reached through its directory, which `Lists` it and satisfies `opens` unless it is
the base directory. -/
theorem reachesBy_cons {name : Name} {parent : RelativePath} :
    plan.ReachesBy tree opens (name :: parent) ↔
      plan.ReachesBy tree opens parent ∧ plan.Lists tree parent name ∧
        (parent ≠ [] → opens parent) := by
  constructor
  · intro h
    have hself := List.suffix_refl (name :: parent)
    refine ⟨⟨fun n p hp => ?_, fun n p hp => ?_⟩, h.lists name parent hself,
      h.opens name parent hself⟩
    · exact h.lists n p (hp.trans (List.suffix_cons name parent))
    · exact h.opens n p (hp.trans (List.suffix_cons name parent))
  · rintro ⟨hparent, hlists, hopens⟩
    refine ⟨fun n p hp => ?_, fun n p hp => ?_⟩
    · rcases List.suffix_cons_iff.1 hp with hp | hp
      · cases hp
        exact hlists
      · exact hparent.lists n p hp
    · rcases List.suffix_cons_iff.1 hp with hp | hp
      · cases hp
        exact hopens
      · exact hparent.opens n p hp

/-- What lies on the way to an entry is reached too: every `ancestor <:+ path`. -/
theorem ReachesBy.of_suffix {path ancestor : RelativePath} (h : plan.ReachesBy tree opens path)
    (hsuffix : ancestor <:+ path) : plan.ReachesBy tree opens ancestor where
  lists name parent hp := h.lists name parent (hp.trans hsuffix)
  opens name parent hp := h.opens name parent (hp.trans hsuffix)

/-- If `opens` implies `opens'` wherever one gets by both, what is reached by `opens` is reached by
`opens'`. -/
theorem ReachesBy.mono {path : RelativePath} (h : plan.ReachesBy tree opens path)
    (hopens : ∀ path, path ≠ [] → plan.ReachesBy tree opens path →
      plan.ReachesBy tree opens' path → opens path → opens' path) :
    plan.ReachesBy tree opens' path := by
  induction path with
  | nil => exact reachesBy_nil
  | cons name parent ih =>
      -- both conditions lead to the directory above, by induction
      obtain ⟨hparent, hlists, hopen⟩ := reachesBy_cons.1 h
      exact reachesBy_cons.2
        ⟨ih hparent, hlists, fun hne => hopens parent hne hparent (ih hparent) (hopen hne)⟩

/-- An entry is `Reachable` through its directory, which `Opens` unless it is the base directory. -/
theorem reachable_cons {name : Name} {parent : RelativePath} :
    plan.Reachable tree (name :: parent) ↔
      plan.Reachable tree parent ∧ plan.Lists tree parent name ∧
        (parent ≠ [] → plan.Opens tree parent) :=
  reachesBy_cons

/-- **A plan that opens less** reaches what another one does and to which the way is clear: no
directory above it satisfies `blocks`. -/
theorem reachable_iff_clear {other : ScanPlan} {blocks : RelativePath → Prop}
    (hbase : other.base = plan.base)
    (hopens : ∀ path, other.Opens tree path ↔ plan.Opens tree path ∧ ¬blocks path)
    {path : RelativePath} :
    other.Reachable tree path ↔ plan.Reachable tree path ∧ RelativePath.Clear blocks path := by
  have hlists (parent : RelativePath) (name : Name) :
      other.Lists tree parent name ↔ plan.Lists tree parent name := by
    rw [Lists, Lists, place, place, hbase]
  induction path with
  | nil =>
      exact iff_of_true reachesBy_nil ⟨reachesBy_nil, RelativePath.clear_nil⟩
  | cons name parent ih =>
      -- the directory has to be open to both, and the way to it is clear by induction
      rw [reachable_cons, reachable_cons, RelativePath.clear_cons, hlists, hopens]
      constructor
      · rintro ⟨hparent, hname, hopen⟩
        obtain ⟨hreach, hclear⟩ := ih.1 hparent
        exact ⟨⟨hreach, hname, fun hne => (hopen hne).1⟩, hclear, fun hne => (hopen hne).2⟩
      · rintro ⟨⟨hreach, hname, hopen⟩, hclear, hblocks⟩
        exact ⟨ih.2 ⟨hreach, hclear⟩, hname, fun hne => ⟨hopen hne, hblocks hne⟩⟩

/-- The entries of a directory are those that it `Lists`. -/
theorem mem_entriesOf {path child : RelativePath} :
    child ∈ plan.entriesOf tree path ↔ ∃ name, child = name :: path ∧ plan.Lists tree path name := by
  rw [entriesOf]
  cases hlist : tree.list (plan.place path) with
  | error error => simp [Lists, hlist]
  | ok names =>
      simp only [List.mem_map, Lists, hlist, Except.ok.injEq]
      constructor
      · rintro ⟨name, hname, rfl⟩
        exact ⟨name, rfl, names, rfl, hname⟩
      · rintro ⟨name, rfl, _, rfl, hname⟩
        exact ⟨name, hname, rfl⟩

/-! ## Descendants are reached -/

/-- What `descendants` has below a directory that is entered, is reached through what `entersAt`
holds of. -/
theorem reachesBy_of_mem_descendants {depth : Nat} {start path : RelativePath}
    (hstart : plan.ReachesBy tree (plan.entersAt tree · = true) start)
    (henters : start ≠ [] → plan.entersAt tree start = true)
    (hpath : path ∈ plan.descendants tree depth start) :
    path ≠ [] ∧ plan.ReachesBy tree (plan.entersAt tree · = true) path := by
  induction depth generalizing start with
  | zero => simp [descendants] at hpath
  | succ depth ih =>
      rw [descendants, List.mem_flatMap] at hpath
      obtain ⟨child, hchild, hpath⟩ := hpath
      obtain ⟨name, rfl, hlists⟩ := mem_entriesOf.1 hchild
      have hreach := reachesBy_cons.2 ⟨hstart, hlists, henters⟩
      rcases List.mem_cons.1 hpath with rfl | hpath
      · exact ⟨List.cons_ne_nil name start, hreach⟩
      · by_cases hentered : plan.entersAt tree (name :: start) = true
        · rw [if_pos hentered] at hpath
          exact ih hreach (fun _ => hentered) hpath
        · rw [if_neg hentered] at hpath
          simp at hpath

/-- What can be reached below a directory is among its `descendants` if the depth suffices. -/
theorem mem_descendants_of_reachesBy {depth : Nat} {start inner : RelativePath}
    (hreach : plan.ReachesBy tree (plan.entersAt tree · = true) (inner ++ start))
    (hne : inner ≠ []) (hdepth : inner.length ≤ depth) :
    inner ++ start ∈ plan.descendants tree depth start := by
  induction depth generalizing start inner with
  | zero =>
      have hlength := List.length_pos_iff.2 hne
      omega
  | succ depth ih =>
      -- the outermost name is visited first, and the others below it
      obtain ⟨deeper, outer, rfl⟩ : ∃ deeper outer, inner = deeper ++ [outer] :=
        ⟨inner.dropLast, inner.getLast hne, (List.dropLast_concat_getLast hne).symm⟩
      rw [List.append_assoc, List.singleton_append] at hreach ⊢
      have hlists := hreach.lists outer start (List.suffix_append ..)
      rw [descendants, List.mem_flatMap]
      refine ⟨outer :: start, mem_entriesOf.2 ⟨outer, rfl, hlists⟩, ?_⟩
      by_cases hdeeper : deeper = []
      · rw [hdeeper]
        exact List.mem_cons_self
      · have hentered : plan.entersAt tree (outer :: start) = true := by
          obtain ⟨front, name, rfl⟩ : ∃ front name, deeper = front ++ [name] :=
            ⟨deeper.dropLast, deeper.getLast hdeeper, (List.dropLast_concat_getLast hdeeper).symm⟩
          rw [List.append_assoc, List.singleton_append] at hreach
          exact hreach.opens name (outer :: start) (List.suffix_append ..)
            (List.cons_ne_nil outer start)
        rw [if_pos hentered]
        refine List.mem_cons_of_mem _ (ih hreach hdeeper ?_)
        simp only [List.length_append, List.length_singleton] at hdepth
        omega

/-- **A survey visits what it reaches** through the directories that `entersAt` holds of:
`walkBudget` is depth enough. -/
theorem mem_descendants_iff {path : RelativePath} :
    path ∈ plan.descendants tree Walk.walkBudget [] ↔
      path ≠ [] ∧ plan.ReachesBy tree (plan.entersAt tree · = true) path := by
  constructor
  · exact reachesBy_of_mem_descendants reachesBy_nil (fun h => absurd rfl h)
  · rintro ⟨hne, hreach⟩
    cases path with
    | nil => exact absurd rfl hne
    | cons name parent =>
        obtain ⟨-, ⟨names, hlist, -⟩, -⟩ := reachesBy_cons.1 hreach
        -- its directory can be listed, so it is not too deep
        have hdepth := length_lt_walkBudget (FileTree.isDirectory_of_list hlist)
        rw [← List.append_nil (name :: parent)] at hreach ⊢
        exact mem_descendants_of_reachesBy hreach hne (Nat.succ_le_of_lt hdepth)

/-! ## Examining an entry -/

/-- The exclude patterns are asked about an entry: if it is included, or to find out whether it
`Opens`. -/
def AsksExcludes (plan : ScanPlan) (tree : FileTree) (path : RelativePath) : Prop :=
  plan.settings.Includes (RelativePath.text path) ∨
    path ≠ [] ∧ tree.isDirectory (plan.place path) = .ok true ∧
      (tree.isLink (plan.place path) = .ok true → plan.settings.followLinks = true)

/-- **An entry that can be examined**: the text of its path has at most `maxPathBytes`, and the
patterns that are asked about it answer. -/
structure Examinable (plan : ScanPlan) (tree : FileTree) (path : RelativePath) : Prop where
  /-- The text of the path is not too long; that of the base directory is not in question. -/
  size_le : path ≠ [] → (plan.place path).text.utf8ByteSize ≤ maxPathBytes
  /-- The include patterns answer. -/
  isIncluded_eq_ok : ∃ answer, plan.settings.isIncluded (RelativePath.text path) = .ok answer
  /-- The exclude patterns answer if they are asked. -/
  isExcluded_eq_ok : plan.AsksExcludes tree path →
    ∃ answer, plan.settings.isExcluded (RelativePath.text path) = .ok answer

variable {path : RelativePath} {isLink : Bool} {c : Classification}

/-- Where all patterns are globs, an entry is `Examinable` exactly if the text of its path is not
too long. -/
theorem examinable_iff_of_ant (hincludes : ∀ p ∈ plan.settings.includes, p.kind = .ant)
    (hexcludes : ∀ p ∈ plan.settings.effectiveExcludes, p.kind = .ant) :
    plan.Examinable tree path ↔
      (path ≠ [] → (plan.place path).text.utf8ByteSize ≤ maxPathBytes) := by
  refine ⟨fun h => h.size_le, fun hsize => ⟨hsize, ?_, fun _ => ?_⟩⟩
  · rw [ScanSettings.isIncluded]
    split
    · exact ⟨true, rfl⟩
    · exact PatternList.exists_matchesPath_eq_ok hincludes ..
  · exact PatternList.exists_matchesPath_eq_ok hexcludes ..

/-- What `enters` says of a directory is found out exactly if the exclude patterns answer, unless it
is a link that is not followed. -/
theorem exists_enters_eq_ok_iff (hclass : plan.settings.classify (RelativePath.text path) = .ok c) :
    (∃ entered, Walk.enters plan path isLink c = .ok entered) ↔
      ((isLink = true → plan.settings.followLinks = true) →
        ∃ answer, plan.settings.isExcluded (RelativePath.text path) = .ok answer) := by
  -- the excludes have been asked before, unless the path is not included
  have hasked (hc : c ≠ .notIncluded) :
      ∃ answer, plan.settings.isExcluded (RelativePath.text path) = .ok answer :=
    (ScanSettings.exists_classify_eq_ok_iff.1 ⟨c, hclass⟩).2
      ((ScanSettings.includes_iff_of_classify hclass).2 hc)
  rw [Walk.enters]
  by_cases hskip : (isLink && !plan.settings.followLinks) = true
  · have hnot : ¬(isLink = true → plan.settings.followLinks = true) := by simpa using hskip
    rw [if_pos hskip]
    exact ⟨fun _ h => absurd h hnot, fun _ => ⟨false, rfl⟩⟩
  · have hfollow : isLink = true → plan.settings.followLinks = true := by simpa using hskip
    rw [if_neg hskip]
    cases c with
    | included => exact ⟨fun _ _ => hasked (by simp), fun _ => ⟨_, rfl⟩⟩
    | excluded => exact ⟨fun _ _ => hasked (by simp), fun _ => ⟨_, rfl⟩⟩
    | notIncluded =>
        cases plan.settings.isExcluded (RelativePath.text path) with
        | error error => simpa [bind, Except.bind] using hfollow
        | ok answer => exact ⟨fun _ _ => ⟨answer, rfl⟩, fun _ => ⟨_, rfl⟩⟩

/-- A directory with the class `c` is entered unless it is a link that is not followed, or
`Excludes` holds of it, or it is left out by pruning. -/
theorem enters_eq_ok (hclass : plan.settings.classify (RelativePath.text path) = .ok c)
    {entered : Bool} (h : Walk.enters plan path isLink c = .ok entered) :
    entered = true ↔ (isLink = true → plan.settings.followLinks = true) ∧
      ¬plan.settings.Excludes (RelativePath.text path) ∧
        plan.settings.couldHoldIncluded plan.prune (RelativePath.text path) = true := by
  rw [Walk.enters] at h
  by_cases hskip : (isLink && !plan.settings.followLinks) = true
  · have hnot : ¬(isLink = true → plan.settings.followLinks = true) := by simpa using hskip
    rw [if_pos hskip] at h
    cases h
    exact ⟨fun hentered => (nomatch hentered), fun h => absurd h.1 hnot⟩
  · have hfollow : isLink = true → plan.settings.followLinks = true := by simpa using hskip
    rw [if_neg hskip] at h
    rw [and_iff_right hfollow]
    -- excludes are only asked again about what is not included
    cases c with
    | included =>
        have hexcludes := ScanSettings.excludes_iff_of_classify hclass (by simp)
        cases h
        simp [hexcludes]
    | excluded =>
        have hexcludes := ScanSettings.excludes_iff_of_classify hclass (by simp)
        cases h
        simp [hexcludes]
    | notIncluded =>
        cases hexcluded : plan.settings.isExcluded (RelativePath.text path) with
        | error error => simp [hexcluded, bind, Except.bind] at h
        | ok excluded =>
            simp only [hexcluded, bind, Except.bind, pure, Except.pure, Except.ok.injEq] at h
            rw [← h, ScanSettings.excludes_iff hexcluded]
            simp

/-! ## What is noted about an entry -/

/-- A directory is known to be at an entry: `isDirectory` says yes. -/
def directoryAt (plan : ScanPlan) (tree : FileTree) (path : RelativePath) : Bool :=
  match tree.isDirectory (plan.place path) with
  | .ok answer => answer
  | .error _ => false

/-- A link is known to be at an entry: `isLink` says yes. -/
def linkAt (plan : ScanPlan) (tree : FileTree) (path : RelativePath) : Bool :=
  match tree.isLink (plan.place path) with
  | .ok answer => answer
  | .error _ => false

/-- The class of an entry as `classify` finds it. -/
def classAt (plan : ScanPlan) (path : RelativePath) : Classification :=
  match plan.settings.classify (RelativePath.text path) with
  | .ok classification => classification
  | .error _ => .notIncluded

/-- The record of an entry: its name, its kind and `classAt` it. -/
def recordAt (plan : ScanPlan) (tree : FileTree) (path : RelativePath) : ScanRecord :=
  ⟨plan.directoryAt tree path, RelativePath.text path, plan.classAt path⟩

/-- An entry is a directory behind a link, and links are not followed. -/
def skipsLink (plan : ScanPlan) (tree : FileTree) (path : RelativePath) : Bool :=
  plan.directoryAt tree path && plan.linkAt tree path && !plan.settings.followLinks

@[simp] theorem directoryAt_eq_true :
    plan.directoryAt tree path = true ↔ tree.isDirectory (plan.place path) = .ok true := by
  rw [directoryAt]
  cases tree.isDirectory (plan.place path) <;> simp

@[simp] theorem linkAt_eq_true :
    plan.linkAt tree path = true ↔ tree.isLink (plan.place path) = .ok true := by
  rw [linkAt]
  cases tree.isLink (plan.place path) <;> simp

theorem classAt_eq (hclass : plan.settings.classify (RelativePath.text path) = .ok c) :
    plan.classAt path = c := by
  rw [classAt, hclass]

/-- What `inspect` says is what `directoryAt` and `linkAt` know. -/
theorem inspect_eq_ok {info : EntryInfo} (h : tree.inspect (plan.place path) = .ok info) :
    info.isDirectory = plan.directoryAt tree path ∧ info.isLink = plan.linkAt tree path := by
  constructor
  · rw [Bool.eq_iff_iff, isDirectory_inspect h, directoryAt_eq_true]
  · rw [linkAt, isLink_inspect h]

/-- **What `look` notes about an entry** is `recordAt` it, and that it is a link that is not
followed; a directory is entered if it is open. -/
theorem look_eq_ok {noted : Tally} {entered : Bool} (h : plan.look tree path = .ok (noted, entered)) :
    noted = { records := [plan.recordAt tree path],
              notFollowed := if plan.skipsLink tree path then [RelativePath.text path] else [] } ∧
      (entered = true ↔ plan.Opens tree path) := by
  rw [look] at h
  cases hinfo : tree.inspect (plan.place path) with
  | error error => simp [hinfo] at h
  | ok info =>
      obtain ⟨hdirectory, hlink⟩ := inspect_eq_ok hinfo
      cases hclass : plan.settings.classify (RelativePath.text path) with
      | error error => simp [hinfo, hclass] at h
      | ok c =>
          rw [recordAt, skipsLink, ← hdirectory, ← hlink, classAt_eq hclass]
          -- only directories are asked whether they are entered
          by_cases hisDirectory : info.isDirectory = true
          · cases henters : Walk.enters plan path info.isLink c with
            | error error => simp [hinfo, hclass, hisDirectory, henters] at h
            | ok answer =>
                simp only [hinfo, hclass, hisDirectory, henters, if_true, Except.ok.injEq,
                  Prod.mk.injEq] at h
                obtain ⟨rfl, rfl⟩ := h
                have hthere : tree.isDirectory (plan.place path) = .ok true :=
                  (isDirectory_inspect hinfo).1 hisDirectory
                refine ⟨by simp [hisDirectory], (enters_eq_ok hclass henters).trans ?_⟩
                rw [ScanSettings.couldHoldIncluded_iff]
                constructor
                · rintro ⟨hfollow, hexcludes, hcould⟩
                  exact ⟨hthere, hexcludes, fun h => hfollow (by rwa [hlink, linkAt_eq_true]), hcould⟩
                · intro hopens
                  refine ⟨fun h => hopens.followLinks ?_, hopens.not_excludes, hopens.could_hold⟩
                  rwa [hlink, linkAt_eq_true] at h
          · simp only [hinfo, hclass, hisDirectory, if_false, Bool.false_eq_true, Except.ok.injEq,
              Prod.mk.injEq] at h
            obtain ⟨rfl, rfl⟩ := h
            refine ⟨by simp [hisDirectory], fun h => absurd h Bool.false_ne_true, fun hopens => ?_⟩
            exact absurd ((isDirectory_inspect hinfo).2 hopens.isDirectory) hisDirectory

/-- Only what can be examined is looked at with success: `inspect`, `classify` and the exclude
patterns that are asked all answer. -/
theorem exists_look_eq_ok_iff :
    (∃ looked, plan.look tree path = .ok looked) ↔
      (∃ info, tree.inspect (plan.place path) = .ok info) ∧
        (∃ c, plan.settings.classify (RelativePath.text path) = .ok c) ∧
          (tree.isDirectory (plan.place path) = .ok true →
            (tree.isLink (plan.place path) = .ok true → plan.settings.followLinks = true) →
              ∃ answer, plan.settings.isExcluded (RelativePath.text path) = .ok answer) := by
  rw [look]
  cases hinfo : tree.inspect (plan.place path) with
  | error error => simp
  | ok info =>
      obtain ⟨hdirectory, hlink⟩ := inspect_eq_ok hinfo
      rw [← directoryAt_eq_true, ← linkAt_eq_true, ← hdirectory, ← hlink]
      cases hclass : plan.settings.classify (RelativePath.text path) with
      | error error => simp
      | ok c =>
          rw [← exists_enters_eq_ok_iff hclass]
          by_cases hisDirectory : info.isDirectory = true
          · cases henters : Walk.enters plan path info.isLink c <;> simp [hisDirectory, henters]
          · simp [hisDirectory]

/-- Places below a base directory in normal form are in normal form: `below` adds names only. -/
theorem isNormal_below {base : Path} (hbase : base.IsNormal) (path : RelativePath) :
    (RelativePath.below base path).IsNormal := by
  induction path with
  | nil => exact hbase
  | cons name parent ih => exact ih.child name

/-- **Looking at what is reached succeeds exactly if it can be examined**: `look` has an answer for
what is `Examinable`. -/
theorem exists_look_eq_ok_iff_examinable (hbase : plan.base.IsNormal) (hne : path ≠ [])
    (hreach : plan.ReachesBy tree opens path) :
    (∃ looked, plan.look tree path = .ok looked) ↔ plan.Examinable tree path := by
  obtain ⟨name, parent, rfl⟩ := List.exists_cons_of_ne_nil hne
  obtain ⟨-, ⟨names, hlist, hname⟩, -⟩ := reachesBy_cons.1 hreach
  have hnormal : (plan.place parent).IsNormal := isNormal_below hbase parent
  have hinspect : (∃ info, tree.inspect (plan.place (name :: parent)) = .ok info) ↔
      (plan.place (name :: parent)).text.utf8ByteSize ≤ maxPathBytes :=
    FileTree.inspect_isOk_iff hnormal hlist hname
  rw [exists_look_eq_ok_iff, hinspect, ScanSettings.exists_classify_eq_ok_iff]
  constructor
  · rintro ⟨hsize, ⟨hincluded, hexcluded⟩, hopen⟩
    refine ⟨fun _ => hsize, hincluded, fun hasks => ?_⟩
    rcases hasks with hincludes | ⟨-, hdirectory, hfollow⟩
    · exact hexcluded hincludes
    · exact hopen hdirectory hfollow
  · intro h
    exact ⟨h.size_le hne, ⟨h.isIncluded_eq_ok, fun hincludes => h.isExcluded_eq_ok (.inl hincludes)⟩,
      fun hdirectory hfollow => h.isExcluded_eq_ok (.inr ⟨hne, hdirectory, hfollow⟩)⟩

/-- Whether something `Examinable` is a link can be found out. -/
theorem exists_isLink_eq_ok (hbase : plan.base.IsNormal) (hne : path ≠ [])
    (hreach : plan.ReachesBy tree opens path) (h : plan.Examinable tree path) :
    ∃ answer, tree.isLink (plan.place path) = .ok answer := by
  obtain ⟨⟨info, hinfo⟩, -⟩ := exists_look_eq_ok_iff.1
    ((exists_look_eq_ok_iff_examinable hbase hne hreach).2 h)
  exact ⟨info.isLink, isLink_inspect hinfo⟩

/-- The class of the base directory is found exactly if it is `Examinable`. -/
theorem exists_classify_eq_ok_iff_examinable :
    (∃ c, plan.settings.classify "" = .ok c) ↔ plan.Examinable tree [] := by
  rw [ScanSettings.exists_classify_eq_ok_iff]
  constructor
  · rintro ⟨hincluded, hexcluded⟩
    refine ⟨fun h => absurd rfl h, hincluded, fun hasks => ?_⟩
    rcases hasks with hincludes | ⟨hne, -⟩
    · exact hexcluded hincludes
    · exact absurd rfl hne
  · exact fun h => ⟨h.isIncluded_eq_ok, fun hincludes => h.isExcluded_eq_ok (.inl hincludes)⟩

/-- What can be looked at is entered exactly if it `Opens`. -/
theorem entersAt_iff_opens (h : ∃ looked, plan.look tree path = .ok looked) :
    plan.entersAt tree path = true ↔ plan.Opens tree path := by
  obtain ⟨⟨noted, entered⟩, hlook⟩ := h
  have hentered : plan.entersAt tree path = entered := by simp only [entersAt, hlook]
  rw [hentered]
  exact (look_eq_ok hlook).2

/-! ## What is noted about entries -/

/-- What an entry adds to the tally: `recordAt`, the link if `skipsLink`, and the warnings of its
listing. -/
theorem examine_eq_of_look (h : ∃ looked, plan.look tree path = .ok looked) :
    plan.examine tree path = .ok
      { records := [plan.recordAt tree path],
        notFollowed := if plan.skipsLink tree path then [RelativePath.text path] else [],
        warnings := if plan.entersAt tree path then plan.listingWarnings tree path else [] } := by
  obtain ⟨⟨noted, entered⟩, hlook⟩ := h
  obtain ⟨rfl, -⟩ := look_eq_ok hlook
  have hentered : plan.entersAt tree path = entered := by simp only [entersAt, hlook]
  rw [examine, hlook, hentered]
  show Except.ok (_ ++ _) = _
  rw [Tally.append_warnings]
  rfl

/-- A directory is entered: by `entersAt`, and the base directory in any case. -/
def entersFrom (plan : ScanPlan) (tree : FileTree) (path : RelativePath) : Bool :=
  path.isEmpty || plan.entersAt tree path

/-- **What is noted** about `paths`: `recordAt` each, the links that are not followed, and a warning
for each directory that is entered in vain. -/
def tallyOf (plan : ScanPlan) (tree : FileTree) (paths : List RelativePath) : Tally where
  records := paths.map (plan.recordAt tree)
  notFollowed :=
    (paths.filter fun path => !path.isEmpty && plan.skipsLink tree path).map RelativePath.text
  warnings := (paths.filter (plan.entersFrom tree)).flatMap (plan.listingWarnings tree)

/-- What is noted about entries, and then about later ones: `tallyOf` is a homomorphism. -/
theorem tallyOf_append (paths later : List RelativePath) :
    plan.tallyOf tree (paths ++ later) = plan.tallyOf tree paths ++ plan.tallyOf tree later := by
  simp only [tallyOf, Tally.mk_append_mk, List.map_append, List.filter_append, List.flatMap_append]

/-- What is noted about the base directory: its record, and a warning if it cannot be listed. -/
theorem tallyOf_nil_singleton (hdirectory : tree.isDirectory (plan.place []) = .ok true)
    (hclass : plan.settings.classify "" = .ok c) :
    plan.tallyOf tree [[]] =
      { records := [⟨true, "", c⟩], warnings := plan.listingWarnings tree [] } := by
  have hrecord : plan.recordAt tree [] = ⟨true, "", c⟩ := by
    rw [recordAt, directoryAt_eq_true.2 hdirectory, classAt, RelativePath.text, hclass]
  simp [tallyOf, entersFrom, hrecord]

/-- An entry that can be looked at adds `tallyOf` its path. -/
theorem examine_eq_tallyOf (hne : path ≠ []) (h : ∃ looked, plan.look tree path = .ok looked) :
    plan.examine tree path = .ok (plan.tallyOf tree [path]) := by
  obtain ⟨name, parent, rfl⟩ := List.exists_cons_of_ne_nil hne
  rw [examine_eq_of_look h]
  by_cases hskip : plan.skipsLink tree (name :: parent) = true <;>
    by_cases henters : plan.entersAt tree (name :: parent) = true <;>
      simp [tallyOf, entersFrom, hskip, henters]

/-- The warning about an entry comes after what `look` notes about it. -/
theorem tallyOf_singleton (hne : path ≠ []) {noted : Tally} {entered : Bool}
    (hlook : plan.look tree path = .ok (noted, entered)) :
    plan.tallyOf tree [path] =
      noted ++ { warnings := if entered then plan.listingWarnings tree path else [] } := by
  have hexamine := examine_eq_tallyOf hne ⟨_, hlook⟩
  rw [examine, hlook] at hexamine
  exact (Except.ok.inj hexamine).symm

/-- Entries are collected exactly if `look` has an answer for each of them. -/
theorem exists_collect_eq_ok_iff {paths : List RelativePath} :
    (∃ tally, plan.collect tree paths = .ok tally) ↔
      ∀ path ∈ paths, ∃ looked, plan.look tree path = .ok looked := by
  induction paths with
  | nil => simp [collect]
  | cons path paths ih =>
      rw [List.forall_mem_cons, ← ih, collect]
      cases hlook : plan.look tree path with
      | error halt => simp [examine, hlook, bind, Except.bind]
      | ok looked =>
          rw [examine_eq_of_look ⟨looked, hlook⟩]
          cases plan.collect tree paths with
          | error halt => simp [bind, Except.bind]
          | ok tally => simp [bind, Except.bind, pure, Except.pure]

/-- **What is collected** is `tallyOf` the entries. -/
theorem collect_eq_ok {paths : List RelativePath} (hne : [] ∉ paths) {tally : Tally}
    (h : plan.collect tree paths = .ok tally) : tally = plan.tallyOf tree paths := by
  have hlooks := exists_collect_eq_ok_iff.1 ⟨tally, h⟩
  induction paths generalizing tally with
  | nil =>
      cases h
      rfl
  | cons path paths ih =>
      obtain ⟨hlook, hothers⟩ := List.forall_mem_cons.1 hlooks
      obtain ⟨hpath, hpaths⟩ := not_or.1 (mt List.mem_cons.2 hne)
      obtain ⟨others, hcollect⟩ := exists_collect_eq_ok_iff.2 hothers
      rw [collect, examine_eq_tallyOf (Ne.symm hpath) hlook, hcollect] at h
      obtain rfl := ih hpaths hcollect hothers
      cases h
      exact (tallyOf_append [path] paths).symm

/-! ## What a survey finds -/

/-- The entries below the base directory that a survey visits: its `descendants`, with `walkBudget`
as the depth. -/
def visited (plan : ScanPlan) (tree : FileTree) : List RelativePath :=
  plan.descendants tree Walk.walkBudget []

/-- If what is `visited` can be looked at, it is what is `Reachable`, the base directory aside. -/
theorem mem_visited_iff (hlooks : ∀ path ∈ plan.visited tree, ∃ looked, plan.look tree path = .ok looked) :
    path ∈ plan.visited tree ↔ path ≠ [] ∧ plan.Reachable tree path := by
  rw [visited, mem_descendants_iff]
  -- entered and open are the same wherever one gets by either of them
  refine and_congr_right fun _ => ⟨fun h => ?_, fun h => ?_⟩
  · exact h.mono fun path hne hreach _ =>
      (entersAt_iff_opens (hlooks path (mem_descendants_iff.2 ⟨hne, hreach⟩))).1
  · exact h.mono fun path hne _ hreach =>
      (entersAt_iff_opens (hlooks path (mem_descendants_iff.2 ⟨hne, hreach⟩))).2

/-- What is `visited` can be looked at exactly if what is `Reachable` is `Examinable`. -/
theorem forall_look_iff_examinable (hbase : plan.base.IsNormal) :
    (∀ path ∈ plan.visited tree, ∃ looked, plan.look tree path = .ok looked) ↔
      ∀ path, path ≠ [] → plan.Reachable tree path → plan.Examinable tree path := by
  constructor
  · intro hlooks path hne hreach
    exact (exists_look_eq_ok_iff_examinable hbase hne hreach).1
      (hlooks path ((mem_visited_iff hlooks).2 ⟨hne, hreach⟩))
  · intro hexaminable path hpath
    obtain ⟨hne, hreach⟩ := mem_descendants_iff.1 hpath
    have hlook {path : RelativePath} (hne : path ≠ []) (h : plan.Reachable tree path) :=
      (exists_look_eq_ok_iff_examinable hbase hne h).2 (hexaminable path hne h)
    have hreachable : plan.Reachable tree path := hreach.mono fun path hne _ h =>
      (entersAt_iff_opens (hlook hne h)).1
    exact hlook hne hreachable

/-- What is visited at and below an entry has its path as a suffix: `child <:+ path`. -/
theorem suffix_of_mem_visits {depth : Nat} {child : RelativePath}
    (h : path ∈
      child :: if plan.entersAt tree child then plan.descendants tree depth child else []) :
    child <:+ path := by
  induction depth generalizing child with
  | zero =>
      have hself : path = child := by simpa [descendants] using h
      exact hself ▸ List.suffix_refl _
  | succ depth ih =>
      rcases List.mem_cons.1 h with rfl | hbelow
      · exact List.suffix_refl _
      · by_cases hentered : plan.entersAt tree child = true
        · rw [if_pos hentered, descendants, List.mem_flatMap] at hbelow
          obtain ⟨inner, hinner, hpath⟩ := hbelow
          obtain ⟨name, rfl, -⟩ := mem_entriesOf.1 hinner
          exact (List.suffix_cons name child).trans (ih hpath)
        · rw [if_neg hentered] at hbelow
          simp at hbelow

/-- A directory is not among its own `descendants`. -/
theorem not_mem_descendants_self (depth : Nat) (start : RelativePath) :
    start ∉ plan.descendants tree depth start := by
  intro h
  cases depth with
  | zero => simp [descendants] at h
  | succ depth =>
      rw [descendants, List.mem_flatMap] at h
      obtain ⟨child, hchild, hpath⟩ := h
      obtain ⟨name, rfl, -⟩ := mem_entriesOf.1 hchild
      exact Nat.not_succ_le_self _ (suffix_of_mem_visits hpath).length_le

/-- A directory has its entries in the order of the `text` of their names. -/
theorem ascending_entriesOf (start : RelativePath) :
    (plan.entriesOf tree start).Pairwise fun child other =>
      ∃ name name', child = name :: start ∧ other = name' :: start ∧ name.text < name'.text := by
  rw [entriesOf]
  cases hlist : tree.list (plan.place start) with
  | error error => exact List.Pairwise.nil
  | ok names =>
      have hnames := FileTree.ascending_of_list hlist
      exact List.pairwise_map.2 (hnames.imp fun hlt => ⟨_, _, rfl, rfl, hlt⟩)

/-- **Entries are visited in order**: `descendants` are pairwise in the relation `Precedes`. -/
theorem precedes_descendants (depth : Nat) (start : RelativePath) :
    (plan.descendants tree depth start).Pairwise RelativePath.Precedes := by
  induction depth generalizing start with
  | zero => exact List.Pairwise.nil
  | succ depth ih =>
      rw [descendants]
      refine List.pairwise_flatMap.2 ⟨fun child hchild => ?_, ?_⟩
      · by_cases hentered : plan.entersAt tree child = true
        · rw [if_pos hentered]
          refine List.pairwise_cons.2 ⟨fun path hpath => ?_, ih child⟩
          have hvisits : path ∈ child ::
              if plan.entersAt tree child then plan.descendants tree depth child else [] := by
            rw [if_pos hentered]
            exact List.mem_cons_of_mem _ hpath
          refine RelativePath.precedes_of_suffix (suffix_of_mem_visits hvisits) ?_
          rintro rfl
          exact not_mem_descendants_self depth _ hpath
        · rw [if_neg hentered]
          exact List.pairwise_singleton ..
      · -- all below one entry comes before all below a later one
        refine (ascending_entriesOf start).imp ?_
        rintro _ _ ⟨name, name', rfl, rfl, hlt⟩ path hpath other hother
        exact RelativePath.precedes_of_text_lt hlt (suffix_of_mem_visits hpath)
          (suffix_of_mem_visits hother)

/-- A survey succeeds exactly if the class of the base directory is found and `look` has an answer
for all that is `visited`. -/
theorem exists_survey_eq_ok_iff :
    (∃ tally, plan.survey tree = .ok tally) ↔
      (∃ c, plan.settings.classify "" = .ok c) ∧
        ∀ path ∈ plan.visited tree, ∃ looked, plan.look tree path = .ok looked := by
  rw [← exists_collect_eq_ok_iff, survey, visited]
  cases plan.settings.classify "" with
  | error error =>
      constructor
      · rintro ⟨tally, htally⟩
        cases htally
      · rintro ⟨⟨c, hclass⟩, -⟩
        cases hclass
  | ok c =>
      cases plan.collect tree (plan.descendants tree Walk.walkBudget []) with
      | error halt =>
          constructor
          · rintro ⟨tally, htally⟩
            cases htally
          · rintro ⟨-, found, hfound⟩
            cases hfound
      | ok found => exact ⟨fun _ => ⟨⟨c, rfl⟩, found, rfl⟩, fun _ => ⟨_, rfl⟩⟩

/-- **A survey succeeds exactly if everything reachable can be examined**: what is `Reachable` has
to be `Examinable`. -/
theorem exists_survey_eq_ok_iff_examinable (hbase : plan.base.IsNormal) :
    (∃ tally, plan.survey tree = .ok tally) ↔
      ∀ path, plan.Reachable tree path → plan.Examinable tree path := by
  rw [exists_survey_eq_ok_iff, exists_classify_eq_ok_iff_examinable,
    forall_look_iff_examinable hbase]
  constructor
  · rintro ⟨hroot, hbelow⟩ path hreach
    by_cases hne : path = []
    · exact hne ▸ hroot
    · exact hbelow path hne hreach
  · exact fun h => ⟨h [] reachesBy_nil, fun path _ => h path⟩

/-- **What a survey finds** is `tallyOf` the base directory and what is `visited`. -/
theorem survey_eq_ok {tally : Tally} (hdirectory : tree.isDirectory (plan.place []) = .ok true)
    (h : plan.survey tree = .ok tally) : tally = plan.tallyOf tree ([] :: plan.visited tree) := by
  obtain ⟨⟨c, hclass⟩, hlooks⟩ := exists_survey_eq_ok_iff.1 ⟨tally, h⟩
  obtain ⟨found, hcollect⟩ := exists_collect_eq_ok_iff.2 hlooks
  have hne : [] ∉ plan.visited tree := fun hnil => (mem_descendants_iff.1 hnil).1 rfl
  rw [survey, hclass, ← visited, hcollect] at h
  cases h
  rw [collect_eq_ok hne hcollect, ← tallyOf_nil_singleton hdirectory hclass, ← tallyOf_append]
  rfl

end ScanPlan

end TreeSift
