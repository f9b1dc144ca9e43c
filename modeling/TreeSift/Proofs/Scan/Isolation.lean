import TreeSift.Proofs.FileTree.Blanked
import TreeSift.Proofs.Scan.Answered

/-! # Listings that fail

A directory that cannot be listed is, for a scan, a directory that shows nothing: but for the
warnings, a scan comes to the same as on the file tree where the listings that fail show nothing
(`Scanner.scan_isolates`). There is one warning about each directory that is entered in vain. -/

namespace TreeSift

/-- The result with `warnings` emptied, and all else as it is. -/
def ScanResult.withoutWarnings (result : ScanResult) : ScanResult :=
  { result with warnings := [] }

namespace ScanPlan

variable (plan : ScanPlan) (tree : FileTree)

/-- A directory has the same entries in `tree.blanked`: a listing that fails and an empty one both
give none. -/
theorem entriesOf_blanked (path : RelativePath) :
    plan.entriesOf tree.blanked path = plan.entriesOf tree path := by
  rw [entriesOf, entriesOf]
  by_cases hdirectory : tree.isDirectory (plan.place path) = .ok true
  · rw [FileTree.list_blanked_of_isDirectory hdirectory]
    cases tree.list (plan.place path) <;> rfl
  · rw [FileTree.list_blanked_of_not_isDirectory hdirectory]

/-- An entry looks the same in `tree.blanked`: `look` asks for no listing. -/
theorem look_blanked (path : RelativePath) : plan.look tree.blanked path = plan.look tree path := by
  rw [look, look, FileTree.inspect_blanked]

/-- The same directories are entered in `tree.blanked`. -/
theorem entersAt_blanked (path : RelativePath) :
    plan.entersAt tree.blanked path = plan.entersAt tree path := by
  rw [entersAt, entersAt, look_blanked]

/-- The same lies below a directory of `tree.blanked`, by induction on the depth. -/
theorem descendants_blanked (depth : Nat) (start : RelativePath) :
    plan.descendants tree.blanked depth start = plan.descendants tree depth start := by
  induction depth generalizing start with
  | zero => rfl
  | succ depth ih =>
      rw [descendants, descendants, entriesOf_blanked]
      simp only [entersAt_blanked, ih]

/-- **The same entries are visited** by a scan without a conductor: `visited` does not tell
`tree.blanked` from `tree`. -/
theorem visited_blanked : plan.visited tree.blanked = plan.visited tree := by
  rw [visited, visited, descendants_blanked]

/-- An entry is a directory of `tree.blanked` as before. -/
theorem directoryAt_blanked (path : RelativePath) :
    plan.directoryAt tree.blanked path = plan.directoryAt tree path := by
  rw [directoryAt, directoryAt, FileTree.isDirectory_blanked]

/-- A conductor is shown an entry as before: `visitAt` is the same function. -/
theorem visitAt_blanked : plan.visitAt tree.blanked = plan.visitAt tree := by
  funext path
  rw [visitAt, visitAt, directoryAt_blanked]

variable {plan tree}

/-- What `entersFrom` holds of is a directory if the base directory is one. -/
theorem isDirectory_of_entersFrom (hdirectory : tree.isDirectory (plan.place []) = .ok true)
    {path : RelativePath} (h : plan.entersFrom tree path = true) :
    tree.isDirectory (plan.place path) = .ok true := by
  cases path with
  | nil => exact hdirectory
  | cons name parent => exact isDirectory_of_entersAt h

/-- There is no warning about a directory of `tree.blanked`: its listing is empty where it failed.
-/
theorem listingWarnings_blanked {path : RelativePath}
    (h : tree.isDirectory (plan.place path) = .ok true) :
    plan.listingWarnings tree.blanked path = [] := by
  rw [listingWarnings, FileTree.list_blanked_of_isDirectory h]

/-- **The same is noted**, but for the `warnings`: there are none. -/
theorem tallyOf_blanked (hdirectory : tree.isDirectory (plan.place []) = .ok true)
    (paths : List RelativePath) :
    plan.tallyOf tree.blanked paths = { plan.tallyOf tree paths with warnings := [] } := by
  have hrecord : plan.recordAt tree.blanked = plan.recordAt tree := by
    funext path
    rw [recordAt, recordAt, directoryAt_blanked]
  have hskips : plan.skipsLink tree.blanked = plan.skipsLink tree := by
    funext path
    rw [skipsLink, skipsLink, directoryAt_blanked, linkAt, linkAt, FileTree.isLink_blanked]
  have hwarnings : (paths.filter (plan.entersFrom tree.blanked)).flatMap
      (plan.listingWarnings tree.blanked) = [] := by
    refine List.flatMap_eq_nil_iff.2 fun path hpath => listingWarnings_blanked ?_
    refine isDirectory_of_entersFrom hdirectory ?_
    rw [entersFrom, ← entersAt_blanked, ← entersFrom]
    exact (List.mem_filter.1 hpath).2
  rw [tallyOf, hrecord, hskips, hwarnings]
  rfl

/-- The `listingWarnings` name the directories that cannot be listed. -/
theorem map_path_flatMap_listingWarnings (paths : List RelativePath) :
    (paths.flatMap (plan.listingWarnings tree)).map ScanWarning.path =
      (paths.filter fun path => !(tree.list (plan.place path)).isOk).map RelativePath.text := by
  induction paths with
  | nil => rfl
  | cons path paths ih =>
      rw [List.flatMap_cons, List.map_append, ih, listingWarnings]
      cases hlist : tree.list (plan.place path) with
      | ok names =>
          rw [List.filter_cons_of_neg (by simp [hlist, Except.isOk, Except.toBool])]
          rfl
      | error error =>
          rw [List.filter_cons_of_pos (by simp [hlist, Except.isOk, Except.toBool])]
          rfl

end ScanPlan

namespace Tour

variable {plan : ScanPlan} {tree : FileTree} {answer : String → ScanAction}

/-- **A tour is the same** on `tree.blanked`: every `step` asks only what blanking keeps. -/
theorem full_blanked (plan : ScanPlan) (tree : FileTree) (answer : String → ScanAction) :
    full plan tree.blanked answer = full plan tree answer := by
  have hstep : step plan tree.blanked answer = step plan tree answer := by
    funext tour path
    rw [step, step, FileTree.inspect_blanked, ScanPlan.haltAt, ScanPlan.haltAt, ScanPlan.look_blanked]
  rw [full, full, ScanPlan.visited_blanked, steps, steps, hstep]

/-- The `outcome` of a tour on `tree.blanked` is the same `withoutWarnings`. -/
theorem outcome_blanked (hdirectory : tree.isDirectory (plan.place []) = .ok true) (tour : Tour)
    (paths : List RelativePath) :
    tour.outcome (plan.tallyOf tree.blanked paths) =
      (tour.outcome (plan.tallyOf tree paths)).map ScanResult.withoutWarnings := by
  rw [ScanPlan.tallyOf_blanked hdirectory, outcome, outcome]
  split <;> rfl

/-- Without a conductor, a `full` tour that gets through visits everything. -/
theorem mem_visited_of_none (hresult : (full plan tree (answerOf none)).HasResult)
    {path : RelativePath} (h : path ∈ [] :: plan.visited tree) :
    path ∈ (full plan tree (answerOf none)).visited := by
  induction path with
  | nil => exact nil_mem_visited
  | cons name parent ih =>
      have hvisited : name :: parent ∈ plan.visited tree :=
        (List.mem_cons.1 h).resolve_left (List.cons_ne_nil name parent)
      have hreaches := (ScanPlan.mem_descendants_iff.1 hvisited).2
      have hparent : parent ∈ [] :: plan.visited tree := by
        by_cases hnil : parent = []
        · exact List.mem_cons.2 (.inl hnil)
        · exact List.mem_cons_of_mem _
            (ScanPlan.mem_descendants_iff.2 ⟨hnil, (ScanPlan.reachesBy_cons.1 hreaches).1⟩)
      -- every answer is to go on
      have hproceeds (isDirectory : Bool) : ScanAction.proceed ≠ .skipping isDirectory := by
        cases isDirectory <;> decide
      have hgoesOn : ScanAction.proceed ≠ .abort := by decide
      exact (mem_visited_iff hresult hvisited).2
        ⟨ih hparent, fun _ _ _ _ => hproceeds _, fun _ _ _ => hgoesOn⟩

end Tour

/-- **What a scan warns about**: `visited` is what it visits under answers, and `entered` is what it
enters. -/
structure Warns (plan : ScanPlan) (tree : FileTree) (answer : String → ScanAction)
    (result : ScanResult) (visited entered : List RelativePath) : Prop where
  /-- Entries are visited in order, and none twice. -/
  precedes_visited : visited.Pairwise RelativePath.Precedes
  /-- What is entered has been visited, and is entered in the same order. -/
  entered_sublist : entered.Sublist visited
  /-- The base directory and the open directories are entered that are visited, unless the answer is
  to abort. -/
  mem_entered : ∀ path ∈ visited, path ∈ entered ↔
    answer (RelativePath.text path) ≠ .abort ∧ (path = [] ∨ plan.Opens tree path)
  /-- Each time one of them is entered that cannot be listed, there is one warning about it. -/
  warnings_eq : result.warnings = entered.flatMap (plan.listingWarnings tree)
  /-- The warning has the relative path of the directory. -/
  path_warnings : result.warnings.map ScanWarning.path =
    (entered.filter fun path => !(tree.list (plan.place path)).isOk).map RelativePath.text

namespace Scanner

variable {settings : ScanSettings} {prune : Bool} {tree : FileTree} {text : String}

/-- A `full` tour that gets through warns about what it enters in vain: `Warns` holds of its result.
-/
theorem warns_of_hasResult {plan : ScanPlan} {answer : String → ScanAction}
    (hresult : (Tour.full plan tree answer).HasResult) :
    Warns plan tree answer
      (plan.tallyOf tree ((Tour.full plan tree answer).passed answer)).result
      (Tour.full plan tree answer).visited
      (((Tour.full plan tree answer).passed answer).filter (plan.entersFrom tree)) := by
  have hpassed {path : RelativePath} (hpath : path ∈ (Tour.full plan tree answer).visited) :
      path ∈ (Tour.full plan tree answer).passed answer ↔
        answer (RelativePath.text path) ≠ .abort := by
    rw [Tour.passed, List.mem_filter, and_iff_right hpath, bne_iff_ne]
  constructor
  case precedes_visited => exact Tour.precedes_visited
  case entered_sublist => exact List.filter_sublist.trans List.filter_sublist
  case mem_entered =>
    intro path hpath
    rw [List.mem_filter, hpassed hpath]
    refine and_congr_right fun hanswer => ScanPlan.entersFrom_iff fun hne => ?_
    -- what has passed has been looked at, since the tour was not cut short
    exact Tour.look_of_mem_passed hresult hne ((hpassed hpath).2 hanswer)
  case warnings_eq => exact ScanPlan.warnings_tallyOf _
  case path_warnings =>
    rw [ScanPlan.warnings_tallyOf]
    exact ScanPlan.map_path_flatMap_listingWarnings _

/-- **A listing that fails is isolated**: but for the `warnings`, a scan comes to the same as on
`tree.blanked`, and it shows the same to its conductor. It has a result if everything reachable can
be examined, and warns about what it enters in vain. -/
theorem scan_isolates (hbase : settings.basedir = some (.ofText text))
    (hcheck : checkBasedir tree settings.basedir = none)
    (answer? : Option (String → ScanAction)) :
    checkBasedir tree.blanked settings.basedir = none ∧
      ((answered settings answer? prune).scan tree.blanked).1 =
          ((answered settings answer? prune).scan tree).1.map ScanResult.withoutWarnings ∧
        ((answered settings answer? prune).scan tree.blanked).2.1.visits =
            ((answered settings answer? prune).scan tree).2.1.visits ∧
          ((∀ path, (planFrom settings prune (.ofText text)).Reachable tree path →
              (planFrom settings prune (.ofText text)).Examinable tree path) →
            ∃ result, ((answered settings answer? prune).scan tree).1 = .ok result) ∧
            ∀ result, ((answered settings answer? prune).scan tree).1 = .ok result →
              ∃ visited entered,
                ((answered settings answer? prune).scan tree).2.1.visits = shownTo answer?
                    (visited.map ((planFrom settings prune (.ofText text)).visitAt tree)) ∧
                  (answer? = none → ∀ path,
                    path ∈ visited ↔ (planFrom settings prune (.ofText text)).Reachable tree path) ∧
                    Warns (planFrom settings prune (.ofText text)) tree (answerOf answer?) result
                      visited entered := by
  have hchecked : checkBasedir tree (some (.ofText text)) = none := hbase ▸ hcheck
  have hdirectory : tree.isDirectory ((planFrom settings prune (.ofText text)).place []) = .ok true :=
    checkBasedir_eq_none_iff.1 hchecked
  have hblanked : checkBasedir tree.blanked (some (.ofText text)) = none :=
    checkBasedir_eq_none_iff.2 ((tree.isDirectory_blanked _).trans hdirectory)
  -- both scans follow the same tour, as only listings that fail are not the same in both trees
  obtain ⟨houtcome, hvisits, -⟩ := @scan_answered settings prune tree _ answer? hbase hchecked
  obtain ⟨houtcome', hvisits', -⟩ :=
    @scan_answered settings prune tree.blanked _ answer? hbase hblanked
  refine ⟨hbase ▸ hblanked, ?_, ?_, fun hexaminable => ?_, fun result hresult => ?_⟩
  · rw [houtcome, houtcome', Tour.full_blanked]
    exact Tour.outcome_blanked hdirectory _ _
  · rw [hvisits, hvisits', Tour.full_blanked, ScanPlan.visitAt_blanked]
  · have hnormal : (planFrom settings prune (.ofText text)).base.IsNormal := Path.isNormal_ofText text
    obtain ⟨hroot, hlooks⟩ := ScanPlan.exists_survey_eq_ok_iff.1
      ((ScanPlan.exists_survey_eq_ok_iff_examinable hnormal).2 hexaminable)
    rw [houtcome]
    exact ⟨_, Tour.outcome_eq_ok_iff.2 ⟨Tour.hasResult_full hroot hlooks, rfl⟩⟩
  · have hreached := hresult
    rw [houtcome] at hreached
    obtain ⟨hhasResult, rfl⟩ := Tour.outcome_eq_ok_iff.1 hreached
    refine ⟨_, _, hvisits, ?_, warns_of_hasResult hhasResult⟩
    rintro rfl path
    obtain ⟨found, hsurvey, -⟩ := exists_survey_of_outcome hbase hcheck hresult
    rw [← ScanPlan.mem_nil_cons_visited_iff hsurvey]
    exact ⟨fun h => Tour.visited_sublist.subset h, Tour.mem_visited_of_none hhasResult⟩

/-- The entries of `guardedTree`: a directory whose listing fails, with a file in it. -/
def guardedEntries : List (Location × Entry) :=
  [([directoryName], .directory (some (.fails Errno.accessDenied))),
    ([NestedTree.leafName, directoryName], .file "")]

theorem nodup_guardedEntries : (guardedEntries.map Prod.fst).Nodup := by decide

/-- A directory that may not be listed, with a file in it, which `blanked` hides. -/
def guardedTree : FileTree :=
  ⟨guardedEntries, nodup_guardedEntries⟩

/-- A scan of `guardedTree` from the root warns about the directory, and is the same otherwise as if
it were empty. -/
theorem scan_isolates_guardedTree :
    checkBasedir guardedTree rootSettings.basedir = none ∧
      ((answered rootSettings none true).scan guardedTree.blanked).1 =
          ((answered rootSettings none true).scan guardedTree).1.map ScanResult.withoutWarnings ∧
        ∃ result visited entered,
          ((answered rootSettings none true).scan guardedTree).1 = .ok result ∧
            Warns (planFrom rootSettings true (.ofText "/")) guardedTree (answerOf none) result visited
              entered ∧
              result.warnings.map ScanWarning.path = ["d"] := by
  have hcheck : checkBasedir guardedTree rootSettings.basedir = none := by decide +kernel
  have hisOk : ((answered rootSettings none true).scan guardedTree).1.isOk = true := by
    decide +kernel
  have hpaths : ((answered rootSettings none true).scan guardedTree).1.toOption.map
      (fun result => result.warnings.map ScanWarning.path) = some ["d"] := by decide +kernel
  obtain ⟨result, hresult⟩ := exists_eq_ok_of_isOk hisOk
  obtain ⟨-, hblanked, -, -, hwarns⟩ :=
    @scan_isolates rootSettings true guardedTree "/" rfl hcheck none
  obtain ⟨visited, entered, -, -, hwarns⟩ := hwarns result hresult
  rw [hresult] at hpaths
  exact ⟨hcheck, hblanked, result, visited, entered, hresult, hwarns, Option.some.inj hpaths⟩

end Scanner

end TreeSift
