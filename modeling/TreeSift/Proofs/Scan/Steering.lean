import TreeSift.Proofs.Scan.Answered
import TreeSift.Proofs.Scan.Links

/-! # Steering a scan

A conductor that answers by relative path only takes away from what a scan without one visits
(`Steered`): what it does not keep from being visited, it does not change. The other scan has to get
through, as it may come to entries that the conductor keeps away from
(`Scanner.outcomes_steered_iff`). -/

namespace TreeSift

/-- **How answers steer a scan**: `full` is the result of the scan without a conductor and `entries`
what it visits; `result` is the result of the scan that is steered and `visited` what this one
visits. -/
structure Steered (plan : ScanPlan) (tree : FileTree) (answer : String → ScanAction)
    (full result : ScanResult) (entries visited : List RelativePath) : Prop where
  /-- Without a conductor everything reachable is visited. -/
  mem_entries : ∀ path, path ∈ entries ↔ plan.Reachable tree path
  /-- A directory is visited before its contents, and these in the order of their names. -/
  precedes_entries : entries.Pairwise RelativePath.Precedes
  /-- All of it is in the lists of the result, and nothing else. -/
  mem_full : ∀ name, (∃ isDirectory c, name ∈ full.list isDirectory c) ↔
    ∃ path ∈ entries, RelativePath.text path = name
  /-- The scan that is steered visits some of this, in the same order. -/
  visited_sublist : visited.Sublist entries
  /-- It visits the base directory, and every entry of a directory that it visits and that is
  entered, unless an answer in the directory asked before to skip the kind of the entry, or an answer
  anywhere aborted before. -/
  mem_visited : ∀ path ∈ entries, path ∈ visited ↔ path = [] ∨
    (path.tail ∈ visited ∧ (path.tail = [] ∨ plan.Opens tree path.tail)) ∧
      (∀ other ∈ visited, other.tail? = some path.tail → RelativePath.Precedes other path →
        answer (RelativePath.text other) ≠ .skipping (plan.directoryAt tree path)) ∧
        ∀ other ∈ visited, RelativePath.Precedes other path →
          answer (RelativePath.text other) ≠ .abort
  /-- What it visits and does not abort at is in the same lists. -/
  list_eq : ∀ isDirectory c, result.list isDirectory c = (full.list isDirectory c).filter fun name =>
    decide (RelativePath.ofText name ∈ visited ∧ answer name ≠ .abort)
  /-- A directory that asks to skip directories is not left out itself: only answers inside it, and
  those that abort, keep its contents from being visited. -/
  mem_visited_of_noMoreDirectories : ∀ name parent, name :: parent ∈ entries → parent ∈ visited →
    answer (RelativePath.text parent) = .noMoreDirectories →
      (∀ other ∈ visited, other.tail? = some parent → RelativePath.Precedes other (name :: parent) →
        answer (RelativePath.text other) ≠ .skipping (plan.directoryAt tree (name :: parent))) →
        (∀ other ∈ visited, RelativePath.Precedes other (name :: parent) →
          answer (RelativePath.text other) ≠ .abort) → name :: parent ∈ visited

namespace Tour

variable {plan : ScanPlan} {tree : FileTree} {answer answer' : String → ScanAction} {tour : Tour}

/-- Only the answers about entries below the base directory matter to a `step`. -/
theorem step_congr (h : ∀ path, path ≠ [] →
      answer (RelativePath.text path) = answer' (RelativePath.text path))
    {path : RelativePath} (hne : path ≠ []) :
    step plan tree answer tour path = step plan tree answer' tour path := by
  have hasked (action : ScanAction) :
      tour.Asked answer path.tail action ↔ tour.Asked answer' path.tail action := by
    refine exists_congr fun other => and_congr_right fun _ => and_congr_right fun hsibling => ?_
    have hother : other ≠ [] := by
      rintro rfl
      cases hsibling
    rw [h other hother]
  have hhalt : plan.haltAt tree answer path = plan.haltAt tree answer' path := by
    rw [ScanPlan.haltAt, ScanPlan.haltAt, h path hne]
  simp only [step, hasked, hhalt]

/-- **The answer about the base directory** does not matter to a `full` tour unless it is `.abort`.
-/
theorem full_congr (h : ∀ path, path ≠ [] →
      answer (RelativePath.text path) = answer' (RelativePath.text path))
    (hbase : answer "" ≠ .abort) (hbase' : answer' "" ≠ .abort) :
    full plan tree answer = full plan tree answer' := by
  have hstart : start plan answer = start plan answer' := by
    rw [start, start, ScanPlan.haltAtBase, ScanPlan.haltAtBase, if_neg hbase, if_neg hbase']
  have hsteps (paths : List RelativePath) (hpaths : [] ∉ paths) (tour : Tour) :
      steps plan tree answer paths tour = steps plan tree answer' paths tour := by
    induction paths generalizing tour with
    | nil => rfl
    | cons path paths ih =>
        obtain ⟨hpath, hrest⟩ := not_or.1 (mt List.mem_cons.2 hpaths)
        rw [steps_cons, steps_cons, step_congr h (Ne.symm hpath), ih hrest]
  rw [full, full, hstart]
  exact hsteps _ (fun hnil => (ScanPlan.mem_descendants_iff.1 hnil).1 rfl) _

/-- The answer about the base directory does not matter either to what has `passed`, unless it is
`.abort`. -/
theorem passed_congr (h : ∀ path, path ≠ [] →
      answer (RelativePath.text path) = answer' (RelativePath.text path))
    (hbase : answer "" ≠ .abort) (hbase' : answer' "" ≠ .abort) (tour : Tour) :
    tour.passed answer = tour.passed answer' := by
  refine List.filter_congr fun path _ => ?_
  cases path with
  | nil =>
      rw [RelativePath.text, bne_iff_ne.2 hbase, bne_iff_ne.2 hbase']
  | cons name parent => rw [h _ (List.cons_ne_nil name parent)]

end Tour

namespace LoopedTree

open NestedTree (placeOf)

/-- Under answers that abort at the link, a `full` tour of the directory visits `[]` and `[name]`
and no more. -/
theorem full_looped {plan : ScanPlan} {name : Name} {answer : String → ScanAction}
    {c : Classification} (hbase : plan.base = .ofText name.text)
    (hsize : (placeOf name 1).text.utf8ByteSize ≤ maxPathBytes)
    (hclass : plan.settings.classify "" = .ok c) (hroot : answer "" ≠ .abort)
    (habort : answer (RelativePath.text [name]) = .abort) :
    Tour.full plan (.looped name) answer = ⟨[[], [name]], some .aborted⟩ := by
  have hlist : (FileTree.looped name).list (plan.place []) = .ok [name] := by
    rw [← List.replicate_zero, NestedTree.place_replicate hbase]
    exact list_placeOf (Nat.le_trans
      (NestedTree.utf8ByteSize_text_placeOf_le name (Nat.zero_le 1)) hsize) (Nat.zero_le _)
  obtain ⟨info, hinfo⟩ : ∃ info, (FileTree.looped name).inspect (plan.place [name]) = .ok info := by
    have hnormal : (plan.place []).IsNormal :=
      ScanPlan.isNormal_below (hbase ▸ Path.isNormal_ofText name.text) []
    refine (FileTree.inspect_isOk_iff hnormal hlist List.mem_cons_self).2 ?_
    rw [← NestedTree.place_replicate hbase] at hsize
    exact hsize
  obtain ⟨later, hvisited⟩ : ∃ later, plan.visited (.looped name) = [name] :: later := by
    rw [ScanPlan.visited, Walk.walkBudget, ScanPlan.descendants, ScanPlan.entriesOf, hlist]
    exact ⟨_, rfl⟩
  have hstart : Tour.start plan answer = ⟨[[]], none⟩ := by
    rw [Tour.start, ScanPlan.haltAtBase, if_neg hroot, hclass]
  -- nothing in the directory has been asked before
  have hasked (action : ScanAction) : ¬(Tour.mk [[]] none).Asked answer [name].tail action := by
    rintro ⟨path, hpath, hsibling, -⟩
    rw [List.mem_singleton.1 hpath] at hsibling
    cases hsibling
  rw [Tour.full, hvisited, Tour.steps_cons, hstart,
    Tour.step_of_not_asked rfl List.mem_cons_self hinfo (hasked _),
    Tour.haltAt_eq_aborted_iff.2 habort, Tour.steps_halted]
  rfl
end LoopedTree

namespace Scanner

variable {settings : ScanSettings} {prune : Bool} {tree : FileTree} {text : String}
  {answer : String → ScanAction}

/-- The lists of a scan under answers are those of a scan without a conductor, each filtered by what
the `full` tour has visited and `answer` does not abort at. -/
theorem list_eq_filter_visited {plan : ScanPlan} (isDirectory : Bool) (c : Classification) :
    (plan.tallyOf tree ((Tour.full plan tree answer).passed answer)).result.list isDirectory c =
      ((plan.tallyOf tree ([] :: plan.visited tree)).result.list isDirectory c).filter fun name =>
        decide (RelativePath.ofText name ∈ (Tour.full plan tree answer).visited ∧
          answer name ≠ .abort) := by
  have hpassed : ((Tour.full plan tree answer).passed answer).Pairwise RelativePath.Precedes :=
    Tour.precedes_visited.sublist List.filter_sublist
  refine eq_filter_of_mem_iff (ScanPlan.ascending_list_tallyOf hpassed isDirectory c)
    (ScanPlan.ascending_list_tallyOf ScanPlan.precedes_nil_cons_visited isDirectory c)
    fun name => ?_
  rw [ScanPlan.mem_list_tallyOf, ScanPlan.mem_list_tallyOf]
  constructor
  · rintro ⟨path, hpath, rfl, hkind⟩
    obtain ⟨hvisited, hanswer⟩ := List.mem_filter.1 hpath
    rw [RelativePath.ofText_text]
    exact ⟨⟨path, Tour.visited_sublist.subset hvisited, rfl, hkind⟩, hvisited, by simpa using hanswer⟩
  · rintro ⟨⟨path, -, rfl, hkind⟩, hvisited, hanswer⟩
    rw [RelativePath.ofText_text] at hvisited
    exact ⟨path, List.mem_filter.2 ⟨hvisited, by simpa using hanswer⟩, rfl, hkind⟩

/-- **What a survey finds is steered by answers**: the tally of what has `passed` stands to the one
of everything in the relation `Steered`. -/
theorem steered_of_survey {plan : ScanPlan} (answer : String → ScanAction)
    (hdirectory : tree.isDirectory (plan.place []) = .ok true) {found : Tally}
    (hsurvey : plan.survey tree = .ok found) :
    Steered plan tree answer found.result
      (plan.tallyOf tree ((Tour.full plan tree answer).passed answer)).result
      ([] :: plan.visited tree) (Tour.full plan tree answer).visited := by
  have hfound := ScanPlan.survey_eq_ok hdirectory hsurvey
  obtain ⟨hbase, hlooks⟩ := ScanPlan.exists_survey_eq_ok_iff.1 ⟨found, hsurvey⟩
  have hreachable (path : RelativePath) : path ∈ [] :: plan.visited tree ↔ plan.Reachable tree path :=
    ScanPlan.mem_nil_cons_visited_iff hsurvey
  have hresult : (Tour.full plan tree answer).HasResult := Tour.hasResult_full hbase hlooks
  -- an entry below the base directory is reached through an open directory
  have hopens {path : RelativePath} (hne : path ≠ []) (hpath : path ∈ [] :: plan.visited tree) :
      path.tail = [] ∨ plan.Opens tree path.tail := by
    obtain ⟨name, parent, rfl⟩ := List.exists_cons_of_ne_nil hne
    by_cases hnil : parent = []
    · exact .inl hnil
    · exact .inr ((ScanPlan.reachesBy_cons.1 ((hreachable _).1 hpath)).2.2 hnil)
  have hvisited {path : RelativePath} (hne : path ≠ []) (hpath : path ∈ [] :: plan.visited tree) :=
    Tour.mem_visited_iff hresult ((List.mem_cons.1 hpath).resolve_left hne)
  constructor
  case mem_entries => exact hreachable
  case precedes_entries => exact ScanPlan.precedes_nil_cons_visited
  case mem_full =>
    intro name
    rw [hfound]
    constructor
    · rintro ⟨isDirectory, c, hname⟩
      obtain ⟨path, hpath, htext, -⟩ := ScanPlan.mem_list_tallyOf.1 hname
      exact ⟨path, hpath, htext⟩
    · rintro ⟨path, hpath, htext⟩
      exact ⟨_, _, ScanPlan.mem_list_tallyOf.2 ⟨path, hpath, htext, rfl, rfl⟩⟩
  case visited_sublist => exact Tour.visited_sublist
  case mem_visited =>
    intro path hpath
    by_cases hne : path = []
    · exact iff_of_true (hne ▸ Tour.nil_mem_visited) (.inl hne)
    · rw [or_iff_right hne, hvisited hne hpath]
      exact and_congr_left' (and_iff_left (hopens hne hpath)).symm
  case list_eq =>
    intro isDirectory c
    rw [hfound]
    exact list_eq_filter_visited isDirectory c
  case mem_visited_of_noMoreDirectories =>
    intro name parent hpath hparent _ hinner habort
    exact (hvisited (List.cons_ne_nil name parent) hpath).2 ⟨hparent, hinner, habort⟩

/-- **A conductor steers a scan as its answers say** if the scan without a conductor gets through:
both scans have results then, and they are `Steered`. An answer about the base directory has no
effect unless it is `.abort`. -/
theorem outcomes_steered_iff (hbase : settings.basedir = some (.ofText text))
    (hcheck : checkBasedir tree settings.basedir = none) (answer : String → ScanAction) :
    ((∃ full result entries visited, outcome settings prune tree = .ok full ∧
      ((answered settings (some answer) prune).scan tree).1 = .ok result ∧
        ((answered settings (some answer) prune).scan tree).2.1.visits =
          visited.map ((planFrom settings prune (.ofText text)).visitAt tree) ∧
          Steered (planFrom settings prune (.ofText text)) tree answer full result entries visited) ↔
      ∀ path, (planFrom settings prune (.ofText text)).Reachable tree path →
        (planFrom settings prune (.ofText text)).Examinable tree path) ∧
    ∀ answer' : String → ScanAction, (∀ name, name ≠ "" → answer' name = answer name) →
      answer "" ≠ .abort → answer' "" ≠ .abort →
        ((answered settings (some answer') prune).scan tree).1 =
            ((answered settings (some answer) prune).scan tree).1 ∧
          ((answered settings (some answer') prune).scan tree).2.1.visits =
            ((answered settings (some answer) prune).scan tree).2.1.visits := by
  have hchecked : checkBasedir tree (some (.ofText text)) = none := hbase ▸ hcheck
  constructor
  · constructor
    · rintro ⟨full, result, entries, visited, hfull, -⟩
      exact (exists_outcome_eq_ok_iff hbase hcheck).1 ⟨full, hfull⟩
    · intro hexaminable
      -- the scan without a conductor gets through, so a tour can look at all that it comes to
      obtain ⟨full, hfull⟩ := (exists_outcome_eq_ok_iff hbase hcheck).2 hexaminable
      obtain ⟨found, hsurvey, rfl⟩ := exists_survey_of_outcome hbase hcheck hfull
      obtain ⟨hroot, hlooks⟩ := ScanPlan.exists_survey_eq_ok_iff.1 ⟨found, hsurvey⟩
      obtain ⟨houtcome, hvisits, -⟩ :=
        @scan_answered settings prune tree _ (some answer) hbase hchecked
      rw [answerOf_some] at houtcome hvisits
      rw [shownTo_some] at hvisits
      have hresult : (Tour.full (planFrom settings prune (.ofText text)) tree answer).HasResult :=
        Tour.hasResult_full hroot hlooks
      have hdirectory : tree.isDirectory ((planFrom settings prune (.ofText text)).place []) =
          .ok true := checkBasedir_eq_none_iff.1 hchecked
      rw [houtcome]
      exact ⟨_, _, _, _, hfull, Tour.outcome_eq_ok_iff.2 ⟨hresult, rfl⟩, hvisits,
        steered_of_survey answer hdirectory hsurvey⟩
  · intro answer' hanswer habort habort'
    -- the tours ask about entries below the base directory only, but for an abort at once
    have hbelow : ∀ path, path ≠ [] →
        answer' (RelativePath.text path) = answer (RelativePath.text path) := by
      intro path hne
      obtain ⟨name, parent, rfl⟩ := List.exists_cons_of_ne_nil hne
      exact hanswer _ (RelativePath.text_cons_ne_empty name parent)
    obtain ⟨houtcome, hvisits, -⟩ :=
      @scan_answered settings prune tree _ (some answer) hbase hchecked
    obtain ⟨houtcome', hvisits', -⟩ :=
      @scan_answered settings prune tree _ (some answer') hbase hchecked
    rw [houtcome, houtcome', hvisits, hvisits', answerOf_some, answerOf_some, shownTo_some,
      shownTo_some, Tour.full_congr hbelow habort' habort, Tour.passed_congr hbelow habort' habort]
    exact ⟨rfl, rfl⟩

/-- Answers that skip the directories after the base directory, which has no effect, and the files
after a directory. -/
def skippingFiles (name : String) : ScanAction :=
  if name = "" then .noMoreDirectories else .noMoreFiles

/-- A scan of `smallTree` under `skippingFiles` is `Steered`. -/
theorem outcomes_steered_smallTree :
    checkBasedir smallTree rootSettings.basedir = none ∧
      ∃ full result entries visited, outcome rootSettings true smallTree = .ok full ∧
        ((answered rootSettings (some skippingFiles) true).scan smallTree).1 = .ok result ∧
          ((answered rootSettings (some skippingFiles) true).scan smallTree).2.1.visits =
            visited.map ((planFrom rootSettings true (.ofText "/")).visitAt smallTree) ∧
            Steered (planFrom rootSettings true (.ofText "/")) smallTree skippingFiles full result
              entries visited := by
  have hcheck : checkBasedir smallTree rootSettings.basedir = none := by decide +kernel
  have hisOk : (outcome rootSettings true smallTree).isOk = true := by decide +kernel
  exact ⟨hcheck, (outcomes_steered_iff rfl hcheck skippingFiles).1.2
    ((exists_outcome_eq_ok_iff rfl hcheck).1 (exists_eq_ok_of_isOk hisOk))⟩

/-- Answers that are `.abort` everywhere but at the base directory. -/
def abortingBelow (name : String) : ScanAction :=
  if name = "" then .proceed else .abort

/-- Unless its answer is `.abort`, the base directory is in the list for its class. -/
theorem base_mem_list_of_ne_abort {base : Path} {c : Classification}
    (hdirectory : tree.isDirectory base = .ok true) (hclass : settings.classify "" = .ok c)
    (hanswer : answer "" ≠ .abort) :
    "" ∈ ((planFrom settings prune base).tallyOf tree
      ((Tour.full (planFrom settings prune base) tree answer).passed answer)).result.list true c := by
  refine ScanPlan.mem_list_tallyOf.2 ⟨[], ?_, rfl, ScanPlan.directoryAt_eq_true.2 hdirectory,
    ScanPlan.classAt_eq hclass⟩
  exact List.mem_filter.2 ⟨Tour.nil_mem_visited, by simpa [RelativePath.text] using hanswer⟩

/-- **An answer can hide a path that grows too long**: on `wideTree` only the scan under
`abortingBelow` has a result, with the base directory in it. -/
theorem not_outcomes_steered_wideTree :
    checkBasedir LoopedTree.wideTree wideSettings.basedir = none ∧
      (∃ result, ((answered wideSettings (some abortingBelow) true).scan LoopedTree.wideTree).1 =
          .ok result ∧ "" ∈ result.list true .included) ∧
        ¬∃ full, outcome wideSettings true LoopedTree.wideTree = .ok full := by
  have hdirectory := LoopedTree.isDirectory_wideTree
  have hcheck : checkBasedir LoopedTree.wideTree wideSettings.basedir = none :=
    checkBasedir_eq_none_iff.2 hdirectory
  obtain ⟨houtcome, -⟩ := @scan_answered wideSettings true LoopedTree.wideTree
    (.ofText LoopedTree.wideName.text) (some abortingBelow) rfl hcheck
  have hsize := Nat.le_trans
    (NestedTree.utf8ByteSize_text_placeOf_le LoopedTree.wideName (show 1 ≤ 15 by decide))
    (Nat.le_of_eq LoopedTree.utf8ByteSize_text_placeOf_wideName)
  have hclass : wideSettings.classify "" = .ok .included := rfl
  have habort : abortingBelow (RelativePath.text [LoopedTree.wideName]) = .abort :=
    if_neg (RelativePath.text_cons_ne_empty _ _)
  have hfull : Tour.full (planFrom wideSettings true (.ofText LoopedTree.wideName.text))
      LoopedTree.wideTree abortingBelow = ⟨[[], [LoopedTree.wideName]], some .aborted⟩ :=
    LoopedTree.full_looped rfl hsize hclass (by decide) habort
  refine ⟨hcheck, ?_, not_exists_outcome_wideTree rfl rfl rfl rfl (.inr rfl)⟩
  rw [houtcome, answerOf_some]
  exact ⟨_, Tour.outcome_eq_ok_iff.2 ⟨.inr (congrArg Tour.halt? hfull), rfl⟩,
    base_mem_list_of_ne_abort hdirectory hclass (by decide)⟩

end Scanner

end TreeSift
