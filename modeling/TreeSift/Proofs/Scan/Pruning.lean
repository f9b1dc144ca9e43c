import TreeSift.Proofs.Pattern.Start
import TreeSift.Proofs.Scan.Specification

/-! # Leaving out directories

A scan may leave out directories that no include pattern can reach into. That loses nothing that is
included: what leads down to it starts like the patterns that include it
(`reachable_prune_of_includes`). So both scans find the same, but for entries that are not included
(`PrunedFrom`), as long as the longer one gets through. -/

namespace TreeSift

/-- **What a scan that leaves out directories owes to one that does not**: `pruned` is the result of
`outcome settings true tree`, `full` that of `outcome settings false tree`. -/
structure ScanResult.PrunedFrom (pruned full : ScanResult) : Prop where
  /-- It includes and excludes the same. -/
  list_eq : ∀ isDirectory c, c ≠ .notIncluded →
    pruned.list isDirectory c = full.list isDirectory c
  /-- It includes everything if the other one does. -/
  everythingIncluded_eq : pruned.everythingIncluded = full.everythingIncluded
  /-- What it does not include, the other one does not include either. -/
  notIncluded_subset : ∀ isDirectory,
    pruned.list isDirectory .notIncluded ⊆ full.list isDirectory .notIncluded
  /-- The links that it does not follow, the other one does not follow either. -/
  notFollowedLinks_subset : pruned.notFollowedLinks ⊆ full.notFollowedLinks
  /-- Its warnings are some of those of the other one, in order. -/
  warnings_sublist : pruned.warnings.Sublist full.warnings

namespace Scanner

variable {settings : ScanSettings} {prune : Bool} {tree : FileTree} {base : Path}
  {path ancestor : RelativePath}

/-- An include pattern that matches the entry at `path` could match something below every directory
above it: `matchesStart` holds on each `ancestor`. -/
theorem could_hold_of_includes (hincludes : settings.Includes (RelativePath.text path))
    (hsuffix : ancestor <:+ path) :
    settings.includes = [] ∨ ∃ p ∈ settings.includes,
      p.matchesStart settings.mode (RelativePath.text ancestor) = true := by
  refine hincludes.imp_right ?_
  rintro ⟨p, hp, hmatch⟩
  obtain ⟨rest, hsegments⟩ := RelativePath.exists_tokenize_text_eq_append hsuffix
  exact ⟨p, hp, Pattern.matchesStart_of_matchesPath hsegments hmatch⟩

/-- What is open with `prune` is open without it: `Opens` does not shrink when `prune` becomes
`false`. -/
theorem opens_of_opens_prune (h : (planFrom settings prune base).Opens tree path) :
    (planFrom settings false base).Opens tree path :=
  ⟨h.isDirectory, h.not_excludes, h.followLinks, .inl rfl⟩

/-- What is `Reachable` with `prune` is reachable without it, since `Opens` does not shrink. -/
theorem reachable_of_reachable_prune (h : (planFrom settings prune base).Reachable tree path) :
    (planFrom settings false base).Reachable tree path where
  lists := h.lists
  opens name parent hparent hne := opens_of_opens_prune (h.opens name parent hparent hne)

/-- A directory that is open without `prune` stays so with it if some include pattern `matchesStart`
its path. -/
theorem opens_prune_of_opens (h : (planFrom settings false base).Opens tree path)
    (hcould : settings.includes = [] ∨ ∃ p ∈ settings.includes,
      p.matchesStart settings.mode (RelativePath.text path) = true) :
    (planFrom settings prune base).Opens tree path :=
  ⟨h.isDirectory, h.not_excludes, h.followLinks, .inr hcould⟩

/-- **Nothing that is included is lost** by leaving out directories: what is `Reachable` without
`prune` and `Includes` selects is reachable with it. -/
theorem reachable_prune_of_includes (h : (planFrom settings false base).Reachable tree path)
    (hincludes : settings.Includes (RelativePath.text path)) :
    (planFrom settings prune base).Reachable tree path where
  lists := h.lists
  opens name parent hparent hne := by
    have habove : parent <:+ path := (List.suffix_cons name parent).trans hparent
    exact opens_prune_of_opens (h.opens name parent hparent hne)
      (could_hold_of_includes hincludes habove)

/-- **Where something is lost**, a directory on the way to it is not included: it is `Reachable`
with `prune`, and `Includes` fails on it. -/
theorem exists_not_includes (h : (planFrom settings false base).Reachable tree path)
    (hlost : ¬(planFrom settings prune base).Reachable tree path) :
    ∃ lost, (planFrom settings prune base).Reachable tree lost ∧
      ¬settings.Includes (RelativePath.text lost) := by
  induction path with
  | nil => exact absurd ScanPlan.reachesBy_nil hlost
  | cons name parent ih =>
      obtain ⟨hparent, hlists, hopens⟩ := ScanPlan.reachesBy_cons.1 h
      by_cases hreach : (planFrom settings prune base).Reachable tree parent
      · -- the directory itself is the one that is not entered
        refine ⟨parent, hreach, fun hincludes => hlost ?_⟩
        exact ScanPlan.reachesBy_cons.2 ⟨hreach, hlists, fun hne =>
          opens_prune_of_opens (hopens hne)
            (could_hold_of_includes hincludes (List.suffix_refl parent))⟩
      · exact ih hparent hreach

/-- Whether an entry is `Examinable` does not depend on `prune`. -/
theorem examinable_prune_iff :
    (planFrom settings prune base).Examinable tree path ↔
      (planFrom settings false base).Examinable tree path :=
  ⟨fun h => ⟨h.size_le, h.isIncluded_eq_ok, h.isExcluded_eq_ok⟩,
    fun h => ⟨h.size_le, h.isIncluded_eq_ok, h.isExcluded_eq_ok⟩⟩

/-! ## Both results -/

section Describes

variable {pruned full : ScanResult} (hpruned : (planFrom settings prune base).Describes tree pruned)
  (hfull : (planFrom settings false base).Describes tree full)

include hpruned hfull

/-- What is listed with pruning is listed without it, in each list: `pruned.list isDirectory c ⊆
full.list isDirectory c`. -/
theorem list_subset_of_describes (isDirectory : Bool) (c : Classification) :
    pruned.list isDirectory c ⊆ full.list isDirectory c := by
  intro name hname
  obtain ⟨path, hreach, htext, hkind, hclass⟩ := (hpruned.mem_list isDirectory c name).1 hname
  exact (hfull.mem_list isDirectory c name).2
    ⟨path, reachable_of_reachable_prune hreach, htext, hkind, hclass⟩

/-- What is `.included` or `.excluded` is listed with pruning as without it: `pruned.list
isDirectory c = full.list isDirectory c`. -/
theorem list_eq_of_describes (isDirectory : Bool) {c : Classification} (hc : c ≠ .notIncluded) :
    pruned.list isDirectory c = full.list isDirectory c := by
  refine eq_of_pairwise_of_mem_iff not_lt_of_text_lt (hpruned.ascending_list isDirectory c)
    (hfull.ascending_list isDirectory c) fun name => ⟨fun hname => ?_, fun hname => ?_⟩
  · exact list_subset_of_describes hpruned hfull isDirectory c hname
  · obtain ⟨path, hreach, rfl, hkind, hclass⟩ := (hfull.mem_list isDirectory c name).1 hname
    have hincludes := ScanSettings.includes_of_hasClass hclass hc
    exact (hpruned.mem_list isDirectory c _).2
      ⟨path, reachable_prune_of_includes hreach hincludes, rfl, hkind, hclass⟩

/-- If no list of `pruned` has the class `.notIncluded`, neither has one of `full`. -/
theorem list_notIncluded_eq_nil
    (hnone : ∀ isDirectory, pruned.list isDirectory .notIncluded = []) (isDirectory : Bool) :
    full.list isDirectory .notIncluded = [] := by
  have hincludes {path : RelativePath} (hreach : (planFrom settings prune base).Reachable tree path) :
      settings.Includes (RelativePath.text path) := by
    refine Classical.not_not.1 fun hnot => ?_
    have hmem := (hpruned.mem_list ((planFrom settings prune base).directoryAt tree path)
      .notIncluded (RelativePath.text path)).2
        ⟨path, hreach, rfl, ScanPlan.directoryAt_eq_true, hnot⟩
    rw [hnone] at hmem
    exact List.not_mem_nil hmem
  refine List.eq_nil_iff_forall_not_mem.2 fun name hname => ?_
  obtain ⟨path, hreach, rfl, -, hnot⟩ := (hfull.mem_list isDirectory .notIncluded name).1 hname
  by_cases hkept : (planFrom settings prune base).Reachable tree path
  · exact hnot (hincludes hkept)
  · obtain ⟨lost, hlost, hlostNot⟩ := exists_not_includes hreach hkept
    exact hlostNot (hincludes hlost)

/-- Both results say the same of `everythingIncluded`. -/
theorem everythingIncluded_eq_of_describes :
    pruned.everythingIncluded = full.everythingIncluded := by
  rw [Bool.eq_iff_iff, ScanResult.everythingIncluded_iff, ScanResult.everythingIncluded_iff]
  constructor
  · intro h isDirectory c hc
    by_cases hclass : c = .notIncluded
    · subst hclass
      exact list_notIncluded_eq_nil hpruned hfull
        (fun isDirectory => h isDirectory .notIncluded (by simp)) isDirectory
    · rw [← list_eq_of_describes hpruned hfull isDirectory hclass]
      exact h isDirectory c hc
  · intro h isDirectory c hc
    have hsubset := list_subset_of_describes hpruned hfull isDirectory c
    rw [h isDirectory c hc] at hsubset
    exact List.subset_nil.1 hsubset

/-- The warnings of `pruned` are some of those of `full`, in the same order. -/
theorem warnings_sublist_of_describes : pruned.warnings.Sublist full.warnings := by
  refine sublist_of_pairwise_of_subset (fun _ _ hab => hab.asymm)
    (List.pairwise_map.1 hpruned.precedes_warnings) (List.pairwise_map.1 hfull.precedes_warnings)
    fun warning hwarning => ?_
  obtain ⟨path, error, hreach, hopens, hlist, heq⟩ := (hpruned.mem_warnings warning).1 hwarning
  exact (hfull.mem_warnings warning).2 ⟨path, error, reachable_of_reachable_prune hreach,
    hopens.imp_right opens_of_opens_prune, hlist, heq⟩

/-- **Leaving out directories changes a result only in what is not included**: two results that
describe the scans with and without `prune` stand in the relation `PrunedFrom`. -/
theorem prunedFrom_of_describes : pruned.PrunedFrom full where
  list_eq isDirectory _ hc := list_eq_of_describes hpruned hfull isDirectory hc
  everythingIncluded_eq := everythingIncluded_eq_of_describes hpruned hfull
  notIncluded_subset isDirectory := list_subset_of_describes hpruned hfull isDirectory .notIncluded
  notFollowedLinks_subset := by
    intro name hname
    obtain ⟨path, hne, hreach, hpath⟩ := (hpruned.mem_notFollowedLinks name).1 hname
    exact (hfull.mem_notFollowedLinks name).2 ⟨path, hne, reachable_of_reachable_prune hreach, hpath⟩
  warnings_sublist := warnings_sublist_of_describes hpruned hfull

end Describes

/-! ## Both scans -/

variable {text : String}

/-- Both scans have results exactly if everything `Reachable` without `prune` is `Examinable`. -/
theorem exists_outcomes_iff (hbase : settings.basedir = some (.ofText text))
    (hcheck : checkBasedir tree settings.basedir = none) :
    (∃ pruned full, outcome settings true tree = .ok pruned ∧
        outcome settings false tree = .ok full) ↔
      ∀ path, (planFrom settings false (.ofText text)).Reachable tree path →
        (planFrom settings false (.ofText text)).Examinable tree path := by
  constructor
  · rintro ⟨pruned, full, -, hfull⟩
    exact (exists_outcome_eq_ok_iff hbase hcheck).1 ⟨full, hfull⟩
  · intro h
    obtain ⟨full, hfull⟩ := (exists_outcome_eq_ok_iff hbase hcheck).2 h
    obtain ⟨pruned, hpruned⟩ := (exists_outcome_eq_ok_iff hbase hcheck).2 fun path hreach =>
      examinable_prune_iff.2 (h path (reachable_of_reachable_prune hreach))
    exact ⟨pruned, full, hpruned, hfull⟩

/-- **Leaving out directories goes unnoticed** exactly if the scan that leaves none out gets
through: then both `outcome`s are results, and these stand in the relation `PrunedFrom`, so that
they differ only in what is not included. -/
theorem outcomes_prunedFrom_iff (hbase : settings.basedir = some (.ofText text))
    (hcheck : checkBasedir tree settings.basedir = none) :
    (∃ pruned full, outcome settings true tree = .ok pruned ∧
        outcome settings false tree = .ok full ∧ pruned.PrunedFrom full) ↔
      ∀ path, (planFrom settings false (.ofText text)).Reachable tree path →
        (planFrom settings false (.ofText text)).Examinable tree path := by
  rw [← exists_outcomes_iff hbase hcheck]
  constructor
  · rintro ⟨pruned, full, hpruned, hfull, -⟩
    exact ⟨pruned, full, hpruned, hfull⟩
  · rintro ⟨pruned, full, hpruned, hfull⟩
    exact ⟨pruned, full, hpruned, hfull, prunedFrom_of_describes
      (describes_outcome hbase hcheck hpruned) (describes_outcome hbase hcheck hfull)⟩

/-- Settings for a scan from the root whose only include pattern is `x`. -/
def rootSettingsForX : ScanSettings :=
  { rootSettings with includes := [.ofGlob ['x']] }

/-- Both scans of `smallTree` have results, though the one with `prune` does not enter the directory
`d`. -/
theorem outcomes_prunedFrom_smallTree :
    checkBasedir smallTree rootSettingsForX.basedir = none ∧
      ∃ pruned full, outcome rootSettingsForX true smallTree = .ok pruned ∧
        outcome rootSettingsForX false smallTree = .ok full ∧ pruned.PrunedFrom full := by
  have hcheck : checkBasedir smallTree rootSettingsForX.basedir = none := by decide +kernel
  have hisOk : (outcome rootSettingsForX false smallTree).isOk = true := by decide +kernel
  exact ⟨hcheck, (outcomes_prunedFrom_iff rfl hcheck).2
    ((exists_outcome_eq_ok_iff rfl hcheck).1 (exists_eq_ok_of_isOk hisOk))⟩

/-- Settings for a scan of `NestedTree.deepTree` whose only include pattern, `x`, matches nothing
there. -/
def shallowSettings : ScanSettings where
  basedir := some (.ofText NestedTree.longName.text)
  includes := [.ofGlob ['x']]
  useDefaultExcludes := false

/-- No directory of `NestedTree.deepTree` starts like what is included. -/
theorem not_opens_shallow {path : RelativePath} (hsuffix : [NestedTree.longName] <:+ path) :
    ¬(planFrom shallowSettings true base).Opens NestedTree.deepTree path := by
  intro hopens
  have hstart : Glob.matchStart .sensitive (Glob.tokenize (completeGlob ['x']))
      (Glob.tokenize NestedTree.longName.text.toList) = false := by decide +kernel
  rcases hopens.could_hold with hprune | hnil | ⟨p, hp, hmatch⟩
  · cases hprune
  · cases hnil
  · obtain rfl := List.mem_singleton.1 hp
    obtain ⟨rest, hsegments⟩ := RelativePath.exists_tokenize_text_eq_append hsuffix
    simp only [Pattern.ofGlob, Pattern.matchesStart, hsegments, RelativePath.text_singleton]
      at hmatch
    exact absurd (Glob.matchStart_of_append hmatch) (Bool.eq_false_iff.1 hstart)

/-- **Leaving out directories can hide a path that is too long**: on `NestedTree.deepTree` only the
scan with `prune` has a result. -/
theorem not_outcomes_prunedFrom_deepTree :
    checkBasedir NestedTree.deepTree shallowSettings.basedir = none ∧
      (∃ pruned, outcome shallowSettings true NestedTree.deepTree = .ok pruned) ∧
        ¬∃ full, outcome shallowSettings false NestedTree.deepTree = .ok full := by
  have hbase : shallowSettings.basedir = some (.ofText NestedTree.longName.text) := rfl
  have hincludes : ∀ p ∈ shallowSettings.includes, p.kind = .ant := by decide
  have hexcludes : ∀ p ∈ shallowSettings.effectiveExcludes, p.kind = .ant := by decide
  exact ⟨checkBasedir_deepTree hbase,
    exists_outcome_deepTree hbase hincludes hexcludes (not_opens_shallow (List.suffix_refl _)),
    not_exists_outcome_deepTree hbase rfl rfl rfl (.inl (Eq.refl false))⟩

end Scanner

end TreeSift
