import TreeSift.Proofs.Scan.Specification

/-! # Excluding more

Further exclude patterns take away from a scan what they match, and everything below a directory
that they match (`Scanner.outcomes_excludesMore_iff`). The base directory is entered even if they
match it. -/

namespace TreeSift

open TreeSift.Glob (CaseMode)

/-- Whether a pattern matches a path can be found out by running `matchesPath`. -/
instance decidableMatchesPath (p : Pattern) (mode : CaseMode) (path : String) :
    Decidable (p.matchesPath mode path = .ok true) :=
  match p.matchesPath mode path with
  | .ok true => isTrue rfl
  | .ok false => isFalse fun h => nomatch h
  | .error _ => isFalse fun h => nomatch h

namespace PatternList

/-- Whether some pattern of the list gives `true` on a relative path. -/
def Matches (patterns : PatternList) (mode : CaseMode) (path : String) : Prop :=
  ∃ p ∈ patterns, p.matchesPath mode path = .ok true

instance decidableMatches (patterns : PatternList) (mode : CaseMode) (path : String) :
    Decidable (patterns.Matches mode path) :=
  inferInstanceAs (Decidable (∃ p ∈ patterns, p.matchesPath mode path = .ok true))

/-- **What the patterns spare**: none of them `Matches` a directory between the base directory and
the path. -/
def Spares (patterns : PatternList) (mode : CaseMode) (path : String) : Prop :=
  RelativePath.Clear (fun ancestor => patterns.Matches mode (RelativePath.text ancestor))
    (RelativePath.ofText path)

instance decidableSpares (patterns : PatternList) (mode : CaseMode) (path : String) :
    Decidable (patterns.Spares mode path) :=
  inferInstanceAs (Decidable (RelativePath.Clear
    (fun ancestor => patterns.Matches mode (RelativePath.text ancestor)) (RelativePath.ofText path)))

end PatternList

/-! ## More exclude patterns -/

/-- **Settings that exclude more**: `more` has the exclude patterns of `settings` and of `added`,
and is the same otherwise. -/
structure ScanSettings.AddsExcludes (settings more : ScanSettings) (added : PatternList) : Prop where
  /-- A scan starts from the same base directory. -/
  basedir_eq : more.basedir = settings.basedir
  /-- The include patterns are the same. -/
  includes_eq : more.includes = settings.includes
  /-- The exclude patterns in use are those in use before, and the further ones. -/
  mem_effectiveExcludes : ∀ p,
    p ∈ more.effectiveExcludes ↔ p ∈ settings.effectiveExcludes ∨ p ∈ added
  /-- Upper case and lower case are told apart as before. -/
  caseSensitive_eq : more.caseSensitive = settings.caseSensitive
  /-- Links are followed as before. -/
  followLinks_eq : more.followLinks = settings.followLinks

namespace ScanSettings

variable {settings more : ScanSettings} {added : PatternList} {path : String}

/-- Exclude patterns can be appended to those given. -/
theorem addsExcludes_append (settings : ScanSettings) (added : PatternList) :
    settings.AddsExcludes { settings with excludes := settings.excludes ++ added } added where
  basedir_eq := rfl
  includes_eq := rfl
  mem_effectiveExcludes p := by
    simp only [effectiveExcludes]
    split
    · simp only [List.mem_append, or_right_comm]
    · exact List.mem_append
  caseSensitive_eq := rfl
  followLinks_eq := rfl

namespace AddsExcludes

variable (h : settings.AddsExcludes more added)

include h

/-- Characters are compared as before: `AddsExcludes` leaves the `mode` alone. -/
theorem mode_eq : more.mode = settings.mode := by
  rw [mode, mode, h.caseSensitive_eq]

/-- The same is included: `AddsExcludes` leaves the include patterns alone. -/
theorem includes_iff : more.Includes path ↔ settings.Includes path := by
  rw [Includes, Includes, h.includes_eq, h.mode_eq]

/-- What `added` matches is excluded too, besides what was. -/
theorem excludes_iff :
    more.Excludes path ↔ settings.Excludes path ∨ added.Matches settings.mode path := by
  rw [excludes_iff_exists, excludes_iff_exists, PatternList.Matches, h.mode_eq, ← exists_or]
  refine exists_congr fun p => ?_
  rw [h.mem_effectiveExcludes, or_and_right]

/-- A path that none of `added` matches keeps its class. -/
theorem hasClass_iff (hnone : ¬added.Matches settings.mode path) (c : Classification) :
    more.HasClass path c ↔ settings.HasClass path c := by
  have hexcludes : more.Excludes path ↔ settings.Excludes path :=
    h.excludes_iff.trans (or_iff_left hnone)
  cases c <;> simp only [HasClass, h.includes_iff, hexcludes]

end AddsExcludes

end ScanSettings

namespace Scanner

variable {settings more : ScanSettings} {added : PatternList} {prune : Bool} {tree : FileTree}
  {base : Path} {path : RelativePath}

/-- A directory is open for `more` exactly if it was and none of `added` matches its path. -/
theorem opens_more_iff (h : settings.AddsExcludes more added) :
    (planFrom more prune base).Opens tree path ↔
      (planFrom settings prune base).Opens tree path ∧
        ¬added.Matches settings.mode (RelativePath.text path) := by
  constructor
  · intro hopens
    have hnot := mt h.excludes_iff.2 hopens.not_excludes
    refine ⟨⟨hopens.isDirectory, fun hexcludes => hnot (.inl hexcludes), ?_, ?_⟩, fun hmatches =>
      hnot (.inr hmatches)⟩
    · exact fun hlink => h.followLinks_eq ▸ hopens.followLinks hlink
    · have hcould := hopens.could_hold
      simp only [planFrom, plan, ofSettings, h.includes_eq, h.mode_eq] at hcould
      exact hcould
  · rintro ⟨hopens, hnone⟩
    refine ⟨hopens.isDirectory, fun hexcludes => ?_, fun hlink => ?_, ?_⟩
    · exact (h.excludes_iff.1 hexcludes).elim hopens.not_excludes hnone
    · exact h.followLinks_eq.trans (hopens.followLinks hlink)
    · have hcould := hopens.could_hold
      simp only [planFrom, plan, ofSettings, ← h.includes_eq, ← h.mode_eq] at hcould
      exact hcould

/-- **With further exclude patterns one reaches what they spare**: `Reachable` for `more` is
`Reachable` before and `Spares` on the path. -/
theorem reachable_more_iff (h : settings.AddsExcludes more added) :
    (planFrom more prune base).Reachable tree path ↔
      (planFrom settings prune base).Reachable tree path ∧
        added.Spares settings.mode (RelativePath.text path) := by
  have hbase : (planFrom more prune base).base = (planFrom settings prune base).base := rfl
  rw [PatternList.Spares, RelativePath.ofText_text]
  exact ScanPlan.reachable_iff_clear hbase fun _ => opens_more_iff h

/-! ## Both results -/

/-- **What a scan with further exclude patterns owes to one without them**: each list of `after` in
terms of the lists of `before`. -/
structure ExcludesMore (settings : ScanSettings) (added : PatternList) (before after : ScanResult) :
    Prop where
  /-- It includes what was included, unless the further patterns match it or do not spare it. -/
  included_eq : ∀ isDirectory, after.list isDirectory .included =
    (before.list isDirectory .included).filter fun name =>
      decide (¬added.Matches settings.mode name ∧ added.Spares settings.mode name)
  /-- It excludes what was included or excluded, if some exclude pattern matches it and the further
  ones spare it. -/
  mem_excluded : ∀ isDirectory name, name ∈ after.list isDirectory .excluded ↔
    (name ∈ before.list isDirectory .included ∨ name ∈ before.list isDirectory .excluded) ∧
      (settings.Excludes name ∨ added.Matches settings.mode name) ∧
        added.Spares settings.mode name
  /-- That is in order, and nothing is there twice. -/
  ascending_excluded : ∀ isDirectory, (after.list isDirectory .excluded).Pairwise (· < ·)
  /-- What is not included stays so, if the further patterns spare it. -/
  notIncluded_eq : ∀ isDirectory, after.list isDirectory .notIncluded =
    (before.list isDirectory .notIncluded).filter fun name =>
      decide (added.Spares settings.mode name)
  /-- The links not followed stay so, if the further patterns spare them. -/
  notFollowedLinks_eq : after.notFollowedLinks =
    before.notFollowedLinks.filter fun name => decide (added.Spares settings.mode name)
  /-- If the further patterns match nothing that was found, nothing is changed. -/
  eq_of_not_matches : (∀ isDirectory c, ∀ name ∈ before.list isDirectory c,
    ¬added.Matches settings.mode name) → after = before

section Describes

variable {before after : ScanResult} (h : settings.AddsExcludes more added)
  (hbefore : (planFrom settings prune base).Describes tree before)
  (hafter : (planFrom more prune base).Describes tree after)

include h hbefore hafter

/-- What is still included is what `added` neither matches nor hides, by a filter on the list that
was. -/
theorem included_eq_filter (isDirectory : Bool) :
    after.list isDirectory .included = (before.list isDirectory .included).filter fun name =>
      decide (¬added.Matches settings.mode name ∧ added.Spares settings.mode name) := by
  refine eq_filter_of_mem_iff (hafter.ascending_list isDirectory _)
    (hbefore.ascending_list isDirectory _) fun name => ?_
  rw [hafter.mem_list, hbefore.mem_list]
  constructor
  · rintro ⟨path, hreach, rfl, hkind, hincludes, hexcludes⟩
    obtain ⟨hreach, hspares⟩ := (reachable_more_iff h).1 hreach
    obtain ⟨hnot, hnone⟩ := not_or.1 (mt h.excludes_iff.2 hexcludes)
    exact ⟨⟨path, hreach, rfl, hkind, h.includes_iff.1 hincludes, hnot⟩, hnone, hspares⟩
  · rintro ⟨⟨path, hreach, rfl, hkind, hincludes, hnot⟩, hnone, hspares⟩
    exact ⟨path, (reachable_more_iff h).2 ⟨hreach, hspares⟩, rfl, hkind, h.includes_iff.2 hincludes,
      mt h.excludes_iff.1 (not_or.2 ⟨hnot, hnone⟩)⟩

/-- What is excluded now was included or excluded before, is excluded by `settings` or `added`, and
is spared. -/
theorem mem_excluded_iff (isDirectory : Bool) (name : String) :
    name ∈ after.list isDirectory .excluded ↔
      (name ∈ before.list isDirectory .included ∨ name ∈ before.list isDirectory .excluded) ∧
        (settings.Excludes name ∨ added.Matches settings.mode name) ∧
          added.Spares settings.mode name := by
  rw [hafter.mem_list, hbefore.mem_list, hbefore.mem_list]
  constructor
  · rintro ⟨path, hreach, rfl, hkind, hincludes, hexcludes⟩
    obtain ⟨hreach, hspares⟩ := (reachable_more_iff h).1 hreach
    have hincludes := h.includes_iff.1 hincludes
    refine ⟨?_, h.excludes_iff.1 hexcludes, hspares⟩
    by_cases hexcluded : settings.Excludes (RelativePath.text path)
    · exact .inr ⟨path, hreach, rfl, hkind, hincludes, hexcluded⟩
    · exact .inl ⟨path, hreach, rfl, hkind, hincludes, hexcluded⟩
  · rintro ⟨⟨path, hreach, rfl, hkind, hincludes, -⟩ | ⟨path, hreach, rfl, hkind, hincludes, -⟩,
      hexcludes, hspares⟩ <;>
    exact ⟨path, (reachable_more_iff h).2 ⟨hreach, hspares⟩, rfl, hkind, h.includes_iff.2 hincludes,
      h.excludes_iff.2 hexcludes⟩

/-- What is not included stays so, unless `added` hides it. -/
theorem notIncluded_eq_filter (isDirectory : Bool) :
    after.list isDirectory .notIncluded = (before.list isDirectory .notIncluded).filter fun name =>
      decide (added.Spares settings.mode name) := by
  refine eq_filter_of_mem_iff (hafter.ascending_list isDirectory _)
    (hbefore.ascending_list isDirectory _) fun name => ?_
  rw [hafter.mem_list, hbefore.mem_list]
  constructor
  · rintro ⟨path, hreach, rfl, hkind, hnot⟩
    obtain ⟨hreach, hspares⟩ := (reachable_more_iff h).1 hreach
    exact ⟨⟨path, hreach, rfl, hkind, mt h.includes_iff.2 hnot⟩, hspares⟩
  · rintro ⟨⟨path, hreach, rfl, hkind, hnot⟩, hspares⟩
    exact ⟨path, (reachable_more_iff h).2 ⟨hreach, hspares⟩, rfl, hkind, mt h.includes_iff.1 hnot⟩

/-- Links stay not followed, unless `added` hides them. -/
theorem notFollowedLinks_eq_filter :
    after.notFollowedLinks = before.notFollowedLinks.filter fun name =>
      decide (added.Spares settings.mode name) := by
  refine eq_filter_of_mem_iff hafter.ascending_notFollowedLinks
    hbefore.ascending_notFollowedLinks fun name => ?_
  rw [hafter.mem_notFollowedLinks, hbefore.mem_notFollowedLinks]
  constructor
  · rintro ⟨path, hne, hreach, rfl, hdirectory, hlink, hfollow⟩
    obtain ⟨hreach, hspares⟩ := (reachable_more_iff h).1 hreach
    exact ⟨⟨path, hne, hreach, rfl, hdirectory, hlink, h.followLinks_eq.symm.trans hfollow⟩, hspares⟩
  · rintro ⟨⟨path, hne, hreach, rfl, hdirectory, hlink, hfollow⟩, hspares⟩
    exact ⟨path, hne, (reachable_more_iff h).2 ⟨hreach, hspares⟩, rfl, hdirectory, hlink,
      h.followLinks_eq.trans hfollow⟩

/-- **Patterns that match nothing that was found change nothing**: then `after = before`. -/
theorem eq_of_not_matches (hnone : ∀ isDirectory c, ∀ name ∈ before.list isDirectory c,
    ¬added.Matches settings.mode name) : after = before := by
  have hmatches {path : RelativePath} (hreach : (planFrom settings prune base).Reachable tree path) :
      ¬added.Matches settings.mode (RelativePath.text path) := by
    obtain ⟨c, hclass⟩ := settings.exists_hasClass (RelativePath.text path)
    exact hnone _ c _ ((hbefore.mem_list ((planFrom settings prune base).directoryAt tree path) c _).2
      ⟨path, hreach, rfl, ScanPlan.directoryAt_eq_true, hclass⟩)
  have hreachable (path : RelativePath) : (planFrom more prune base).Reachable tree path ↔
      (planFrom settings prune base).Reachable tree path := by
    refine (reachable_more_iff h).trans (and_iff_left_of_imp fun hreach => ?_)
    rw [PatternList.Spares, RelativePath.ofText_text]
    exact fun ancestor hsuffix _ _ => hmatches (hreach.of_suffix hsuffix)
  have hbase : (planFrom more prune base).base = (planFrom settings prune base).base := rfl
  -- so the new result is as the old one has to be
  have hdescribes : (planFrom settings prune base).Describes tree after :=
    hafter.of_agrees hbase h.followLinks_eq hreachable
      (fun path hreach => (opens_more_iff h).trans (and_iff_left (hmatches hreach)))
      fun path hreach c => h.hasClass_iff (hmatches hreach) c
  exact hdescribes.unique hbefore

/-- **Further exclude patterns only cut away**: two results that describe the scans without and with
them stand in the relation `ExcludesMore`. -/
theorem excludesMore_of_describes : ExcludesMore settings added before after where
  included_eq := included_eq_filter h hbefore hafter
  mem_excluded := mem_excluded_iff h hbefore hafter
  ascending_excluded isDirectory := hafter.ascending_list isDirectory .excluded
  notIncluded_eq := notIncluded_eq_filter h hbefore hafter
  notFollowedLinks_eq := notFollowedLinks_eq_filter h hbefore hafter
  eq_of_not_matches := eq_of_not_matches h hbefore hafter

end Describes

/-! ## Both scans -/

variable {text : String}

/-- **Excludes cut subtrees away**, if both scans get through: then both `outcome`s are results, and
what the further exclude patterns match or do not spare is all that is changed (`ExcludesMore`). -/
theorem outcomes_excludesMore_iff (h : settings.AddsExcludes more added)
    (hbase : settings.basedir = some (.ofText text))
    (hcheck : checkBasedir tree settings.basedir = none) :
    (∃ before after, outcome settings prune tree = .ok before ∧ outcome more prune tree = .ok after ∧
        ExcludesMore settings added before after) ↔
      (∀ path, (planFrom settings prune (.ofText text)).Reachable tree path →
        (planFrom settings prune (.ofText text)).Examinable tree path) ∧
        ∀ path, (planFrom more prune (.ofText text)).Reachable tree path →
          (planFrom more prune (.ofText text)).Examinable tree path := by
  have hbase' : more.basedir = some (.ofText text) := h.basedir_eq.trans hbase
  have hcheck' : checkBasedir tree more.basedir = none := h.basedir_eq ▸ hcheck
  rw [← exists_outcome_eq_ok_iff hbase hcheck, ← exists_outcome_eq_ok_iff hbase' hcheck']
  constructor
  · rintro ⟨before, after, hbefore, hafter, -⟩
    exact ⟨⟨before, hbefore⟩, after, hafter⟩
  · rintro ⟨⟨before, hbefore⟩, after, hafter⟩
    exact ⟨before, after, hbefore, hafter, excludesMore_of_describes h
      (describes_outcome hbase hcheck hbefore) (describes_outcome hbase' hcheck' hafter)⟩

/-- Settings for a scan from the root that excludes the directory `d`. -/
def rootSettingsWithoutD : ScanSettings :=
  { rootSettings with excludes := rootSettings.excludes ++ [.ofGlob ['d']] }

/-- Both scans of `smallTree` have results, though the one with the exclude pattern does not enter
`d`. -/
theorem outcomes_excludesMore_smallTree :
    rootSettings.AddsExcludes rootSettingsWithoutD [.ofGlob ['d']] ∧
      checkBasedir smallTree rootSettings.basedir = none ∧
        ∃ before after, outcome rootSettings true smallTree = .ok before ∧
          outcome rootSettingsWithoutD true smallTree = .ok after ∧
            ExcludesMore rootSettings [.ofGlob ['d']] before after := by
  have hadds := rootSettings.addsExcludes_append [.ofGlob ['d']]
  have hbase : rootSettings.basedir = some (.ofText "/") := rfl
  have hbase' : rootSettingsWithoutD.basedir = some (.ofText "/") := rfl
  have hcheck : checkBasedir smallTree rootSettings.basedir = none := by decide +kernel
  have hcheck' : checkBasedir smallTree rootSettingsWithoutD.basedir = none := hcheck
  have hbefore : (outcome rootSettings true smallTree).isOk = true := by decide +kernel
  have hafter : (outcome rootSettingsWithoutD true smallTree).isOk = true := by decide +kernel
  exact ⟨hadds, hcheck, (outcomes_excludesMore_iff hadds hbase hcheck).2
    ⟨(exists_outcome_eq_ok_iff hbase hcheck).1 (exists_eq_ok_of_isOk hbefore),
      (exists_outcome_eq_ok_iff hbase' hcheck').1 (exists_eq_ok_of_isOk hafter)⟩⟩

/-- The pattern of `longName` itself, which matches the directory in the base directory of
`deepTree`. -/
def longNamePattern : Pattern :=
  .ofGlob NestedTree.longName.text.toList

/-- Settings for a scan of `NestedTree.deepTree` that excludes the directory in its base directory. -/
def cutSettings : ScanSettings :=
  { deepSettings with excludes := deepSettings.excludes ++ [longNamePattern] }

/-- The directory in the base directory is not open for `cutSettings`. -/
theorem not_opens_cut : ¬(planFrom cutSettings true base).Opens NestedTree.deepTree
    [NestedTree.longName] := by
  intro hopens
  have hmatches : longNamePattern.matchesPath cutSettings.mode NestedTree.longName.text =
      .ok true := by decide +kernel
  refine hopens.not_excludes (.inl ⟨longNamePattern, List.mem_singleton.2 rfl, ?_⟩)
  rw [RelativePath.text_singleton]
  exact hmatches

/-- **An exclude pattern can hide a path that is too long**: on `NestedTree.deepTree` only the scan
with `longNamePattern` has a result. -/
theorem not_outcomes_excludesMore_deepTree :
    deepSettings.AddsExcludes cutSettings [longNamePattern] ∧
      checkBasedir NestedTree.deepTree deepSettings.basedir = none ∧
        (∃ after, outcome cutSettings true NestedTree.deepTree = .ok after) ∧
          ¬∃ before, outcome deepSettings true NestedTree.deepTree = .ok before := by
  have hincludes : ∀ p ∈ cutSettings.includes, p.kind = .ant := by decide
  have hexcludes : ∀ p ∈ cutSettings.effectiveExcludes, p.kind = .ant := by decide
  have hafter := exists_outcome_deepTree rfl hincludes hexcludes not_opens_cut
  exact ⟨deepSettings.addsExcludes_append [longNamePattern], checkBasedir_deepTree rfl, hafter,
    not_exists_outcome_deepTree rfl rfl rfl rfl (.inr rfl)⟩

end Scanner

end TreeSift
