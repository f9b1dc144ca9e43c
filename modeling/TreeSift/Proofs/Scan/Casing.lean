import TreeSift.Proofs.Glob.DeepWildcard
import TreeSift.Proofs.Scan.Specification

/-! # Telling upper case from lower case

A scan that does not tell upper case from lower case includes all that one includes that does, if all
include patterns are globs and nothing is excluded. It enters no fewer directories, so it may also come to
an entry that cannot be examined, and have no result for that reason
(`Scanner.outcomes_includesMore_iff`). -/

namespace TreeSift

/-! ## Patterns -/

namespace Pattern

variable {pattern : Pattern} {path : String}

/-- A glob whose `matchesPath .sensitive` is true matches in every `mode`. Its kind has to be
`.ant`: a negated set in a regular expression can lose matches. -/
theorem matchesPath_of_sensitive (mode : Glob.CaseMode) (hglob : pattern.kind = .ant)
    (h : pattern.matchesPath .sensitive path = .ok true) : pattern.matchesPath mode path = .ok true := by
  cases pattern with
  | ant source tokens =>
      rw [matchesPath, Except.ok.injEq] at h ⊢
      exact Glob.matchTokens_of_sensitive mode h
  | regex source expression => cases hglob

/-- What `matchesStart .sensitive` holds of could match something below a path in every `mode`. -/
theorem matchesStart_of_sensitive (mode : Glob.CaseMode)
    (h : pattern.matchesStart .sensitive path = true) : pattern.matchesStart mode path = true := by
  cases pattern with
  | ant source tokens => exact Glob.matchStart_of_sensitive mode h
  | regex source expression => rfl

end Pattern

namespace Scanner

variable {settings : ScanSettings} {prune : Bool} {tree : FileTree} {base : Path}
  {path : RelativePath}

/-- The `settings` with `caseSensitive` set to `sensitive`, and all else as it is. -/
def casing (settings : ScanSettings) (sensitive : Bool) : ScanSettings :=
  { settings with caseSensitive := sensitive }

/-! ## Both scans enter directories -/

/-- What `casing settings true` includes is included by `casing settings false` as well. -/
theorem includes_of_sensitive (hglobs : ∀ p ∈ settings.includes, p.kind = .ant) {name : String}
    (h : (casing settings true).Includes name) : (casing settings false).Includes name := by
  refine h.imp_right ?_
  rintro ⟨p, hp, hmatch⟩
  exact ⟨p, hp, Pattern.matchesPath_of_sensitive _ (hglobs p hp) hmatch⟩

/-- Without `excludes` and without the default ones, `Excludes` holds of no name, whatever
`sensitive` is. -/
theorem not_excludes_casing (hexcludes : settings.excludes = [])
    (hdefault : settings.useDefaultExcludes = false) (sensitive : Bool) (name : String) :
    ¬(casing settings sensitive).Excludes name := by
  simp [ScanSettings.Excludes, casing, hexcludes, hdefault]

/-- A directory that is open under `casing settings true` is open under `casing settings false`:
`Opens` asks `Includes` and `matchesStart`, and both grow. -/
theorem opens_of_sensitive (hexcludes : settings.excludes = [])
    (hdefault : settings.useDefaultExcludes = false)
    (h : (planFrom (casing settings true) prune base).Opens tree path) :
    (planFrom (casing settings false) prune base).Opens tree path where
  isDirectory := h.isDirectory
  not_excludes := not_excludes_casing hexcludes hdefault false _
  followLinks := h.followLinks
  could_hold := by
    refine h.could_hold.imp_right (Or.imp_right ?_)
    rintro ⟨p, hp, hstart⟩
    exact ⟨p, hp, Pattern.matchesStart_of_sensitive _ hstart⟩

/-- **What is reached when characters are compared strictly** is reached anyway: `Reachable` grows
with `Opens` at every directory on the way. -/
theorem reachable_of_sensitive (hexcludes : settings.excludes = [])
    (hdefault : settings.useDefaultExcludes = false)
    (h : (planFrom (casing settings true) prune base).Reachable tree path) :
    (planFrom (casing settings false) prune base).Reachable tree path where
  lists := h.lists
  opens name parent hsuffix hne := opens_of_sensitive hexcludes hdefault (h.opens name parent hsuffix hne)

/-- Whether an entry is `Examinable` does not depend on `casing`, as all patterns that are asked are
globs. -/
theorem examinable_casing_iff (hglobs : ∀ p ∈ settings.includes, p.kind = .ant)
    (hexcludes : settings.excludes = []) (hdefault : settings.useDefaultExcludes = false) :
    (planFrom (casing settings true) prune base).Examinable tree path ↔
      (planFrom (casing settings false) prune base).Examinable tree path := by
  have heffective (sensitive : Bool) : (casing settings sensitive).effectiveExcludes = [] := by
    simp [ScanSettings.effectiveExcludes, casing, hexcludes, hdefault]
  have hnone (sensitive : Bool) :
      ∀ p ∈ (planFrom (casing settings sensitive) prune base).settings.effectiveExcludes,
        p.kind = .ant := by
    intro p hp
    rw [show (planFrom (casing settings sensitive) prune base).settings = casing settings sensitive
      from rfl, heffective] at hp
    exact absurd hp List.not_mem_nil
  rw [ScanPlan.examinable_iff_of_ant hglobs (hnone true),
    ScanPlan.examinable_iff_of_ant hglobs (hnone false)]
  exact Iff.rfl

/-! ## Both results -/

/-- **What a scan that does not tell case apart owes to one that does**: each name in `strict.list
isDirectory .included` is in the list of `loose`. -/
def IncludesMore (strict loose : ScanResult) : Prop :=
  ∀ isDirectory, strict.list isDirectory .included ⊆ loose.list isDirectory .included

/-- **A looser comparison loses nothing** that is included: two results that describe the scans
under `casing settings true` and `false` satisfy `IncludesMore`. -/
theorem includesMore_of_describes (hglobs : ∀ p ∈ settings.includes, p.kind = .ant)
    (hexcludes : settings.excludes = []) (hdefault : settings.useDefaultExcludes = false)
    {strict loose : ScanResult}
    (hstrict : (planFrom (casing settings true) prune base).Describes tree strict)
    (hloose : (planFrom (casing settings false) prune base).Describes tree loose) :
    IncludesMore strict loose := by
  intro isDirectory name hname
  obtain ⟨path, hreach, rfl, hkind, hincludes, -⟩ :=
    (hstrict.mem_list isDirectory .included name).1 hname
  exact (hloose.mem_list isDirectory .included _).2
    ⟨path, reachable_of_sensitive hexcludes hdefault hreach, rfl, hkind,
      includes_of_sensitive hglobs hincludes, not_excludes_casing hexcludes hdefault false _⟩

/-! ## Both scans -/

variable {text : String}

/-- **Not telling case apart loses nothing** that globs include, as far as the scan gets through:
both scans have results that fit exactly if everything `Reachable` under `casing settings false` is
`Examinable`. -/
theorem outcomes_includesMore_iff (hglobs : ∀ p ∈ settings.includes, p.kind = .ant)
    (hexcludes : settings.excludes = []) (hdefault : settings.useDefaultExcludes = false)
    (hbase : settings.basedir = some (.ofText text))
    (hcheck : checkBasedir tree settings.basedir = none) :
    (∃ strict loose, outcome (casing settings true) prune tree = .ok strict ∧
        outcome (casing settings false) prune tree = .ok loose ∧ IncludesMore strict loose) ↔
      ∀ path, (planFrom (casing settings false) prune (.ofText text)).Reachable tree path →
        (planFrom (casing settings false) prune (.ofText text)).Examinable tree path := by
  have hbasedir (sensitive : Bool) : (casing settings sensitive).basedir = some (.ofText text) := hbase
  have hchecked (sensitive : Bool) : checkBasedir tree (casing settings sensitive).basedir = none :=
    hcheck
  have hscan : (∃ loose, outcome (casing settings false) prune tree = .ok loose) ↔ _ :=
    exists_outcome_eq_ok_iff (hbasedir false) (hchecked false)
  constructor
  · rintro ⟨strict, loose, -, hloose, -⟩
    exact hscan.1 ⟨loose, hloose⟩
  · intro h
    obtain ⟨loose, hloose⟩ := hscan.2 h
    -- whatever is reached with case counting is reached without, and can be examined then
    obtain ⟨strict, hstrict⟩ := (exists_outcome_eq_ok_iff (hbasedir true) (hchecked true)).2
      fun path hreach => (examinable_casing_iff hglobs hexcludes hdefault).2
        (h path (reachable_of_sensitive hexcludes hdefault hreach))
    exact ⟨strict, loose, hstrict, hloose, includesMore_of_describes hglobs hexcludes hdefault
      (describes_outcome (hbasedir true) (hchecked true) hstrict)
      (describes_outcome (hbasedir false) (hchecked false) hloose)⟩

/-- Settings for a scan from the root that includes what matches `*` or `D/*`. -/
def rootSettingsForD : ScanSettings :=
  { rootSettings with includes := [.ofGlob "*".toList, .ofGlob "D/*".toList] }

/-- Both scans of `smallTree` have results, and they satisfy `IncludesMore`: one includes the
directory, the other one also the file in it. -/
theorem outcomes_includesMore_smallTree :
    (∀ p ∈ rootSettingsForD.includes, p.kind = .ant) ∧ rootSettingsForD.excludes = [] ∧
      rootSettingsForD.useDefaultExcludes = false ∧
        checkBasedir smallTree rootSettingsForD.basedir = none ∧
          ∃ strict loose, outcome (casing rootSettingsForD true) true smallTree = .ok strict ∧
            outcome (casing rootSettingsForD false) true smallTree = .ok loose ∧
              IncludesMore strict loose := by
  have hglobs : ∀ p ∈ rootSettingsForD.includes, p.kind = .ant := by decide
  have hbase : rootSettingsForD.basedir = some (.ofText "/") := rfl
  have hbase' : (casing rootSettingsForD false).basedir = some (.ofText "/") := rfl
  have hcheck : checkBasedir smallTree rootSettingsForD.basedir = none := by decide +kernel
  have hcheck' : checkBasedir smallTree (casing rootSettingsForD false).basedir = none := hcheck
  have hnone : ∀ p ∈ (casing rootSettingsForD false).effectiveExcludes, p.kind = .ant := by decide
  exact ⟨hglobs, rfl, rfl, hcheck, (outcomes_includesMore_iff hglobs rfl rfl hbase hcheck).2
    ((exists_outcome_eq_ok_iff hbase' hcheck').1 (exists_outcome_smallTree hbase' hglobs hnone))⟩

/-! ## A directory that only one of them enters -/

/-- Settings for a scan of `NestedTree.deepTree` that includes what is in its base directory, and what is
below directories whose names start with a capital D. -/
def capitalSettings : ScanSettings where
  basedir := some (.ofText NestedTree.longName.text)
  includes := [.ofGlob "*".toList, .ofGlob "D*/**".toList]
  useDefaultExcludes := false

/-- The name `longName` holds no separator, so that `tokenize` leaves it whole. -/
theorem tokenize_longName :
    Glob.tokenize NestedTree.longName.text.toList = [NestedTree.longName.text.toList] := by
  decide +kernel

/-- The directory in the base directory is included under `casing capitalSettings true`: it matches
`*`. -/
theorem longName_mem_included {strict : ScanResult}
    (h : (planFrom (casing capitalSettings true) true (.ofText NestedTree.longName.text)).Describes
      NestedTree.deepTree strict) : NestedTree.longName.text ∈ strict.list true .included := by
  have hplan : (planFrom (casing capitalSettings true) true (.ofText NestedTree.longName.text)).base =
      .ofText NestedTree.longName.text := rfl
  have hsize := Nat.le_of_eq NestedTree.utf8ByteSize_text_placeOf_longName
  have hlists := (NestedTree.lists_iff NestedTree.leafName_ne_longName hplan hsize
    (Nat.zero_le 63)).2 rfl
  have hdirectory := NestedTree.isDirectory_place NestedTree.leafName_ne_longName hplan hsize
    (show 1 ≤ 63 by decide)
  have hmatches : Pattern.matchesPath (.ofGlob "*".toList) .sensitive NestedTree.longName.text =
      .ok true := by
    decide +kernel
  refine (h.mem_list true .included _).2 ⟨[NestedTree.longName],
    ScanPlan.reachable_cons.2 ⟨ScanPlan.reachesBy_nil, hlists, fun hne => absurd rfl hne⟩,
    RelativePath.text_singleton _, iff_of_true rfl hdirectory,
    .inr ⟨.ofGlob "*".toList, List.mem_cons_self, hmatches⟩, not_excludes_casing rfl rfl true _⟩

/-- The directory one level further down does not match `D*/**` strictly, and nothing below it
could: it is not `Opens`. -/
theorem not_opens_capital : ¬(planFrom (casing capitalSettings true) true base).Opens
    NestedTree.deepTree (List.replicate 2 NestedTree.longName) := by
  intro hopens
  have hstar : Pattern.matchesStart (.ofGlob "*".toList) .sensitive
      (RelativePath.text (List.replicate 2 NestedTree.longName)) = false := by
    decide +kernel
  have hcapital : Pattern.matchesStart (.ofGlob "D*/**".toList) .sensitive
      (RelativePath.text (List.replicate 2 NestedTree.longName)) = false := by
    decide +kernel
  rcases hopens.could_hold with hprune | hnil | ⟨p, hp, hstart⟩
  · cases hprune
  · cases hnil
  · rcases List.mem_cons.1 hp with rfl | hp
    · exact absurd hstart (Bool.eq_false_iff.1 hstar)
    · obtain rfl := List.mem_singleton.1 hp
      exact absurd hstart (Bool.eq_false_iff.1 hcapital)

/-- What starts with `longName` starts like `D*/**` if `d` and `D` count as the same character. -/
theorem matchesStart_capital (hsuffix : [NestedTree.longName] <:+ path) :
    Pattern.matchesStart (.ofGlob "D*/**".toList) .insensitive (RelativePath.text path) = true := by
  have htokens : Glob.tokenize (completeGlob "D*/**".toList) = ["D*".toList, Glob.deepWildcard] := by
    decide +kernel
  have hname : NestedTree.longName.text.toList = 'd' :: (List.replicate 62 'd' ++ []) := by
    decide +kernel
  have hcapital : Glob.charMatches .insensitive 'D' 'd' = true := by decide +kernel
  have hsegment : Glob.matchSegment .insensitive "D*".toList NestedTree.longName.text.toList = true := by
    rw [hname]
    exact Glob.matchSegment_of_matches
      (.char (by decide) hcapital ((Glob.SegmentMatches.starEmpty .nil).star_append _))
  obtain ⟨rest, hsegments⟩ := RelativePath.exists_tokenize_text_eq_append hsuffix
  rw [RelativePath.text_singleton, tokenize_longName] at hsegments
  rw [Pattern.ofGlob, Pattern.matchesStart, hsegments, htokens, List.singleton_append,
    Glob.matchStart, if_neg (by decide), if_pos hsegment]
  cases rest <;> rfl

/-- All directories of `deepTree` are open under `casing capitalSettings false`, down to where the
path text is too long. -/
theorem opens_capital (hsuffix : [NestedTree.longName] <:+ path)
    (hdirectory : NestedTree.deepTree.isDirectory
      ((planFrom (casing capitalSettings false) true base).place path) = .ok true) :
    (planFrom (casing capitalSettings false) true base).Opens NestedTree.deepTree path where
  isDirectory := hdirectory
  not_excludes := not_excludes_casing rfl rfl false _
  followLinks _ := rfl
  could_hold := .inr (.inr ⟨.ofGlob "D*/**".toList, List.mem_cons_of_mem _ List.mem_cons_self,
    matchesStart_capital hsuffix⟩)

/-- **Not telling case apart can lead to a path that is too long**: on `deepTree` the scan under
`casing capitalSettings true` includes a directory, and the other one has no result. -/
theorem not_outcomes_includesMore_deepTree :
    (∀ p ∈ capitalSettings.includes, p.kind = .ant) ∧ capitalSettings.excludes = [] ∧
      capitalSettings.useDefaultExcludes = false ∧
        checkBasedir NestedTree.deepTree capitalSettings.basedir = none ∧
          (∃ strict, outcome (casing capitalSettings true) true NestedTree.deepTree = .ok strict ∧
            NestedTree.longName.text ∈ strict.list true .included) ∧
              ¬∃ loose, outcome (casing capitalSettings false) true NestedTree.deepTree =
                .ok loose := by
  have hglobs : ∀ p ∈ capitalSettings.includes, p.kind = .ant := by decide
  have hbase (sensitive : Bool) : (casing capitalSettings sensitive).basedir =
      some (.ofText NestedTree.longName.text) := rfl
  have hcheck := checkBasedir_deepTree (hbase true)
  have hnone : ∀ p ∈ (casing capitalSettings true).effectiveExcludes, p.kind = .ant := by decide
  obtain ⟨strict, hstrict⟩ := exists_outcome_deepTree_of_shut (hbase true) hglobs hnone
    (by decide) (by decide) not_opens_capital
  exact ⟨hglobs, rfl, rfl, hcheck,
    ⟨strict, hstrict, longName_mem_included (describes_outcome (hbase true) hcheck hstrict)⟩,
    not_exists_outcome_deepTree_of_opens (hbase false) fun _ => opens_capital⟩

end Scanner

end TreeSift
