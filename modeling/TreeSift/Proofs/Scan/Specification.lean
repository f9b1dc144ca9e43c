import TreeSift.Proofs.Results
import TreeSift.Proofs.Scan.Nested

/-! # What a scan computes

`ScanPlan.Describes` says what the result of a scan has to be, in terms of what is reachable and of
what the settings select. A scan without a conductor has a result exactly if everything reachable
can be examined, and its result is then the one described (`outcome_eq_ok_iff_describes`). -/

namespace TreeSift

/-! ## Lists in order -/

/-- Sorted texts of which none comes twice ascend: `sortTexts` sorts by `≤`, and none is equal to
the next. -/
theorem pairwise_sortTexts {texts : List String} (h : texts.Nodup) :
    (sortTexts texts).Pairwise (· < ·) := by
  have hsorted : (sortTexts texts).Pairwise fun a b => decide (a ≤ b) = true := by
    refine List.pairwise_mergeSort (fun a b c hab hbc => ?_) (fun a b => ?_) texts
    · rw [decide_eq_true_eq] at hab hbc ⊢
      exact String.le_trans hab hbc
    · rw [Bool.or_eq_true, decide_eq_true_eq, decide_eq_true_eq]
      exact String.le_total a b
  -- sorted and distinct, so strictly ascending
  have hnodup : (sortTexts texts).Nodup := (List.mergeSort_perm ..).nodup_iff.2 h
  refine hsorted.imp₂ (fun a b hle hne => ?_) hnodup
  rw [decide_eq_true_eq] at hle
  exact String.not_le.1 fun hge => hne (String.le_antisymm hle hge)

/-- Lists in the same strict order with the same members are equal: `before` leaves one order for
them. -/
theorem eq_of_pairwise_of_mem_iff {α : Type} {before : α → α → Prop}
    (hasymm : ∀ a b, before a b → ¬before b a) {xs ys : List α} (hxs : xs.Pairwise before)
    (hys : ys.Pairwise before) (hmem : ∀ x, x ∈ xs ↔ x ∈ ys) : xs = ys := by
  have hne {a b : α} (hbefore : before a b) : a ≠ b := fun h =>
    hasymm a b hbefore (h ▸ h ▸ hbefore)
  have hperm : xs.Perm ys := (List.perm_ext_iff_of_nodup (hxs.imp hne) (hys.imp hne)).2 hmem
  exact hperm.eq_of_pairwise (fun a b _ _ hab hba => absurd hba (hasymm a b hab)) hxs hys

/-- Of lists in the same strict order, one with fewer members is a sublist: `xs ⊆ ys` is enough. -/
theorem sublist_of_pairwise_of_subset {α : Type} [DecidableEq α] {before : α → α → Prop}
    (hasymm : ∀ a b, before a b → ¬before b a) {xs ys : List α} (hxs : xs.Pairwise before)
    (hys : ys.Pairwise before) (hsubset : ∀ x ∈ xs, x ∈ ys) : xs.Sublist ys := by
  -- what remains of the longer list has the same members in the same order
  have heq : xs = ys.filter (· ∈ xs) := by
    refine eq_of_pairwise_of_mem_iff hasymm hxs (hys.sublist List.filter_sublist) fun x => ?_
    rw [List.mem_filter, decide_eq_true_eq]
    exact ⟨fun hx => ⟨hsubset x hx, hx⟩, fun hx => hx.2⟩
  rw [heq]
  exact List.filter_sublist

/-- No text comes both before and after another one: `<` on texts is asymmetric. -/
theorem not_lt_of_text_lt (a b : String) (h : a < b) : ¬b < a := fun hba =>
  String.lt_irrefl a (String.lt_trans h hba)

/-- Ascending texts with the members of `ys` that satisfy `p` are `ys` filtered by `p`. -/
theorem eq_filter_of_mem_iff {xs ys : List String} {p : String → Prop} [DecidablePred p]
    (hxs : xs.Pairwise (· < ·)) (hys : ys.Pairwise (· < ·))
    (hmem : ∀ text, text ∈ xs ↔ text ∈ ys ∧ p text) :
    xs = ys.filter fun text => decide (p text) := by
  refine eq_of_pairwise_of_mem_iff not_lt_of_text_lt hxs (hys.sublist List.filter_sublist)
    fun text => ?_
  rw [List.mem_filter, decide_eq_true_eq, hmem]

/-! ## The lists of a result -/

/-- Everything is included exactly if nothing is in the lists of the classes other than `.included`.
-/
theorem ScanResult.everythingIncluded_iff (result : ScanResult) :
    result.everythingIncluded = true ↔
      ∀ isDirectory c, c ≠ .included → result.list isDirectory c = [] := by
  constructor
  · intro h isDirectory c hc
    simp only [everythingIncluded, Bool.and_eq_true, List.isEmpty_iff] at h
    obtain ⟨⟨⟨hexcludedFiles, hexcluded⟩, hfiles⟩, hdirectories⟩ := h
    cases c with
    | included => exact absurd rfl hc
    | excluded => cases isDirectory <;> assumption
    | notIncluded => cases isDirectory <;> assumption
  · intro h
    have hlist (isDirectory : Bool) (c : Classification) (hc : c ≠ .included) :
        (result.list isDirectory c).isEmpty = true := List.isEmpty_iff.2 (h isDirectory c hc)
    simp only [everythingIncluded, Bool.and_eq_true]
    exact ⟨⟨⟨hlist false .excluded (by simp), hlist true .excluded (by simp)⟩,
      hlist false .notIncluded (by simp)⟩, hlist true .notIncluded (by simp)⟩

namespace ScanPlan

/-- **What the result of a scan has to be**: which names each `list` has, which links and warnings
there are, and in which order. Only `Reachable`, `Opens` and `HasClass` are used for that, and no
walk. -/
structure Describes (plan : ScanPlan) (tree : FileTree) (result : ScanResult) : Prop where
  /-- A list holds the reachable files or directories, behind links, of a class. -/
  mem_list : ∀ isDirectory c name, name ∈ result.list isDirectory c ↔
    ∃ path, plan.Reachable tree path ∧ RelativePath.text path = name ∧
      (isDirectory = true ↔ tree.isDirectory (plan.place path) = .ok true) ∧
        plan.settings.HasClass name c
  /-- It holds them in order and each once. -/
  ascending_list : ∀ isDirectory c, (result.list isDirectory c).Pairwise (· < ·)
  /-- The links not followed are the reachable directories behind links, where links are not
  followed. -/
  mem_notFollowedLinks : ∀ name, name ∈ result.notFollowedLinks ↔
    ∃ path, path ≠ [] ∧ plan.Reachable tree path ∧ RelativePath.text path = name ∧
      tree.isDirectory (plan.place path) = .ok true ∧ tree.isLink (plan.place path) = .ok true ∧
        plan.settings.followLinks = false
  /-- They are in order, and each is there once. -/
  ascending_notFollowedLinks : result.notFollowedLinks.Pairwise (· < ·)
  /-- The warnings are about directories that are entered and cannot be listed. -/
  mem_warnings : ∀ warning, warning ∈ result.warnings ↔
    ∃ path error, plan.Reachable tree path ∧ (path = [] ∨ plan.Opens tree path) ∧
      tree.list (plan.place path) = .error error ∧
        warning = ⟨RelativePath.text path, Walk.listingWarning (plan.place path) error⟩
  /-- There is one warning about each, in the order of the visits. -/
  precedes_warnings :
    (result.warnings.map fun warning => RelativePath.ofText warning.path).Pairwise
      RelativePath.Precedes

variable {plan : ScanPlan} {tree : FileTree} {tally : Tally}

/-- The base directory and what a survey has `visited` is what is `Reachable`. -/
theorem mem_nil_cons_visited_iff (hsurvey : plan.survey tree = .ok tally) {path : RelativePath} :
    path ∈ [] :: plan.visited tree ↔ plan.Reachable tree path := by
  have hlooks := (exists_survey_eq_ok_iff.1 ⟨tally, hsurvey⟩).2
  rw [List.mem_cons, mem_visited_iff hlooks]
  by_cases hnil : path = []
  · rw [hnil]
    simp [Reachable, reachesBy_nil]
  · simp [hnil]

/-- What is noted comes in the order of `Precedes`: the base directory, and then what is `visited`.
-/
theorem precedes_nil_cons_visited :
    ([] :: plan.visited tree).Pairwise RelativePath.Precedes := by
  refine List.pairwise_cons.2 ⟨fun path hpath => ?_, precedes_descendants _ []⟩
  have hne := (mem_descendants_iff.1 hpath).1
  exact RelativePath.precedes_of_suffix (List.nil_suffix) hne.symm

/-- The class of an entry of which a survey found one is the one that `HasClass` allows: `classAt`
is not the default there. -/
theorem hasClass_iff_classAt (hsurvey : plan.survey tree = .ok tally) {path : RelativePath}
    (hpath : path ∈ [] :: plan.visited tree) {c : Classification} :
    plan.settings.HasClass (RelativePath.text path) c ↔ plan.classAt path = c := by
  obtain ⟨hroot, hlooks⟩ := exists_survey_eq_ok_iff.1 ⟨tally, hsurvey⟩
  have hclass : ∃ c, plan.settings.classify (RelativePath.text path) = .ok c := by
    rcases List.mem_cons.1 hpath with rfl | hvisited
    · exact hroot
    · exact (exists_look_eq_ok_iff.1 (hlooks path hvisited)).2.1
  obtain ⟨found, hclass⟩ := hclass
  rw [classAt_eq hclass, ScanSettings.hasClass_iff hclass]

/-- What `entersFrom` holds of is the base directory or what `Opens`. -/
theorem entersFrom_iff {path : RelativePath}
    (h : path ≠ [] → ∃ looked, plan.look tree path = .ok looked) :
    plan.entersFrom tree path = true ↔ path = [] ∨ plan.Opens tree path := by
  by_cases hne : path = []
  · simp [entersFrom, hne]
  · rw [← entersAt_iff_opens (h hne), or_iff_right hne]
    simp [entersFrom, hne]

section Noted

variable {paths : List RelativePath}

/-- The names in a list are those of the entries with its `directoryAt` and `classAt`. -/
theorem names_tallyOf (paths : List RelativePath) (isDirectory : Bool) (c : Classification) :
    (plan.tallyOf tree paths).names isDirectory c =
      (paths.filter fun path =>
        plan.directoryAt tree path == isDirectory && plan.classAt path == c).map
          RelativePath.text := by
  rw [tallyOf, Tally.names, List.filter_map, List.map_map]
  rfl

/-- A list of the result of `tallyOf` holds the entries of its kind and class. -/
theorem mem_list_tallyOf {isDirectory : Bool} {c : Classification} {name : String} :
    name ∈ (plan.tallyOf tree paths).result.list isDirectory c ↔
      ∃ path ∈ paths, RelativePath.text path = name ∧
        plan.directoryAt tree path = isDirectory ∧ plan.classAt path = c := by
  rw [Tally.list_result, mem_sortTexts, names_tallyOf, List.mem_map]
  constructor
  · rintro ⟨path, hpath, rfl⟩
    obtain ⟨hvisited, hkind⟩ := List.mem_filter.1 hpath
    rw [Bool.and_eq_true, beq_iff_eq, beq_iff_eq] at hkind
    exact ⟨path, hvisited, rfl, hkind⟩
  · rintro ⟨path, hvisited, rfl, hkind⟩
    refine ⟨path, List.mem_filter.2 ⟨hvisited, ?_⟩, rfl⟩
    rwa [Bool.and_eq_true, beq_iff_eq, beq_iff_eq]

/-- A list of the result of `tallyOf` is in order, and holds no entry twice. -/
theorem ascending_list_tallyOf (h : paths.Pairwise RelativePath.Precedes) (isDirectory : Bool)
    (c : Classification) :
    ((plan.tallyOf tree paths).result.list isDirectory c).Pairwise (· < ·) := by
  rw [Tally.list_result, names_tallyOf]
  exact pairwise_sortTexts (RelativePath.nodup_map_text (h.sublist List.filter_sublist))

/-- The `notFollowedLinks` of `tallyOf` are the directories behind links, where links are not
followed. -/
theorem mem_notFollowedLinks_tallyOf {name : String} :
    name ∈ (plan.tallyOf tree paths).result.notFollowedLinks ↔
      ∃ path ∈ paths, path ≠ [] ∧ RelativePath.text path = name ∧
        tree.isDirectory (plan.place path) = .ok true ∧ tree.isLink (plan.place path) = .ok true ∧
          plan.settings.followLinks = false := by
  rw [Tally.result, mem_sortTexts, tallyOf]
  simp only [List.mem_map, List.mem_filter, skipsLink, Bool.and_eq_true, directoryAt_eq_true,
    linkAt_eq_true, Bool.not_eq_true', List.isEmpty_eq_false_iff]
  constructor
  · rintro ⟨path, ⟨hpath, hne, ⟨hdirectory, hlink⟩, hfollow⟩, rfl⟩
    exact ⟨path, hpath, hne, rfl, hdirectory, hlink, hfollow⟩
  · rintro ⟨path, hpath, hne, rfl, hdirectory, hlink, hfollow⟩
    exact ⟨path, ⟨hpath, hne, ⟨hdirectory, hlink⟩, hfollow⟩, rfl⟩

/-- The `notFollowedLinks` of `tallyOf` are in order, and none is there twice. -/
theorem ascending_notFollowedLinks_tallyOf (h : paths.Pairwise RelativePath.Precedes) :
    (plan.tallyOf tree paths).result.notFollowedLinks.Pairwise (· < ·) :=
  pairwise_sortTexts (RelativePath.nodup_map_text (h.sublist List.filter_sublist))

/-- A directory has a warning in `listingWarnings` exactly if it cannot be listed, with the error as
its text. -/
theorem mem_listingWarnings {path : RelativePath} {warning : ScanWarning} :
    warning ∈ plan.listingWarnings tree path ↔ ∃ error, tree.list (plan.place path) = .error error ∧
      warning = ⟨RelativePath.text path, Walk.listingWarning (plan.place path) error⟩ := by
  rw [listingWarnings]
  cases tree.list (plan.place path) <;> simp

/-- The warnings of `tallyOf` are the `listingWarnings` of the directories that are entered. -/
theorem warnings_tallyOf (paths : List RelativePath) :
    (plan.tallyOf tree paths).result.warnings =
      (paths.filter (plan.entersFrom tree)).flatMap (plan.listingWarnings tree) := rfl

/-- A warning of `tallyOf` is about a directory that is entered and cannot be listed. -/
theorem mem_warnings_tallyOf {warning : ScanWarning} :
    warning ∈ (plan.tallyOf tree paths).result.warnings ↔
      ∃ path error, path ∈ paths ∧ plan.entersFrom tree path = true ∧
        tree.list (plan.place path) = .error error ∧
          warning = ⟨RelativePath.text path, Walk.listingWarning (plan.place path) error⟩ := by
  rw [warnings_tallyOf, List.mem_flatMap]
  constructor
  · rintro ⟨path, hpath, hwarning⟩
    obtain ⟨hpath, henters⟩ := List.mem_filter.1 hpath
    obtain ⟨error, hlist, rfl⟩ := mem_listingWarnings.1 hwarning
    exact ⟨path, error, hpath, henters, hlist, rfl⟩
  · rintro ⟨path, error, hpath, henters, hlist, rfl⟩
    exact ⟨path, List.mem_filter.2 ⟨hpath, henters⟩, mem_listingWarnings.2 ⟨error, hlist, rfl⟩⟩

/-- Each directory has at most one warning, whose `path` names it. -/
theorem warnings_sublist (paths : List RelativePath) :
    ((paths.flatMap (plan.listingWarnings tree)).map fun warning =>
      RelativePath.ofText warning.path).Sublist paths := by
  induction paths with
  | nil => exact List.Sublist.refl _
  | cons path paths ih =>
      rw [List.flatMap_cons, List.map_append, listingWarnings]
      cases tree.list (plan.place path) with
      | error error =>
          rw [List.map_singleton, RelativePath.ofText_text, List.singleton_append]
          exact ih.cons_cons path
      | ok names => exact ih.cons path

/-- The warnings of `tallyOf` come in the order of the visits, one about each directory. -/
theorem precedes_warnings_tallyOf (h : paths.Pairwise RelativePath.Precedes) :
    ((plan.tallyOf tree paths).result.warnings.map fun warning =>
      RelativePath.ofText warning.path).Pairwise RelativePath.Precedes :=
  h.sublist ((warnings_sublist _).trans List.filter_sublist)

end Noted

/-- **What a survey finds gives a result as it has to be**: `Describes` holds of the result of its
tally. -/
theorem describes_of_survey (hdirectory : tree.isDirectory (plan.place []) = .ok true)
    (hsurvey : plan.survey tree = .ok tally) : plan.Describes tree tally.result := by
  have hreachable (path : RelativePath) : path ∈ [] :: plan.visited tree ↔ plan.Reachable tree path :=
    mem_nil_cons_visited_iff hsurvey
  have henters {path : RelativePath} (hpath : path ∈ [] :: plan.visited tree) :
      plan.entersFrom tree path = true ↔ path = [] ∨ plan.Opens tree path :=
    entersFrom_iff fun hne => (exists_survey_eq_ok_iff.1 ⟨tally, hsurvey⟩).2 path
      ((List.mem_cons.1 hpath).resolve_left hne)
  -- what is found is the tally of the visited paths, so each part is read off these
  obtain rfl := survey_eq_ok hdirectory hsurvey
  constructor
  case mem_list =>
    intro isDirectory c name
    rw [mem_list_tallyOf]
    constructor
    · rintro ⟨path, hvisited, rfl, rfl, hc⟩
      exact ⟨path, (hreachable path).1 hvisited, rfl, directoryAt_eq_true,
        (hasClass_iff_classAt hsurvey hvisited).2 hc⟩
    · rintro ⟨path, hreach, rfl, hkind, hc⟩
      have hvisited := (hreachable path).2 hreach
      refine ⟨path, hvisited, rfl, ?_, (hasClass_iff_classAt hsurvey hvisited).1 hc⟩
      rw [Bool.eq_iff_iff, directoryAt_eq_true, hkind]
  case ascending_list => exact ascending_list_tallyOf precedes_nil_cons_visited
  case mem_notFollowedLinks =>
    intro name
    rw [mem_notFollowedLinks_tallyOf]
    constructor
    · rintro ⟨path, hvisited, hne, hpath⟩
      exact ⟨path, hne, (hreachable path).1 hvisited, hpath⟩
    · rintro ⟨path, hne, hreach, hpath⟩
      exact ⟨path, (hreachable path).2 hreach, hne, hpath⟩
  case ascending_notFollowedLinks =>
    exact ascending_notFollowedLinks_tallyOf precedes_nil_cons_visited
  case mem_warnings =>
    intro warning
    rw [mem_warnings_tallyOf]
    constructor
    · rintro ⟨path, error, hvisited, hentered, hlist⟩
      exact ⟨path, error, (hreachable path).1 hvisited, (henters hvisited).1 hentered, hlist⟩
    · rintro ⟨path, error, hreach, hopens, hlist⟩
      have hvisited := (hreachable path).2 hreach
      exact ⟨path, error, hvisited, (henters hvisited).2 hopens, hlist⟩
  case precedes_warnings => exact precedes_warnings_tallyOf precedes_nil_cons_visited

/-- **Nothing is left open**: `Describes` holds of one result only, as it says which members every
list has and in which order. -/
theorem Describes.unique {result other : ScanResult} (h : plan.Describes tree result)
    (hother : plan.Describes tree other) : result = other := by
  have hlist (isDirectory : Bool) (c : Classification) :
      result.list isDirectory c = other.list isDirectory c :=
    eq_of_pairwise_of_mem_iff not_lt_of_text_lt (h.ascending_list isDirectory c)
      (hother.ascending_list isDirectory c) fun name =>
        (h.mem_list isDirectory c name).trans (hother.mem_list isDirectory c name).symm
  have hlinks : result.notFollowedLinks = other.notFollowedLinks :=
    eq_of_pairwise_of_mem_iff not_lt_of_text_lt h.ascending_notFollowedLinks
      hother.ascending_notFollowedLinks fun name =>
        (h.mem_notFollowedLinks name).trans (hother.mem_notFollowedLinks name).symm
  have hwarnings : result.warnings = other.warnings :=
    eq_of_pairwise_of_mem_iff (fun _ _ hab => hab.asymm) (List.pairwise_map.1 h.precedes_warnings)
      (List.pairwise_map.1 hother.precedes_warnings) fun warning =>
        (h.mem_warnings warning).trans (hother.mem_warnings warning).symm
  cases result
  cases other
  simp only [ScanResult.mk.injEq]
  exact ⟨hlist false .included, hlist true .included, hlist false .excluded, hlist true .excluded,
    hlist false .notIncluded, hlist true .notIncluded, hlinks, hwarnings⟩

/-- **Plans that agree** about what is `Reachable`, about classes and about what is entered describe
the same result. -/
theorem Describes.of_agrees {other : ScanPlan} {result : ScanResult}
    (h : other.Describes tree result) (hbase : other.base = plan.base)
    (hfollow : other.settings.followLinks = plan.settings.followLinks)
    (hreachable : ∀ path, other.Reachable tree path ↔ plan.Reachable tree path)
    (hopens : ∀ path, plan.Reachable tree path → (other.Opens tree path ↔ plan.Opens tree path))
    (hclass : ∀ path, plan.Reachable tree path → ∀ c,
      other.settings.HasClass (RelativePath.text path) c ↔
        plan.settings.HasClass (RelativePath.text path) c) : plan.Describes tree result := by
  have hplace : other.place = plan.place := by
    funext path
    rw [place, place, hbase]
  constructor
  case mem_list =>
    intro isDirectory c name
    rw [h.mem_list, hplace]
    refine exists_congr fun path => ?_
    rw [hreachable]
    -- the class is only compared where both plans get to
    refine and_congr_right fun hreach => and_congr_right fun htext => and_congr_right fun _ => ?_
    rw [← htext]
    exact hclass path hreach c
  case ascending_list => exact h.ascending_list
  case mem_notFollowedLinks =>
    intro name
    rw [h.mem_notFollowedLinks, hplace, hfollow]
    simp only [hreachable]
  case ascending_notFollowedLinks => exact h.ascending_notFollowedLinks
  case mem_warnings =>
    intro warning
    rw [h.mem_warnings, hplace]
    refine exists_congr fun path => exists_congr fun error => ?_
    rw [hreachable]
    exact and_congr_right fun hreach => and_congr_left' (or_congr_right (hopens path hreach))
  case precedes_warnings => exact h.precedes_warnings

/-- Where nothing is excluded or left out and links are followed, every directory `Opens`. -/
theorem opens_of_isDirectory (hexcludes : plan.settings.excludes = [])
    (hdefault : plan.settings.useDefaultExcludes = false) (hfollow : plan.settings.followLinks = true)
    (hprune : plan.prune = false ∨ plan.settings.includes = []) {path : RelativePath}
    (h : tree.isDirectory (plan.place path) = .ok true) : plan.Opens tree path where
  isDirectory := h
  not_excludes := by simp [ScanSettings.Excludes, hexcludes, hdefault]
  followLinks _ := hfollow
  could_hold := hprune.imp_right .inl

end ScanPlan

/-! ## Scans -/

namespace Scanner

variable {settings : ScanSettings} {prune : Bool} {tree : FileTree} {text : String}

/-- A scan has a result exactly if everything `Reachable` is `Examinable`. -/
theorem exists_outcome_eq_ok_iff (hbase : settings.basedir = some (.ofText text))
    (hcheck : checkBasedir tree settings.basedir = none) :
    (∃ result, outcome settings prune tree = .ok result) ↔
      ∀ path, (planFrom settings prune (.ofText text)).Reachable tree path →
        (planFrom settings prune (.ofText text)).Examinable tree path := by
  rw [hbase] at hcheck
  have hnormal : (planFrom settings prune (.ofText text)).base.IsNormal := Path.isNormal_ofText text
  rw [← ScanPlan.exists_survey_eq_ok_iff_examinable hnormal]
  constructor
  · rintro ⟨result, hresult⟩
    cases hsurvey : (planFrom settings prune (.ofText text)).survey tree with
    | ok tally => exact ⟨tally, rfl⟩
    | error halt =>
        obtain ⟨failure, hfailure, -⟩ := outcome_eq_error hbase hcheck hsurvey
        rw [hresult] at hfailure
        cases hfailure
  · rintro ⟨tally, hsurvey⟩
    exact ⟨tally.result, outcome_eq_ok hbase hcheck hsurvey⟩

/-- The result of a scan is that of the tally that `survey` finds. -/
theorem exists_survey_of_outcome (hbase : settings.basedir = some (.ofText text))
    (hcheck : checkBasedir tree settings.basedir = none) {result : ScanResult}
    (hresult : outcome settings prune tree = .ok result) :
    ∃ tally, (planFrom settings prune (.ofText text)).survey tree = .ok tally ∧
      result = tally.result := by
  rw [hbase] at hcheck
  cases hsurvey : (planFrom settings prune (.ofText text)).survey tree with
  | ok tally =>
      rw [outcome_eq_ok hbase hcheck hsurvey] at hresult
      cases hresult
      exact ⟨tally, rfl, rfl⟩
  | error halt =>
      obtain ⟨failure, hfailure, -⟩ := outcome_eq_error hbase hcheck hsurvey
      rw [hresult] at hfailure
      cases hfailure

/-- The result of a scan is as it has to be: the plan `Describes` it. -/
theorem describes_outcome (hbase : settings.basedir = some (.ofText text))
    (hcheck : checkBasedir tree settings.basedir = none) {result : ScanResult}
    (hresult : outcome settings prune tree = .ok result) :
    (planFrom settings prune (.ofText text)).Describes tree result := by
  obtain ⟨tally, hsurvey, rfl⟩ := exists_survey_of_outcome hbase hcheck hresult
  rw [hbase] at hcheck
  exact ScanPlan.describes_of_survey (checkBasedir_eq_none_iff.1 hcheck) hsurvey

/-- **A scan computes its specification**: it has a result exactly if everything `Reachable` is
`Examinable`, and the result is the one that the plan `Describes`. -/
theorem outcome_eq_ok_iff_describes (hbase : settings.basedir = some (.ofText text))
    (hcheck : checkBasedir tree settings.basedir = none) (result : ScanResult) :
    outcome settings prune tree = .ok result ↔
      (∀ path, (planFrom settings prune (.ofText text)).Reachable tree path →
        (planFrom settings prune (.ofText text)).Examinable tree path) ∧
          (planFrom settings prune (.ofText text)).Describes tree result := by
  constructor
  · intro h
    exact ⟨(exists_outcome_eq_ok_iff hbase hcheck).1 ⟨result, h⟩, describes_outcome hbase hcheck h⟩
  · rintro ⟨hexaminable, hdescribes⟩
    obtain ⟨found, hfound⟩ := (exists_outcome_eq_ok_iff hbase hcheck).2 hexaminable
    rw [hfound, (describes_outcome hbase hcheck hfound).unique hdescribes]

/-- The name of the directory in `smallTree`. -/
def directoryName : Name where
  text := "d"
  isEntryName_text := by decide

/-- The entries of `smallTree`: a directory with a file in it. -/
def smallEntries : List (Location × Entry) :=
  [([directoryName], .directory none), ([NestedTree.leafName, directoryName], .file "")]

theorem nodup_smallEntries : (smallEntries.map Prod.fst).Nodup := by decide

/-- A directory with a file in it, for which `outcome` can be computed. -/
def smallTree : FileTree :=
  ⟨smallEntries, nodup_smallEntries⟩

/-- Settings without excludes for a scan from the root: all else as by default. -/
def rootSettings : ScanSettings where
  basedir := some (.ofText "/")
  useDefaultExcludes := false

/-- A scan of `smallTree` has the result that its plan `Describes`. -/
theorem describes_outcome_smallTree :
    checkBasedir smallTree rootSettings.basedir = none ∧
      ∃ result, outcome rootSettings true smallTree = .ok result ∧
        (planFrom rootSettings true (.ofText "/")).Describes smallTree result := by
  have hcheck : checkBasedir smallTree rootSettings.basedir = none := by decide +kernel
  have hisOk : (outcome rootSettings true smallTree).isOk = true := by decide +kernel
  obtain ⟨result, hresult⟩ := exists_eq_ok_of_isOk hisOk
  exact ⟨hcheck, result, hresult, ((outcome_eq_ok_iff_describes rfl hcheck result).1 hresult).2⟩

/-- Every scan of `smallTree` whose patterns are globs has a result. -/
theorem exists_outcome_smallTree (hbase : settings.basedir = some (.ofText "/"))
    (hincludes : ∀ p ∈ settings.includes, p.kind = .ant)
    (hexcludes : ∀ p ∈ settings.effectiveExcludes, p.kind = .ant) :
    ∃ result, outcome settings prune smallTree = .ok result := by
  have hcheck : checkBasedir smallTree rootSettings.basedir = none := by decide +kernel
  have hisOk : (outcome rootSettings true smallTree).isOk = true := by decide +kernel
  have hroot := (exists_outcome_eq_ok_iff rfl hcheck).1 (exists_eq_ok_of_isOk hisOk)
  refine (exists_outcome_eq_ok_iff hbase (hbase ▸ hcheck)).2 fun path hreach => ?_
  -- a scan without patterns reaches no less
  have hreach' : (planFrom rootSettings true (.ofText "/")).Reachable smallTree path :=
    ⟨hreach.lists, fun name parent hsuffix hne => ScanPlan.opens_of_isDirectory rfl rfl rfl (.inr rfl)
      (hreach.opens name parent hsuffix hne).isDirectory⟩
  exact (ScanPlan.examinable_iff_of_ant hincludes hexcludes).2 (hroot path hreach').size_le

/-- Settings without excludes for a scan of `NestedTree.deepTree`. -/
def deepSettings : ScanSettings where
  basedir := some (.ofText NestedTree.longName.text)
  useDefaultExcludes := false

/-- The outermost directory of `NestedTree.deepTree` can be a base directory. -/
theorem checkBasedir_deepTree (hbase : settings.basedir = some (.ofText NestedTree.longName.text)) :
    checkBasedir NestedTree.deepTree settings.basedir = none := by
  rw [hbase]
  exact checkBasedir_eq_none_iff.2 NestedTree.isDirectory_deepTree

/-- A scan of `NestedTree.deepTree` that enters all directories has no result. -/
theorem not_exists_outcome_deepTree_of_opens
    (hbase : settings.basedir = some (.ofText NestedTree.longName.text))
    (hopens : ∀ path, [NestedTree.longName] <:+ path →
      NestedTree.deepTree.isDirectory ((planFrom settings prune
        (.ofText NestedTree.longName.text)).place path) = .ok true →
      (planFrom settings prune (.ofText NestedTree.longName.text)).Opens NestedTree.deepTree path) :
    ¬∃ result, outcome settings prune NestedTree.deepTree = .ok result := by
  intro h
  have hplan : (planFrom settings prune (.ofText NestedTree.longName.text)).base =
      .ofText NestedTree.longName.text := rfl
  obtain ⟨path, hreach, hnot⟩ := NestedTree.exists_not_examinable hplan hopens
  exact hnot ((exists_outcome_eq_ok_iff hbase (checkBasedir_deepTree hbase)).1 h path hreach)

/-- A scan of `deepTree` has no result if nothing is excluded or left out. -/
theorem not_exists_outcome_deepTree
    (hbase : settings.basedir = some (.ofText NestedTree.longName.text))
    (hexcludes : settings.excludes = []) (hdefault : settings.useDefaultExcludes = false)
    (hfollow : settings.followLinks = true) (hprune : prune = false ∨ settings.includes = []) :
    ¬∃ result, outcome settings prune NestedTree.deepTree = .ok result :=
  not_exists_outcome_deepTree_of_opens hbase fun _ _ =>
    ScanPlan.opens_of_isDirectory hexcludes hdefault hfollow hprune

/-- A scan of `NestedTree.deepTree` that does not enter one of the directories below the base directory
has a result. -/
theorem exists_outcome_deepTree_of_shut
    (hbase : settings.basedir = some (.ofText NestedTree.longName.text))
    (hincludes : ∀ p ∈ settings.includes, p.kind = .ant)
    (hexcludes : ∀ p ∈ settings.effectiveExcludes, p.kind = .ant) {shut : Nat} (hpos : shut ≠ 0)
    (hlevels : shut ≤ 63)
    (hshut : ¬(planFrom settings prune (.ofText NestedTree.longName.text)).Opens NestedTree.deepTree
      (List.replicate shut NestedTree.longName)) :
    ∃ result, outcome settings prune NestedTree.deepTree = .ok result := by
  have hplan : (planFrom settings prune (.ofText NestedTree.longName.text)).base =
      .ofText NestedTree.longName.text := rfl
  have hsize := Nat.le_of_eq NestedTree.utf8ByteSize_text_placeOf_longName
  refine (exists_outcome_eq_ok_iff hbase (checkBasedir_deepTree hbase)).2 fun path hreach => ?_
  refine (ScanPlan.examinable_iff_of_ant hincludes hexcludes).2 fun _ => ?_
  obtain ⟨depth, hdepth, rfl⟩ := NestedTree.exists_depth_of_reachesBy NestedTree.leafName_ne_longName
    hplan hsize hpos hlevels hshut hreach
  rw [NestedTree.place_replicate hplan]
  exact Nat.le_trans
    (NestedTree.utf8ByteSize_text_placeOf_le NestedTree.longName (Nat.le_trans hdepth hlevels)) hsize

/-- A scan of `deepTree` has a result if it does not even enter the directory in the base directory.
-/
theorem exists_outcome_deepTree
    (hbase : settings.basedir = some (.ofText NestedTree.longName.text))
    (hincludes : ∀ p ∈ settings.includes, p.kind = .ant)
    (hexcludes : ∀ p ∈ settings.effectiveExcludes, p.kind = .ant)
    (hshut : ¬(planFrom settings prune (.ofText NestedTree.longName.text)).Opens NestedTree.deepTree
      [NestedTree.longName]) :
    ∃ result, outcome settings prune NestedTree.deepTree = .ok result :=
  exists_outcome_deepTree_of_shut hbase hincludes hexcludes Nat.one_ne_zero (by decide) hshut

/-- **A path that is too long fails a scan**: all directories of `deepTree` can be listed, and still
there is no result. -/
theorem not_scan_deepTree :
    checkBasedir NestedTree.deepTree deepSettings.basedir = none ∧
      ¬∃ result, outcome deepSettings true NestedTree.deepTree = .ok result :=
  ⟨checkBasedir_deepTree rfl, not_exists_outcome_deepTree rfl rfl rfl rfl (.inr rfl)⟩

end Scanner

end TreeSift
