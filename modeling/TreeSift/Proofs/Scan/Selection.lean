import TreeSift.Scan.Settings

/-! # What settings select

`ScanSettings.Includes` and `ScanSettings.Excludes` say which relative paths the patterns select,
whatever their order. The patterns are asked in order, and a regular expression may fail to answer;
where they do answer, they say what is selected (`includes_iff`, `excludes_iff`, `hasClass_iff`). -/

namespace TreeSift

open TreeSift.Glob (CaseMode)

namespace PatternList

/-- Where a pattern list answers, it says whether one of its patterns matches: `matchesPath` gives
`true` exactly if some `p ∈ patterns` does. -/
theorem exists_matches_iff {patterns : PatternList} {mode : CaseMode} {path : String} {answer : Bool}
    (h : patterns.matchesPath mode path = .ok answer) :
    (∃ p ∈ patterns, p.matchesPath mode path = .ok true) ↔ answer = true := by
  induction patterns with
  | nil =>
      rw [matchesPath_nil] at h
      cases h
      simp
  | cons p ps ih =>
      cases hp : p.matchesPath mode path with
      | error error => simp [matchesPath, hp, bind, Except.bind] at h
      | ok matched =>
          cases matched with
          | true =>
              rw [matchesPath_cons_of_matches hp ps] at h
              cases h
              simp [hp]
          | false =>
              rw [matchesPath_cons_of_not_matches hp ps] at h
              rw [← ih h]
              simp [hp]

/-- A list of globs always answers: only patterns of the kind `.regex` can fail to. -/
theorem exists_matchesPath_eq_ok {patterns : PatternList} (h : ∀ p ∈ patterns, p.kind = .ant)
    (mode : CaseMode) (path : String) :
    ∃ answer, patterns.matchesPath mode path = .ok answer := by
  induction patterns with
  | nil => exact ⟨false, rfl⟩
  | cons p ps ih =>
      obtain ⟨hp, hps⟩ := List.forall_mem_cons.1 h
      have hanswer : ∃ matched, p.matchesPath mode path = .ok matched := by
        cases p with
        | ant source tokens => exact ⟨_, rfl⟩
        | regex source expression => cases hp
      obtain ⟨matched, hmatched⟩ := hanswer
      cases matched with
      | true => exact ⟨true, matchesPath_cons_of_matches hmatched ps⟩
      | false =>
          rw [matchesPath_cons_of_not_matches hmatched ps]
          exact ih hps

end PatternList

namespace ScanSettings

/-- **A path is included** if there are no include patterns or `matchesPath` gives `true` for one of
them. -/
def Includes (settings : ScanSettings) (path : String) : Prop :=
  settings.includes = [] ∨ ∃ p ∈ settings.includes, p.matchesPath settings.mode path = .ok true

/-- **A path is excluded** if `matchesPath` gives `true` for an exclude pattern, or for a default
one where these are in use. -/
def Excludes (settings : ScanSettings) (path : String) : Prop :=
  (∃ p ∈ settings.excludes, p.matchesPath settings.mode path = .ok true) ∨
    settings.useDefaultExcludes = true ∧
      ∃ p ∈ defaultExcludePatterns, p.matchesPath settings.mode path = .ok true

/-- **What the class of a path says**: `.included` and `.excluded` share what `Includes` selects,
and `.notIncluded` has the rest. -/
def HasClass (settings : ScanSettings) (path : String) : Classification → Prop
  | .included => settings.Includes path ∧ ¬settings.Excludes path
  | .excluded => settings.Includes path ∧ settings.Excludes path
  | .notIncluded => ¬settings.Includes path

variable {settings : ScanSettings} {path : String}

/-- Where `isIncluded` answers, it decides `Includes`. -/
theorem includes_iff {answer : Bool} (h : settings.isIncluded path = .ok answer) :
    settings.Includes path ↔ answer = true := by
  rw [isIncluded] at h
  by_cases hnil : settings.includes = []
  · rw [if_pos (by simp [hnil])] at h
    cases h
    simp [Includes, hnil]
  · rw [if_neg (by simpa using hnil)] at h
    rw [Includes, or_iff_right hnil, PatternList.exists_matches_iff h]

/-- A path is excluded exactly if one of `effectiveExcludes` matches it, which holds the default
patterns as well. -/
theorem excludes_iff_exists :
    settings.Excludes path ↔
      ∃ p ∈ settings.effectiveExcludes, p.matchesPath settings.mode path = .ok true := by
  rw [Excludes, effectiveExcludes]
  by_cases huse : settings.useDefaultExcludes = true
  · rw [if_pos huse]
    constructor
    · rintro (⟨p, hp, hmatch⟩ | ⟨-, p, hp, hmatch⟩)
      · exact ⟨p, List.mem_append_left _ hp, hmatch⟩
      · exact ⟨p, List.mem_append_right _ hp, hmatch⟩
    · rintro ⟨p, hp, hmatch⟩
      rcases List.mem_append.1 hp with hp | hp
      · exact .inl ⟨p, hp, hmatch⟩
      · exact .inr ⟨huse, p, hp, hmatch⟩
  · rw [if_neg huse, or_iff_left (fun h => huse h.1)]

/-- Where `isExcluded` answers, it decides `Excludes`. -/
theorem excludes_iff {answer : Bool} (h : settings.isExcluded path = .ok answer) :
    settings.Excludes path ↔ answer = true := by
  rw [isExcluded] at h
  rw [excludes_iff_exists, PatternList.exists_matches_iff h]

/-- The exclude patterns are asked about what is included: `classify` calls `isExcluded` only where
`isIncluded` gives `true`. -/
theorem classify_eq (settings : ScanSettings) (path : String) :
    settings.classify path =
      match settings.isIncluded path with
      | .error error => .error error
      | .ok false => .ok .notIncluded
      | .ok true =>
        match settings.isExcluded path with
        | .error error => .error error
        | .ok isExcluded => .ok (if isExcluded then .excluded else .included) := by
  rw [classify]
  cases settings.isIncluded path with
  | error => rfl
  | ok included =>
      cases included with
      | false => rfl
      | true =>
          cases settings.isExcluded path with
          | error => rfl
          | ok excluded => cases excluded <;> rfl

/-- A class is found by `classify` exactly if `isIncluded` answers and, for what is included,
`isExcluded` does: the exclude patterns are not asked about the rest. -/
theorem exists_classify_eq_ok_iff :
    (∃ c, settings.classify path = .ok c) ↔
      (∃ answer, settings.isIncluded path = .ok answer) ∧
        (settings.Includes path → ∃ answer, settings.isExcluded path = .ok answer) := by
  rw [classify_eq]
  cases hincluded : settings.isIncluded path with
  | error error => simp
  | ok included =>
      rw [includes_iff hincluded]
      cases included with
      | false => simp
      | true => cases hexcluded : settings.isExcluded path <;> simp

/-- **The class that `classify` finds is the one that `HasClass` allows**, and no other. -/
theorem hasClass_iff {c c' : Classification} (h : settings.classify path = .ok c) :
    settings.HasClass path c' ↔ c = c' := by
  rw [classify_eq] at h
  cases hincluded : settings.isIncluded path with
  | error error => simp [hincluded] at h
  | ok included =>
      cases included with
      | false =>
          obtain rfl : .notIncluded = c := by simpa [hincluded] using h
          cases c' <;> simp [HasClass, includes_iff hincluded]
      | true =>
          cases hexcluded : settings.isExcluded path with
          | error error => simp [hincluded, hexcluded] at h
          | ok excluded =>
              simp only [hincluded, hexcluded, Except.ok.injEq] at h
              cases c' <;> cases excluded <;>
                simp [HasClass, includes_iff hincluded, excludes_iff hexcluded, ← h]

/-- What `classify` gives a class other than `.notIncluded` is what `Includes` selects. -/
theorem includes_iff_of_classify {c : Classification} (h : settings.classify path = .ok c) :
    settings.Includes path ↔ c ≠ .notIncluded := by
  rw [ne_eq, ← hasClass_iff h, HasClass, Classical.not_not]

/-- Of what is included, the class `.excluded` is for what `Excludes` selects. -/
theorem excludes_iff_of_classify {c : Classification} (h : settings.classify path = .ok c)
    (hc : c ≠ .notIncluded) : settings.Excludes path ↔ c = .excluded := by
  rw [← hasClass_iff h, HasClass, and_iff_right ((includes_iff_of_classify h).2 hc)]

/-- Every path has a class in the sense of `HasClass`, whether or not `classify` finds it. -/
theorem exists_hasClass (settings : ScanSettings) (path : String) :
    ∃ c, settings.HasClass path c := by
  by_cases hincludes : settings.Includes path
  · by_cases hexcludes : settings.Excludes path
    · exact ⟨.excluded, hincludes, hexcludes⟩
    · exact ⟨.included, hincludes, hexcludes⟩
  · exact ⟨.notIncluded, hincludes⟩

/-- A path in a class other than `.notIncluded` is included. -/
theorem includes_of_hasClass {c : Classification} (h : settings.HasClass path c)
    (hc : c ≠ .notIncluded) : settings.Includes path := by
  cases c with
  | included => exact h.1
  | excluded => exact h.1
  | notIncluded => exact absurd rfl hc

/-- **Nothing rules out what could lie below a directory** if directories are not left out, if
everything is included, or if an include pattern `matchesStart` the path. -/
theorem couldHoldIncluded_iff {prune : Bool} :
    settings.couldHoldIncluded prune path = true ↔
      prune = false ∨ settings.includes = [] ∨
        ∃ p ∈ settings.includes, p.matchesStart settings.mode path = true := by
  simp [couldHoldIncluded, PatternList.matchesStart, or_assoc]

end ScanSettings

end TreeSift
