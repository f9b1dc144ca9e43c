import TreeSift.Pattern.Basic

/-! # Starts of paths that match

A pattern that matches a path could match something below every start of it
(`Pattern.matchesStart_of_matchesPath`). The segments of the start alone decide that, while the
match has paired off segments from both ends of the path. -/

namespace TreeSift

namespace Glob

variable {mode : CaseMode} {pattern front : List Segment}

/-- The empty glob pairs off nothing: `pairOff mode []` leaves the path. -/
@[simp] theorem pairOff_nil (mode : CaseMode) (path : List Segment) :
    pairOff mode [] path = some ([], path) := by
  cases path <;> rfl

/-- Where `matchStart` fails on the start of a path, `pairOff` of the whole path fails or uses up
the glob too early. -/
theorem pairOff_of_not_matchStart (h : matchStart mode pattern front = false)
    (rest : List Segment) :
    pairOff mode pattern (front ++ rest) = none ∨
      ∃ s path, pairOff mode pattern (front ++ rest) = some ([], s :: path) := by
  induction front generalizing pattern with
  | nil => cases pattern <;> simp [matchStart] at h
  | cons s front ih =>
      cases pattern with
      | nil => exact .inr ⟨s, front ++ rest, rfl⟩
      | cons p pattern =>
          rw [matchStart] at h
          rw [List.cons_append, pairOff]
          -- a deep wildcard would agree with everything
          by_cases hdeep : p = deepWildcard
          · simp [hdeep] at h
          · rw [if_neg hdeep] at h ⊢
            by_cases hsegment : matchSegment mode p s = true
            · rw [if_pos hsegment] at h ⊢
              exact ih h
            · rw [if_neg hsegment]
              exact .inl rfl

/-- **A glob that matches a path agrees with every start of it**: `matchTokens` of the path implies
`matchStart` of `front`. -/
theorem matchStart_of_matchTokens {rest : List Segment}
    (h : matchTokens mode pattern (front ++ rest) = true) :
    matchStart mode pattern front = true := by
  cases hstart : matchStart mode pattern front with
  | true => rfl
  | false =>
      rcases pairOff_of_not_matchStart hstart rest with hpair | ⟨s, path, hpair⟩
      · simp [matchTokens, hpair] at h
      · -- nothing is left of the glob for the segments that are left of the path
        simp [matchTokens, hpair] at h

/-- A glob that agrees with a start of a path agrees with every shorter one: `matchStart` is closed
under prefixes. -/
theorem matchStart_of_append {rest : List Segment}
    (h : matchStart mode pattern (front ++ rest) = true) : matchStart mode pattern front = true := by
  induction front generalizing pattern with
  | nil => cases pattern <;> rfl
  | cons s front ih =>
      cases pattern with
      | nil => simp [matchStart] at h
      | cons p pattern =>
          rw [List.cons_append, matchStart] at h
          rw [matchStart]
          by_cases hdeep : p = deepWildcard
          · rw [if_pos hdeep]
          · rw [if_neg hdeep] at h ⊢
            by_cases hsegment : matchSegment mode p s = true
            · rw [if_pos hsegment] at h ⊢
              exact ih h
            · simp [hsegment] at h

end Glob

/-- **A pattern that matches a path could match something below every start of it**: `matchesPath`
implies `matchesStart`, segment by segment. -/
theorem Pattern.matchesStart_of_matchesPath {pattern : Pattern} {mode : Glob.CaseMode}
    {path start : String} {rest : List Glob.Segment}
    (hsegments : Glob.tokenize path.toList = Glob.tokenize start.toList ++ rest)
    (h : pattern.matchesPath mode path = .ok true) : pattern.matchesStart mode start = true := by
  cases pattern with
  | ant source tokens =>
      rw [matchesPath, hsegments, Except.ok.injEq] at h
      exact Glob.matchStart_of_matchTokens h
  | regex source expression => rfl

end TreeSift
