import TreeSift.Pattern.Basic

/-! # Literal starts of globs

A segment without wildcards stands for itself alone, as long as upper and lower case differ
(`matchSegment_iff_of_literal`). Such segments at the start of a glob can be taken off it together with
those of a path: `matchTokens_append_iff` for matches, `matchStart_append_append` for starts. The glob
of a text after a slash is the glob of the text (`tokenize_completeGlob_append`). -/

namespace TreeSift

namespace Glob

variable {p s : Segment} {front pattern path : List Segment}

/-- Without wildcards, `matchLiteral .sensitive` compares characters one by one: it is equality. -/
theorem matchLiteral_iff : matchLiteral .sensitive p s = true ↔ p = s := by
  induction p generalizing s with
  | nil => cases s <;> simp [matchLiteral]
  | cons c p ih => cases s <;> simp [matchLiteral, CaseMode.sameChar, ih]

/-- **A segment without wildcards matches itself alone** under `.sensitive`. -/
theorem matchSegment_iff_of_literal (h : hasWildcard p = false) :
    matchSegment .sensitive p s = true ↔ p = s := by
  have hstar : p ≠ ['*'] := by
    rintro rfl
    cases h
  rw [matchSegment, if_neg hstar, h, if_neg (by simp), matchLiteral_iff]

/-- A segment without wildcards is not `deepWildcard`. -/
theorem ne_deepWildcard_of_literal (h : hasWildcard p = false) : p ≠ deepWildcard := by
  rintro rfl
  cases h

/-- A literal segment is paired off with itself: `pairOff` goes on behind both. -/
theorem pairOff_cons_self (h : hasWildcard p = false) :
    pairOff .sensitive (p :: pattern) (p :: path) = pairOff .sensitive pattern path := by
  rw [pairOff, if_neg (ne_deepWildcard_of_literal h),
    if_pos ((matchSegment_iff_of_literal h).2 rfl)]

/-- A glob and a path match as they do after a literal segment of both: `matchTokens` drops it. -/
theorem matchTokens_cons_self (h : hasWildcard p = false) :
    matchTokens .sensitive (p :: pattern) (p :: path) = matchTokens .sensitive pattern path := by
  rw [matchTokens, pairOff_cons_self h]
  rfl

/-- A glob that starts with a literal segment does not match the empty path: `matchTokens` says no.
-/
theorem matchTokens_cons_nil (h : hasWildcard p = false) :
    matchTokens .sensitive (p :: pattern) [] = false := by
  have hdeep : allDeep (p :: pattern).reverse = false := by
    rw [allDeep, List.all_eq_false]
    exact ⟨p, by simp, by simpa using ne_deepWildcard_of_literal h⟩
  have hpair (pattern : List Segment) : pairOff .sensitive pattern [] = some (pattern, []) := by
    cases pattern <;> rfl
  simp only [matchTokens, hpair, List.reverse_nil, List.isEmpty_nil, if_true, hdeep]

/-- A glob that starts with a literal segment matches no path that starts with another one:
`matchTokens` says no. -/
theorem matchTokens_cons_of_ne (h : hasWildcard p = false) (hne : p ≠ s) :
    matchTokens .sensitive (p :: pattern) (s :: path) = false := by
  rw [matchTokens, pairOff, if_neg (ne_deepWildcard_of_literal h),
    if_neg fun hmatch => hne ((matchSegment_iff_of_literal h).1 hmatch)]

/-- **A glob that starts with literal segments**, `front`, matches the paths that start with them
and go on as the rest of it matches. -/
theorem matchTokens_append_iff (h : ∀ p ∈ front, hasWildcard p = false) :
    matchTokens .sensitive (front ++ pattern) path = true ↔
      ∃ rest, path = front ++ rest ∧ matchTokens .sensitive pattern rest = true := by
  induction front generalizing path with
  | nil => simp
  | cons p front ih =>
      obtain ⟨hp, hfront⟩ := List.forall_mem_cons.1 h
      cases path with
      | nil => simp [matchTokens_cons_nil hp]
      | cons s path =>
          by_cases hsame : p = s
          · subst hsame
            rw [List.cons_append, matchTokens_cons_self hp, ih hfront]
            simp
          · rw [List.cons_append, matchTokens_cons_of_ne hp hsame]
            simp only [Bool.false_eq_true, false_iff, not_exists, not_and, List.cons_append,
              List.cons.injEq]
            exact fun rest heq => absurd heq.1.symm hsame

/-- Behind literal segments a path starts like a glob as it does without them: `matchStart` drops
`front`. -/
theorem matchStart_append_append (h : ∀ p ∈ front, hasWildcard p = false) :
    matchStart .sensitive (front ++ pattern) (front ++ path) = matchStart .sensitive pattern path := by
  induction front with
  | nil => rfl
  | cons p front ih =>
      obtain ⟨hp, hfront⟩ := List.forall_mem_cons.1 h
      rw [List.cons_append, List.cons_append, matchStart, if_neg (ne_deepWildcard_of_literal hp),
        if_pos ((matchSegment_iff_of_literal hp).2 rfl), ih hfront]

end Glob

open TreeSift.Glob

/-- A glob that ends like another one is completed like it: `completeGlob` looks at the end only. -/
theorem completeGlob_append (front : List Char) {source : List Char} (h : source ≠ []) :
    completeGlob (front ++ source) = front ++ completeGlob source := by
  have hlast : (front ++ source).getLast? = source.getLast? := by
    rw [List.getLast?_append, List.getLast?_eq_some_getLast h, Option.some_or]
  rw [completeGlob, completeGlob, hlast]
  cases source.getLast? with
  | none => rfl
  | some c =>
      dsimp only
      split
      · rw [List.append_assoc]
      · rfl

/-- **The segments of a glob behind a slash** come after those before it: `tokenize` and
`completeGlob` of both parts. -/
theorem tokenize_completeGlob_append (front : List Char) {source : List Char} (h : source ≠ []) :
    tokenize (completeGlob (front ++ '/' :: source)) =
      tokenize front ++ tokenize (completeGlob source) := by
  rw [← List.singleton_append, ← List.append_assoc, completeGlob_append _ h, List.append_assoc,
    List.singleton_append, tokenize_append_cons rfl]

end TreeSift
