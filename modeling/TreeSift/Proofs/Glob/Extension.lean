import TreeSift.Proofs.Glob.DeepWildcard
import TreeSift.Proofs.Pattern.Start

/-! # Starts of paths that can go on to a match

A path that starts like a glob can always be continued to one that the glob matches: by the tokens that
are left of the glob, taken as they are written and without the deep wildcards
(`pathMatches_completion`). Since they are tokens, the question that leaves out directories is exact
(`matchStart_iff_exists_matchTokens`). -/

namespace TreeSift.Glob

variable {mode : CaseMode} {pattern path : List Segment}

/-- **A token**: a segment as `tokenize` makes them, not empty and without separators. -/
structure IsToken (segment : Segment) : Prop where
  /-- It is not empty. -/
  ne_nil : segment ≠ []
  /-- It holds no separator. -/
  isSeparator_eq_false : ∀ c ∈ segment, isSeparator c = false

/-- Texts are taken apart into tokens: `IsToken` holds of all that `tokenize` gives. -/
theorem isToken_of_mem_tokenize {text : List Char} {segment : Segment}
    (h : segment ∈ tokenize text) : IsToken segment :=
  ⟨ne_nil_of_mem_tokenize h, isSeparator_of_mem_tokenize h⟩

/-- A path that a glob matches: its tokens as they are written, without the deep wildcards. -/
def completion (pattern : List Segment) : List Segment :=
  pattern.filter (· ≠ deepWildcard)

theorem completion_subset (pattern : List Segment) : completion pattern ⊆ pattern :=
  List.filter_subset_self pattern

/-- **A glob matches its tokens** as they are written: `PathMatches` holds of `completion pattern`.
-/
theorem pathMatches_completion (mode : CaseMode) (pattern : List Segment) :
    PathMatches mode pattern (completion pattern) := by
  induction pattern with
  | nil => exact .nil
  | cons p pattern ih =>
      by_cases hdeep : p = deepWildcard
      · rw [completion, List.filter_cons_of_neg (by simpa using hdeep), hdeep]
        exact .deepEmpty ih
      · rw [completion, List.filter_cons_of_pos (by simpa using hdeep)]
        exact .segment hdeep (matchSegment_self mode p) ih

/-- A path that starts like a glob goes on to a match by a `completion` of what is left of the glob.
-/
theorem exists_pathMatches_of_matchStart (h : matchStart mode pattern path = true) :
    ∃ rest, rest ⊆ pattern ∧ PathMatches mode pattern (path ++ rest) := by
  induction path generalizing pattern with
  | nil => exact ⟨completion pattern, completion_subset pattern, pathMatches_completion mode pattern⟩
  | cons s path ih =>
      cases pattern with
      | nil => cases h
      | cons p pattern =>
          rw [matchStart] at h
          by_cases hdeep : p = deepWildcard
          · -- the deep wildcard covers the rest of the path
            rw [hdeep]
            exact ⟨completion pattern, List.subset_cons_of_subset _ (completion_subset pattern),
              (pathMatches_completion mode pattern).deep_append (s :: path)⟩
          · rw [if_neg hdeep] at h
            split at h
            · next hsegment =>
              obtain ⟨rest, hrest, hmatch⟩ := ih h
              exact ⟨rest, List.subset_cons_of_subset p hrest, .segment hdeep hsegment hmatch⟩
            · cases h

/-- **A path starts like a glob** exactly if tokens can continue it to one that `matchTokens`
accepts. -/
theorem matchStart_iff_exists_matchTokens (h : ∀ p ∈ pattern, IsToken p) :
    matchStart mode pattern path = true ↔
      ∃ rest, (∀ s ∈ rest, IsToken s) ∧ matchTokens mode pattern (path ++ rest) = true := by
  constructor
  · intro hstart
    obtain ⟨rest, hrest, hmatch⟩ := exists_pathMatches_of_matchStart hstart
    exact ⟨rest, fun s hs => h s (hrest hs), matchTokens_eq_true_iff.2 hmatch⟩
  · rintro ⟨rest, -, hmatch⟩
    exact matchStart_of_matchTokens hmatch

/-- A glob with a literal start, two deep wildcards and wildcards of every kind, `*` and `?`. -/
def mixedGlob : List Segment :=
  tokenize "src/a?*/**/test-*/**/[b].?".toList

/-- A path that has got as far as the first deep wildcard of `mixedGlob` can be continued to a
match. -/
theorem exists_matchTokens_mixedGlob :
    (∀ p ∈ mixedGlob, IsToken p) ∧
      ∃ rest, (∀ s ∈ rest, IsToken s) ∧
        matchTokens .insensitive mixedGlob (tokenize "SRC/Ab/c".toList ++ rest) = true := by
  have htokens : ∀ p ∈ mixedGlob, IsToken p := fun _ => isToken_of_mem_tokenize
  have hstart : matchStart .insensitive mixedGlob (tokenize "SRC/Ab/c".toList) = true := by
    decide +kernel
  exact ⟨htokens, (matchStart_iff_exists_matchTokens htokens).1 hstart⟩

end TreeSift.Glob
