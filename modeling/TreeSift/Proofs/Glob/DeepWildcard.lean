import Mathlib.Data.List.Forall2
import TreeSift.Glob.Path
import TreeSift.Proofs.Glob.Wildcard

/-! # Globs match what they align with

`matchTokens` pairs off the segments at both ends of a glob and a path, and fills a table for what lies
between the deep wildcards. Neither changes the answer: what is paired off is settled
(`pathMatches_iff_leavesMatch`), in either direction (`pathMatches_reverse_iff`), and each row of the table
says which ends of the path a rest of the glob matches (`tells_matchRow`). So it decides the glob
relation, as the table alone would (`decides_pathMatches`). -/

namespace TreeSift.Glob

variable {mode : CaseMode} {p s : Segment} {pattern path rest left : List Segment}

/-! ## The glob relation -/

namespace PathMatches

/-- A deep wildcard covers any `run` of segments. -/
theorem deep_append (run : List Segment) (h : PathMatches mode pattern path) :
    PathMatches mode (deepWildcard :: pattern) (run ++ path) := by
  induction run with
  | nil => exact .deepEmpty h
  | cons s run ih => exact .deepTake ih

/-- **A deep wildcard covers a run of segments**, and what follows it covers the `rest` of the path.
-/
theorem deep_iff : PathMatches mode (deepWildcard :: pattern) path ↔
    ∃ run rest, path = run ++ rest ∧ PathMatches mode pattern rest := by
  constructor
  · intro h
    induction path with
    | nil =>
        cases h with
        | deepEmpty h => exact ⟨[], [], rfl, h⟩
    | cons s path ih =>
        cases h with
        | deepEmpty h => exact ⟨[], s :: path, rfl, h⟩
        | deepTake h =>
            obtain ⟨run, rest, rfl, hrest⟩ := ih h
            exact ⟨s :: run, rest, rfl, hrest⟩
        | segment hdeep => exact absurd rfl hdeep
  · rintro ⟨run, rest, rfl, h⟩
    exact h.deep_append run

/-- In front of a segment, a deep wildcard stops or takes the segment: the recursion that `deepRow`
carries out. -/
theorem deep_cons_iff : PathMatches mode (deepWildcard :: pattern) (s :: path) ↔
    PathMatches mode pattern (s :: path) ∨ PathMatches mode (deepWildcard :: pattern) path := by
  constructor
  · intro h
    cases h with
    | deepEmpty h => exact .inl h
    | deepTake h => exact .inr h
    | segment hdeep => exact absurd rfl hdeep
  · rintro (h | h)
    · exact .deepEmpty h
    · exact .deepTake h

/-- Any token but `deepWildcard` covers one segment, by `matchSegment`. -/
theorem cons_iff (hdeep : p ≠ deepWildcard) : PathMatches mode (p :: pattern) (s :: path) ↔
    matchSegment mode p s = true ∧ PathMatches mode pattern path := by
  constructor
  · intro h
    cases h with
    | deepEmpty => exact absurd rfl hdeep
    | deepTake => exact absurd rfl hdeep
    | segment _ hsegment h => exact ⟨hsegment, h⟩
  · rintro ⟨hsegment, h⟩
    exact .segment hdeep hsegment h

/-- The empty path is covered by deep wildcards alone: `allDeep` decides it. -/
theorem nil_iff : PathMatches mode pattern [] ↔ allDeep pattern = true := by
  induction pattern with
  | nil => exact iff_of_true .nil rfl
  | cons p pattern ih =>
      rw [allDeep, List.all_cons, Bool.and_eq_true, beq_iff_eq, ← allDeep, ← ih]
      constructor
      · intro h
        cases h with
        | deepEmpty h => exact ⟨rfl, h⟩
      · rintro ⟨rfl, h⟩
        exact .deepEmpty h

/-- The empty glob covers no segment: `PathMatches mode [] (s :: path)` fails. -/
theorem not_nil_cons : ¬PathMatches mode [] (s :: path) := by
  intro h
  cases h

/-- Deep wildcards alone cover every path, if there is one at least. -/
theorem of_allDeep (hne : pattern ≠ []) (h : allDeep pattern = true) :
    PathMatches mode pattern path := by
  obtain ⟨p, pattern, rfl⟩ := List.exists_cons_of_ne_nil hne
  obtain ⟨hp, hrest⟩ : p = deepWildcard ∧ allDeep pattern = true := by
    simpa [allDeep] using h
  rw [hp, ← List.append_nil path]
  exact (nil_iff.2 hrest).deep_append path

/-- Globs one after the other cover paths one after the other: `PathMatches` is kept by `++` on both
sides. -/
theorem append (h : PathMatches mode pattern path) (hrest : PathMatches mode rest left) :
    PathMatches mode (pattern ++ rest) (path ++ left) := by
  induction h with
  | nil => exact hrest
  | deepEmpty _ ih => exact .deepEmpty ih
  | deepTake _ ih => exact .deepTake ih
  | segment hdeep hsegment _ ih => exact .segment hdeep hsegment ih

/-- A glob and a path that align do so backwards: `PathMatches` of both `reverse`. -/
theorem reverse (h : PathMatches mode pattern path) :
    PathMatches mode pattern.reverse path.reverse := by
  induction pattern generalizing path with
  | nil =>
      cases h
      exact .nil
  | cons p pattern ih =>
      rw [List.reverse_cons]
      by_cases hdeep : p = deepWildcard
      · subst hdeep
        obtain ⟨run, rest, rfl, hrest⟩ := deep_iff.1 h
        rw [List.reverse_append]
        exact (ih hrest).append (of_allDeep (List.cons_ne_nil _ _) rfl)
      · cases h with
        | deepEmpty => exact absurd rfl hdeep
        | deepTake => exact absurd rfl hdeep
        | segment _ hsegment h =>
            rw [List.reverse_cons]
            exact (ih h).append (.segment hdeep hsegment .nil)

/-- What matches under `.sensitive` matches in every mode, segment by segment. -/
theorem of_sensitive (mode : CaseMode) (h : PathMatches .sensitive pattern path) :
    PathMatches mode pattern path := by
  induction h with
  | nil => exact .nil
  | deepEmpty _ ih => exact .deepEmpty ih
  | deepTake _ ih => exact .deepTake ih
  | segment hdeep hsegment _ ih =>
      exact .segment hdeep (matchSegment_of_sensitive mode hsegment) ih

end PathMatches

/-- **Aligning backwards** is aligning: `reverse` is its own inverse. -/
theorem pathMatches_reverse_iff :
    PathMatches mode pattern.reverse path.reverse ↔ PathMatches mode pattern path := by
  refine ⟨fun h => ?_, PathMatches.reverse⟩
  have hagain := h.reverse
  rwa [List.reverse_reverse, List.reverse_reverse] at hagain

/-! ## Pairing off segments -/

/-- What `pairOff` leaves to be matched: two rests in `PathMatches`, or nothing if a pair has
failed. -/
def LeavesMatch (mode : CaseMode) : Option (List Segment × List Segment) → Prop
  | some (pattern, path) => PathMatches mode pattern path
  | none => False

/-- **Pairing off segments** settles whether they match, or leaves that to the rest: `pairOff` stops
at a deep wildcard or at an end. -/
theorem pathMatches_iff_leavesMatch :
    PathMatches mode pattern path ↔ LeavesMatch mode (pairOff mode pattern path) := by
  induction pattern generalizing path with
  | nil => cases path <;> exact Iff.rfl
  | cons p pattern ih =>
      cases path with
      | nil => exact Iff.rfl
      | cons s path =>
          rw [pairOff]
          by_cases hdeep : p = deepWildcard
          · rw [if_pos hdeep]
            exact Iff.rfl
          · rw [if_neg hdeep, PathMatches.cons_iff hdeep]
            by_cases hsegment : matchSegment mode p s = true
            · rw [if_pos hsegment, and_iff_right hsegment]
              exact ih
            · rw [if_neg hsegment]
              exact iff_of_false (fun h => hsegment h.1) id

/-! ## The table -/

/-- A row tells about each end of a path, the longest one first, whether `PathMatches` holds of it.
-/
def Tells (mode : CaseMode) (pattern path : List Segment) (row : List Bool) : Prop :=
  List.Forall₂ (fun answer left => answer = true ↔ PathMatches mode pattern left) row path.tails

/-- About the empty path a row has one answer: `Tells` at `[]`. -/
theorem tells_nil_iff {row : List Bool} : Tells mode pattern [] row ↔
    ∃ answer, row = [answer] ∧ (answer = true ↔ PathMatches mode pattern []) := by
  rw [Tells, List.tails]
  constructor
  · intro h
    cases h with
    | cons hlast hnone =>
        cases hnone
        exact ⟨_, rfl, hlast⟩
  · rintro ⟨answer, rfl, hlast⟩
    exact .cons hlast .nil

/-- About any other path a row answers first, and then `Tells` about what is left behind its first
segment. -/
theorem tells_cons_iff {row : List Bool} : Tells mode pattern (s :: path) row ↔
    ∃ answer answers, row = answer :: answers ∧
      (answer = true ↔ PathMatches mode pattern (s :: path)) ∧ Tells mode pattern path answers := by
  rw [Tells, List.tails]
  constructor
  · intro h
    cases h with
    | cons hfirst hothers => exact ⟨_, _, rfl, hfirst, hothers⟩
  · rintro ⟨answer, answers, rfl, hfirst, hothers⟩
    exact .cons hfirst hothers

/-- A row has an answer about the whole path, in front. -/
theorem Tells.exists_cons {row : List Bool} (h : Tells mode pattern path row) :
    ∃ answer answers, row = answer :: answers ∧ (answer = true ↔ PathMatches mode pattern path) := by
  cases path with
  | nil =>
      obtain ⟨answer, rfl, hlast⟩ := tells_nil_iff.1 h
      exact ⟨answer, [], rfl, hlast⟩
  | cons s path =>
      obtain ⟨answer, answers, rfl, hfirst, -⟩ := tells_cons_iff.1 h
      exact ⟨answer, answers, rfl, hfirst⟩

/-- The answer in front, `row.headD false`, is the one about the whole path. -/
theorem Tells.headD_iff {row : List Bool} (h : Tells mode pattern path row) :
    row.headD false = true ↔ PathMatches mode pattern path := by
  obtain ⟨answer, answers, rfl, hfirst⟩ := h.exists_cons
  exact hfirst

/-- **The row of a deep wildcard** tells what it should if the row `below` does: `deepRow` follows
`deep_cons_iff`. -/
theorem tells_deepRow {below : List Bool} (h : Tells mode pattern path below) :
    Tells mode (deepWildcard :: pattern) path (deepRow below) := by
  induction path generalizing below with
  | nil =>
      -- the only answer stays, since a deep wildcard adds nothing in front of the empty path
      obtain ⟨answer, rfl, hlast⟩ := tells_nil_iff.1 h
      have hrow : deepRow [answer] = [answer] := by simp [deepRow]
      have hsame : allDeep (deepWildcard :: pattern) = allDeep pattern := rfl
      refine tells_nil_iff.2 ⟨answer, hrow, ?_⟩
      rw [hlast, PathMatches.nil_iff, PathMatches.nil_iff, hsame]
  | cons s path ih =>
      obtain ⟨answer, answers, rfl, hfirst, hothers⟩ := tells_cons_iff.1 h
      have hrest := ih hothers
      refine tells_cons_iff.2 ⟨_, _, rfl, ?_, hrest⟩
      rw [PathMatches.deep_cons_iff, Bool.or_eq_true, hfirst]
      exact or_congr_right hrest.headD_iff

/-- **The row of any other token** tells what it should if the row `below` does: `segmentRow`
follows `cons_iff`. -/
theorem tells_segmentRow {below : List Bool} (hdeep : p ≠ deepWildcard)
    (h : Tells mode pattern path below) :
    Tells mode (p :: pattern) path (segmentRow mode p path below) := by
  induction path generalizing below with
  | nil =>
      refine tells_nil_iff.2 ⟨false, rfl, iff_of_false Bool.false_ne_true fun h => ?_⟩
      cases h with
      | deepEmpty => exact hdeep rfl
  | cons s path ih =>
      obtain ⟨answer, answers, rfl, -, hothers⟩ := tells_cons_iff.1 h
      -- the answer about what is left behind the segment is the second one of the row below
      obtain ⟨next, further, rfl, hnext⟩ := hothers.exists_cons
      refine tells_cons_iff.2 ⟨_, _, rfl, ?_, ih hothers⟩
      rw [Bool.and_eq_true, hnext, PathMatches.cons_iff hdeep]

/-- The row of the empty glob tells what it should: no, but about the empty path. -/
theorem tells_nil (mode : CaseMode) (path : List Segment) :
    Tells mode [] path (path.map (fun _ => false) ++ [true]) := by
  induction path with
  | nil => exact tells_nil_iff.2 ⟨true, rfl, iff_of_true rfl .nil⟩
  | cons s path ih =>
      exact tells_cons_iff.2 ⟨false, _, rfl,
        iff_of_false Bool.false_ne_true PathMatches.not_nil_cons, ih⟩

/-- **Each row of the table** tells which ends of the path a rest of the glob matches: `matchRow`,
by induction on the glob. -/
theorem tells_matchRow (mode : CaseMode) (pattern path : List Segment) :
    Tells mode pattern path (matchRow mode path pattern) := by
  induction pattern with
  | nil => exact tells_nil mode path
  | cons p pattern ih =>
      rw [matchRow]
      by_cases hdeep : p = deepWildcard
      · rw [if_pos hdeep, hdeep]
        exact tells_deepRow ih
      · rw [if_neg hdeep]
        exact tells_segmentRow hdeep ih

/-- The table alone decides `PathMatches`: its last row answers first about the whole path. -/
theorem matchTable_iff : matchTable mode pattern path = true ↔ PathMatches mode pattern path :=
  (tells_matchRow mode pattern path).headD_iff

/-! ## Matching a path -/

/-- **What is left when both ends have been paired off**, both backwards, decides: the shortcuts by
`isEmpty` and `allDeep` say what `matchTable` says. -/
theorem matchRest_iff :
    (if left.isEmpty then allDeep rest
      else if rest.isEmpty then false
      else if allDeep rest then true
      else matchTable mode rest.reverse left.reverse) = true ↔ PathMatches mode rest left := by
  cases left with
  | nil => exact PathMatches.nil_iff.symm
  | cons s left =>
      rw [if_neg (by simp)]
      cases rest with
      | nil => exact iff_of_false Bool.false_ne_true PathMatches.not_nil_cons
      | cons p rest =>
          rw [if_neg (by simp)]
          by_cases hdeep : allDeep (p :: rest) = true
          · rw [if_pos hdeep]
            exact iff_of_true rfl (PathMatches.of_allDeep (List.cons_ne_nil p rest) hdeep)
          · rw [if_neg hdeep, matchTable_iff, pathMatches_reverse_iff]

/-- **Matching decides the glob relation**: `matchTokens` is true exactly if `PathMatches` holds. -/
theorem matchTokens_eq_true_iff :
    matchTokens mode pattern path = true ↔ PathMatches mode pattern path := by
  rw [matchTokens, pathMatches_iff_leavesMatch]
  cases pairOff mode pattern path with
  | none => exact iff_of_false Bool.false_ne_true id
  | some remaining =>
      obtain ⟨front, back⟩ := remaining
      rw [LeavesMatch, ← pathMatches_reverse_iff, pathMatches_iff_leavesMatch]
      dsimp only
      cases pairOff mode front.reverse back.reverse with
      | none => exact iff_of_false Bool.false_ne_true id
      | some middle => exact matchRest_iff

/-- What `matchTokens .sensitive` finds, it finds in every mode. -/
theorem matchTokens_of_sensitive (mode : CaseMode) (h : matchTokens .sensitive pattern path = true) :
    matchTokens mode pattern path = true :=
  matchTokens_eq_true_iff.2 ((matchTokens_eq_true_iff.1 h).of_sensitive mode)

/-- What `matchStart .sensitive` finds, it finds in every mode. -/
theorem matchStart_of_sensitive (mode : CaseMode) (h : matchStart .sensitive pattern path = true) :
    matchStart mode pattern path = true := by
  induction path generalizing pattern with
  | nil => cases pattern <;> rfl
  | cons s path ih =>
      cases pattern with
      | nil => cases h
      | cons p pattern =>
          rw [matchStart] at h ⊢
          by_cases hdeep : p = deepWildcard
          · rw [if_pos hdeep]
          · rw [if_neg hdeep] at h ⊢
            split at h
            · next hsegment =>
              rw [if_pos (matchSegment_of_sensitive mode hsegment)]
              exact ih h
            · cases h

/-- **No shortcut changes the answer.** A glob matches a path exactly if they are in the relation
`PathMatches`, and `matchTable` over all of both, from which nothing is paired off, says the same.
-/
theorem decides_pathMatches (mode : CaseMode) (pattern path : List Segment) :
    (matchTokens mode pattern path = true ↔ PathMatches mode pattern path) ∧
      matchTokens mode pattern path = matchTable mode pattern path := by
  refine ⟨matchTokens_eq_true_iff, ?_⟩
  rw [Bool.eq_iff_iff, matchTokens_eq_true_iff, matchTable_iff]

end TreeSift.Glob
