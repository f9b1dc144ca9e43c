import Mathlib.Data.List.Infix
import TreeSift.Proofs.Glob.DeepWildcard
import TreeSift.Proofs.Pattern.Spelling

/-! # Globs for everything below

A separator at the end of a glob stands for a deep wildcard, and so for what is at or below a match of the
glob without it: globs one after the other match paths one after the other (`Glob.PathMatches.append_iff`),
and a deep wildcard matches whatever is left (`Glob.PathMatches.append_deep_iff`). Further separators add
nothing (`Pattern.matchesPath_push`). -/

namespace TreeSift

namespace Glob

variable {mode : CaseMode} {pattern rest path : List Segment}

/-- **Globs one after the other** match paths one after the other, and nothing else: `PathMatches`
of `++` splits the path. -/
theorem PathMatches.append_iff : PathMatches mode (pattern ++ rest) path ↔
    ∃ front back, path = front ++ back ∧ PathMatches mode pattern front ∧ PathMatches mode rest back := by
  constructor
  · intro h
    induction pattern generalizing path with
    | nil => exact ⟨[], path, rfl, .nil, h⟩
    | cons p pattern ih =>
        by_cases hdeep : p = deepWildcard
        · subst hdeep
          obtain ⟨run, left, rfl, hleft⟩ := deep_iff.1 h
          obtain ⟨front, back, rfl, hfront, hback⟩ := ih hleft
          exact ⟨run ++ front, back, (List.append_assoc ..).symm, hfront.deep_append run, hback⟩
        · cases h with
          | deepEmpty => exact absurd rfl hdeep
          | deepTake => exact absurd rfl hdeep
          | segment _ hsegment h =>
              obtain ⟨front, back, rfl, hfront, hback⟩ := ih h
              exact ⟨_ :: front, back, rfl, .segment hdeep hsegment hfront, hback⟩
  · rintro ⟨front, back, rfl, hfront, hback⟩
    exact hfront.append hback

/-- **A deep wildcard at the end** matches whatever is below a match of what is before it: some
`front <+: path`. -/
theorem PathMatches.append_deep_iff : PathMatches mode (pattern ++ [deepWildcard]) path ↔
    ∃ front, front <+: path ∧ PathMatches mode pattern front := by
  rw [append_iff]
  constructor
  · rintro ⟨front, back, rfl, hfront, -⟩
    exact ⟨front, List.prefix_append front back, hfront⟩
  · rintro ⟨front, ⟨back, rfl⟩, hfront⟩
    exact ⟨front, back, rfl, hfront, .of_allDeep (List.cons_ne_nil _ _) rfl⟩

/-- A second deep wildcard at the end adds nothing to what is below a match. -/
theorem PathMatches.exists_prefix_append_deep_iff :
    (∃ front, front <+: path ∧ PathMatches mode (pattern ++ [deepWildcard]) front) ↔
      ∃ front, front <+: path ∧ PathMatches mode pattern front := by
  constructor
  · rintro ⟨front, hprefix, h⟩
    obtain ⟨first, hfirst, hmatch⟩ := append_deep_iff.1 h
    exact ⟨first, hfirst.trans hprefix, hmatch⟩
  · rintro ⟨front, hprefix, h⟩
    exact ⟨front, hprefix, append_deep_iff.2 ⟨front, List.prefix_refl front, h⟩⟩

end Glob

open Glob

/-! ## Separators at the end of a pattern text -/

/-- A text that ends with a separator has no marker: `markerEnd` is none. -/
theorem PatternKind.not_marks_append {c : Char} (hc : isSeparator c = true) (kind : PatternKind)
    (raw : List Char) : kind.marks (raw ++ [c]) = false := by
  have hend : markerEnd.isSuffixOf (raw ++ [c]) = false := by
    rw [Bool.eq_false_iff, ne_eq, List.isSuffixOf_iff_suffix]
    rintro ⟨front, h⟩
    rw [markerEnd] at h
    obtain rfl : ']' = c := by simpa using congrArg List.getLast? h
    cases hc
  rw [marks, hend, Bool.and_false]

namespace Pattern

variable {raw : String} {c : Char}

/-- The glob of a text with a separator at its end has the tokens of the text and a `deepWildcard`.
-/
theorem tokens_ofGlob_append (hc : isSeparator c = true) (source : List Char) :
    (ofGlob (source ++ [c])).tokens = tokenize source ++ [deepWildcard] := by
  have hrun := isRun_singleton hc
  have htokens := hrun.tokenize_append source []
  rw [List.append_nil] at htokens
  rw [tokens_ofGlob, htokens, endsOpen_append_of_ne_nil _ hrun.ne_nil, hrun.endsOpen, tokenize_nil,
    List.append_nil, if_pos rfl]

/-- **Behind a separator a glob matches** what is below a match without it, or at it: some `front
<+: path`. -/
theorem matchTokens_append_iff_exists_prefix (hc : isSeparator c = true) (mode : CaseMode)
    (source : List Char) (path : List Segment) :
    matchTokens mode (ofGlob (source ++ [c])).tokens path = true ↔
      ∃ front, front <+: path ∧ matchTokens mode (ofGlob source).tokens front = true := by
  simp only [matchTokens_eq_true_iff]
  rw [tokens_ofGlob_append hc, PathMatches.append_deep_iff, tokens_ofGlob]
  cases endsOpen source with
  | true => rw [if_pos rfl, PathMatches.exists_prefix_append_deep_iff]
  | false => rw [if_neg Bool.false_ne_true, List.append_nil]

/-- **A separator at the end asks for everything below.** A pattern text without a marker and the text with a
separator behind it both compile, and the second matches a path exactly if the first matches a start of it. So
it matches whatever is at or below a match of either. -/
theorem matchesPath_push (hplain : ∀ kind : PatternKind, kind.marks raw.toList = false)
    (hc : isSeparator c = true) (mode : CaseMode) :
    ∃ pattern subtree, compile raw = .ok pattern ∧ compile (raw.push c) = .ok subtree ∧
      (∀ path : String, subtree.matchesPath mode path =
        .ok ((tokenize path.toList).inits.any (matchTokens mode pattern.tokens))) ∧
      ∀ path lower : String, tokenize path.toList <+: tokenize lower.toList →
        pattern.matchesPath mode path = .ok true ∨ subtree.matchesPath mode path = .ok true →
          subtree.matchesPath mode lower = .ok true := by
  have hpush : (raw.push c).toList = raw.toList ++ [c] := String.toList_push c
  have hsubtree : compile (raw.push c) = .ok (ofGlob (raw.toList ++ [c])) := by
    rw [← hpush]
    exact compile_eq_ok_of_not_marks fun kind => hpush ▸ kind.not_marks_append hc raw.toList
  have hiff (path : String) := matchTokens_append_iff_exists_prefix hc mode raw.toList (tokenize path.toList)
  refine ⟨_, _, compile_eq_ok_of_not_marks hplain, hsubtree, fun path => ?_, fun path lower hbelow => ?_⟩
  · rw [matchesPath_ofGlob, Except.ok.injEq, Bool.eq_iff_iff, List.any_eq_true]
    simpa only [List.mem_inits] using hiff path
  · rw [matchesPath_ofGlob, matchesPath_ofGlob, matchesPath_ofGlob, Except.ok.injEq, Except.ok.injEq,
      Except.ok.injEq, hiff lower, hiff path]
    rintro (hmatch | ⟨front, hfront, hmatch⟩)
    · exact ⟨tokenize path.toList, hbelow, hmatch⟩
    · exact ⟨front, hfront.trans hbelow, hmatch⟩

/-- A text that ends with separators, asked for everything below what it matches by one more. -/
def sourceTree : String :=
  "src/**/te?t*//"

/-- A backslash behind `sourceTree` asks for no more. -/
theorem exists_compile_sourceTree :
    ∃ pattern subtree, compile sourceTree = .ok pattern ∧ compile (sourceTree.push '\\') = .ok subtree ∧
      (∀ path : String, subtree.matchesPath .insensitive path =
        .ok ((tokenize path.toList).inits.any (matchTokens .insensitive pattern.tokens))) ∧
      ∀ path lower : String, tokenize path.toList <+: tokenize lower.toList →
        pattern.matchesPath .insensitive path = .ok true ∨
            subtree.matchesPath .insensitive path = .ok true →
          subtree.matchesPath .insensitive lower = .ok true :=
  matchesPath_push (fun kind => by cases kind <;> decide +kernel) rfl .insensitive

end Pattern

end TreeSift
