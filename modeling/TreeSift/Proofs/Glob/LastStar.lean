import TreeSift.Proofs.Glob.Wildcard

/-! # The loop with the last star

Matching a segment is a loop that knows what is left of the pattern, what is left of the text and, since
the most recent star, what follows it and where the text behind it starts. A `Cursor` holds this, and
`Cursor.step` is one turn. The loop moves back in the text and ends all the same: a pattern and a text take
no more turns than the product of their lengths, each counted with its end
(`Cursor.exists_ends_behindStar`).

It ends with the answer of `matchSegment`, which leaves it out for a lone star and for patterns without
wildcards, and that is whether pattern and text are in the wildcard relation
(`ends_iff_eq_matchSegment`). -/

namespace TreeSift.Glob

variable {mode : CaseMode} {pattern text : Segment}

/-- **Where the loop stands**: what is left of the pattern and of the text, and what was left of
both behind the most recent star. -/
structure Cursor where
  /-- What is left of the pattern. -/
  pattern : Segment
  /-- What is left of the text. -/
  text : Segment
  /-- What follows the most recent star, and the text that the star leaves to it, if one was met. -/
  star? : Option (Segment × Segment)

namespace Cursor

variable {state : Cursor ⊕ Bool} {turns more : Nat} {answer other : Bool}

/-- The loop starts at both beginnings, with `star?` as `none`. -/
def start (pattern text : Segment) : Cursor :=
  ⟨pattern, text, none⟩

/-- Behind a star, which leaves all of `text` to what follows it. -/
def behindStar (pattern text : Segment) : Cursor :=
  ⟨pattern, text, some (pattern, text)⟩

/-- Back to the most recent star, which takes one character more; without one the answer is no,
`.inr false`. -/
def backTo : Option (Segment × Segment) → Cursor ⊕ Bool
  | some (pattern, text) => .inl (behindStar pattern text.tail)
  | none => .inr false

/-- **One turn of the loop**: where it goes, or its answer. A star is noted, a character that
`charMatches` is passed, and else the loop goes `backTo` the star. -/
def step (mode : CaseMode) : Cursor → Cursor ⊕ Bool
  | ⟨pattern, [], _⟩ => .inr (pattern.all (· == '*'))
  | ⟨[], _ :: _, star?⟩ => backTo star?
  | ⟨p :: pattern, c :: text, star?⟩ =>
    if p = '*' then .inl (behindStar pattern (c :: text))
    else if charMatches mode p c then .inl ⟨pattern, text, star?⟩
    else backTo star?

/-- **The loop ends** with an answer, after a number of turns of `step`. -/
inductive Ends (mode : CaseMode) : Nat → Cursor ⊕ Bool → Bool → Prop where
  /-- It has an answer. -/
  | done (answer : Bool) : Ends mode 0 (.inr answer) answer
  /-- It ends after the next turn. -/
  | turn {turns : Nat} {cursor : Cursor} {answer : Bool} :
      Ends mode turns (cursor.step mode) answer → Ends mode (turns + 1) (.inl cursor) answer

/-- **The loop ends in one way**: `step` is a function, so that turns and answer are determined. -/
theorem Ends.unique (h : Ends mode turns state answer) (hother : Ends mode more state other) :
    turns = more ∧ answer = other := by
  induction h generalizing more with
  | done answer =>
      cases hother
      exact ⟨rfl, rfl⟩
  | turn _ ih =>
      cases hother with
      | turn hnext =>
          obtain ⟨hturns, hanswer⟩ := ih hnext
          exact ⟨congrArg (· + 1) hturns, hanswer⟩

/-! ## Up to the next star -/

/-- Where the loop goes from what comes of laying a pattern along a text by `align`. -/
def ofAlignment (star? : Option (Segment × Segment)) : Alignment → Cursor ⊕ Bool
  | .ended covered => .inr covered
  | .star rest left => .inl (behindStar rest left)
  | .mismatch => backTo star?

/-- How much of a pattern is left at the star at which `align` stops, the star included. -/
def leftAtStar : Alignment → Nat
  | .ended _ => 0
  | .star rest _ => rest.length + 1
  | .mismatch => 0

/-- **The loop lays the pattern along the text**, one character a turn, and goes on from what
`align` gives: to `ofAlignment`. -/
theorem exists_ends_of_align (mode : CaseMode) (pattern text : Segment)
    (star? : Option (Segment × Segment)) :
    ∃ turns, turns + leftAtStar (align mode pattern text) ≤ pattern.length ∧
      ∀ more answer, Ends mode more (ofAlignment star? (align mode pattern text)) answer →
        Ends mode (more + 1 + turns) (.inl ⟨pattern, text, star?⟩) answer := by
  -- on the pattern: each turn of the loop takes one character of it, until it stops
  induction pattern generalizing text with
  | nil =>
      refine ⟨0, ?_, fun more answer h => .turn ?_⟩
      · cases text <;> exact Nat.le_refl 0
      · cases text <;> exact h
  | cons p pattern ih =>
      cases text with
      | nil => exact ⟨0, Nat.zero_le _, fun more answer h => .turn h⟩
      | cons c text =>
          rw [align]
          by_cases hp : p = '*'
          · rw [if_pos hp]
            refine ⟨0, Nat.le_of_eq (Nat.zero_add _), fun more answer h => .turn ?_⟩
            rw [step, if_pos hp]
            exact h
          · rw [if_neg hp]
            by_cases hchar : charMatches mode p c = true
            · rw [if_pos hchar]
              obtain ⟨turns, hturns, hends⟩ := ih text
              refine ⟨turns + 1, ?_, fun more answer h => .turn ?_⟩
              · rw [List.length_cons]
                omega
              · rw [step, if_neg hp, if_pos hchar]
                exact hends more answer h
            · rw [if_neg hchar]
              refine ⟨0, Nat.zero_le _, fun more answer h => .turn ?_⟩
              rw [step, if_neg hp, if_neg hchar]
              exact h

/-! ## From star to star -/

/-- Up to a star and from there on, the loop takes no more turns than the product `(pattern.length +
1) * (text.length + 1)` allows. -/
theorem turns_le_of_align_eq_star {rest left : Segment} (halign : align mode pattern text = .star rest left)
    (hmore : more ≤ (rest.length + 1) * (left.length + 1))
    (hturns : turns + (rest.length + 1) ≤ pattern.length) :
    more + 1 + turns ≤ (pattern.length + 1) * (text.length + 1) := by
  have hleft : left.length ≤ text.length := by
    obtain ⟨depth, rfl, -⟩ := exists_drop_of_align_eq_star halign
    rw [List.length_drop]
    exact Nat.sub_le _ _
  have hrest : more ≤ (rest.length + 1) * (text.length + 1) :=
    Nat.le_trans hmore (Nat.mul_le_mul_left _ (by omega))
  have hlaid : turns + 1 ≤ (turns + 1) * (text.length + 1) :=
    Nat.le_mul_of_pos_right _ (Nat.succ_pos _)
  calc more + 1 + turns
      ≤ (rest.length + 1) * (text.length + 1) + (turns + 1) * (text.length + 1) := by omega
    _ = (rest.length + 1 + (turns + 1)) * (text.length + 1) := (Nat.add_mul ..).symm
    _ ≤ (pattern.length + 1) * (text.length + 1) := Nat.mul_le_mul_right _ (by omega)

/-- **Behind a star the loop ends**, with the answer of `matchAfterStar`, within the product of what
is left of the pattern and of the text, each counted with its end. -/
theorem exists_ends_behindStar (mode : CaseMode) (pattern text : Segment) :
    ∃ turns ≤ (pattern.length + 1) * (text.length + 1),
      Ends mode turns (.inl (behindStar pattern text)) (matchAfterStar mode pattern text) := by
  induction pattern, text using matchAfterStar.induct mode with
  | case1 pattern text covered halign =>
      obtain ⟨laid, hlaid, hends⟩ :=
        exists_ends_of_align mode pattern text (some (pattern, text))
      rw [halign] at hlaid hends
      rw [matchAfterStar_of_ended halign]
      refine ⟨0 + 1 + laid, ?_, hends 0 covered (.done covered)⟩
      have hone : pattern.length + 1 ≤ (pattern.length + 1) * (text.length + 1) :=
        Nat.le_mul_of_pos_right _ (Nat.succ_pos _)
      rw [leftAtStar] at hlaid
      omega
  | case2 pattern text rest left halign ih =>
      obtain ⟨laid, hlaid, hends⟩ :=
        exists_ends_of_align mode pattern text (some (pattern, text))
      obtain ⟨turns, hturns, hrest⟩ := ih
      rw [halign] at hlaid hends
      rw [matchAfterStar_of_star halign]
      exact ⟨turns + 1 + laid, turns_le_of_align_eq_star halign hturns hlaid, hends turns _ hrest⟩
  | case3 pattern halign => cases pattern <;> cases halign
  | case4 pattern c text halign ih =>
      obtain ⟨laid, hlaid, hends⟩ :=
        exists_ends_of_align mode pattern (c :: text) (some (pattern, c :: text))
      obtain ⟨turns, hturns, hrest⟩ := ih
      rw [halign] at hlaid hends
      rw [leftAtStar] at hlaid
      rw [matchAfterStar_of_mismatch halign]
      refine ⟨turns + 1 + laid, ?_, hends turns _ hrest⟩
      rw [List.length_cons, Nat.mul_succ]
      omega

/-! ## From both beginnings -/

/-- **The loop ends** from its `start`, and whether the answer is yes is the relation
`SegmentMatches`. -/
theorem exists_ends_start (mode : CaseMode) (pattern text : Segment) :
    ∃ turns ≤ (pattern.length + 1) * (text.length + 1), ∃ answer,
      Ends mode turns (.inl (start pattern text)) answer ∧
        (answer = true ↔ SegmentMatches mode pattern text) := by
  obtain ⟨laid, hlaid, hends⟩ := exists_ends_of_align mode pattern text none
  have hone : pattern.length + 1 ≤ (pattern.length + 1) * (text.length + 1) :=
    Nat.le_mul_of_pos_right _ (Nat.succ_pos _)
  rw [segmentMatches_iff_align]
  -- laying ends with the pattern, at its first star or at a character that does not fit
  cases halign : align mode pattern text with
  | ended covered =>
      rw [halign] at hlaid hends
      rw [leftAtStar] at hlaid
      exact ⟨0 + 1 + laid, by omega, covered, hends 0 covered (.done covered), Iff.rfl⟩
  | star rest left =>
      obtain ⟨turns, hturns, hrest⟩ := exists_ends_behindStar mode rest left
      rw [halign] at hlaid hends
      exact ⟨turns + 1 + laid, turns_le_of_align_eq_star halign hturns hlaid, _,
        hends turns _ hrest, matchAfterStar_iff⟩
  | mismatch =>
      rw [halign] at hlaid hends
      rw [leftAtStar] at hlaid
      exact ⟨0 + 1 + laid, by omega, false, hends 0 false (.done false),
        iff_of_false Bool.false_ne_true id⟩

end Cursor

/-- **Matching a segment ends**, with the answer that no other course of the loop gives, shortcuts
or not: `matchSegment` says whether pattern and text are in the relation `SegmentMatches`. -/
theorem ends_iff_eq_matchSegment (mode : CaseMode) (pattern text : Segment) :
    (∃ turns ≤ (pattern.length + 1) * (text.length + 1), ∀ n answer,
      Cursor.Ends mode n (.inl (.start pattern text)) answer ↔
        n = turns ∧ answer = matchSegment mode pattern text) ∧
    (matchSegment mode pattern text = true ↔ SegmentMatches mode pattern text) := by
  have hmatch : matchSegment mode pattern text = true ↔ SegmentMatches mode pattern text :=
    ⟨.of_matchSegment, matchSegment_of_matches⟩
  obtain ⟨turns, hturns, answer, hends, hanswer⟩ := Cursor.exists_ends_start mode pattern text
  have hsame : answer = matchSegment mode pattern text := by
    rw [Bool.eq_iff_iff, hanswer, hmatch]
  rw [hsame] at hends
  refine ⟨⟨turns, hturns, fun n other => ⟨fun h => h.unique hends, ?_⟩⟩, hmatch⟩
  rintro ⟨rfl, rfl⟩
  exact hends

end TreeSift.Glob
