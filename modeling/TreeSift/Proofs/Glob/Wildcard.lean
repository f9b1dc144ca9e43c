import TreeSift.Glob.Segment

/-! # Wildcards align as far as they can

`matchSegment` returns to the most recent star only, and still finds every alignment: what lies before
a star is laid along the text as early as possible, and the star makes up for the rest
(`matchAfterStar_iff`). So it decides the wildcard relation, by `SegmentMatches.of_matchSegment` and
`matchSegment_of_matches`. A looser comparison loses no match (`matchSegment_of_sensitive`), and every
pattern matches itself as a text (`matchSegment_self`). -/

namespace TreeSift.Glob

variable {mode : CaseMode} {pattern text rest left : Segment}

/-! ## The wildcard relation -/

namespace SegmentMatches

/-- A star covers any `run` of characters. -/
theorem star_append (run : Segment) (h : SegmentMatches mode ('*' :: pattern) text) :
    SegmentMatches mode ('*' :: pattern) (run ++ text) := by
  induction run with
  | nil => exact h
  | cons c run ih => exact .starTake ih

/-- A star covers more characters if fewer are left for what follows it: from an end of the text,
`text.drop n`, to all of it. -/
theorem star_of_drop {n : Nat} (h : SegmentMatches mode ('*' :: pattern) (text.drop n)) :
    SegmentMatches mode ('*' :: pattern) text := by
  rw [← List.take_append_drop n text]
  exact h.star_append _

/-- Where a star matches, what follows it matches an end of the text, `text.drop n`. -/
theorem exists_drop_of_star (h : SegmentMatches mode ('*' :: pattern) text) :
    ∃ n, SegmentMatches mode pattern (text.drop n) := by
  induction text with
  | nil =>
      cases h with
      | starEmpty h => exact ⟨0, h⟩
  | cons c text ih =>
      cases h with
      | starEmpty h => exact ⟨0, h⟩
      | starTake h =>
          obtain ⟨n, hn⟩ := ih h
          exact ⟨n + 1, hn⟩
      | char hstar => exact absurd rfl hstar

/-- Any character but `*` covers one character of the text, by `charMatches`. -/
theorem cons_iff {p c : Char} (hp : p ≠ '*') :
    SegmentMatches mode (p :: pattern) (c :: text) ↔
      charMatches mode p c = true ∧ SegmentMatches mode pattern text := by
  constructor
  · intro h
    cases h with
    | starEmpty => exact absurd rfl hp
    | starTake => exact absurd rfl hp
    | char _ hchar h => exact ⟨hchar, h⟩
  · rintro ⟨hchar, h⟩
    exact .char hp hchar h

/-- Stars alone cover the empty text: `pattern.all (· == '*')`. -/
theorem nil_iff : SegmentMatches mode pattern [] ↔ pattern.all (· == '*') = true := by
  induction pattern with
  | nil => exact iff_of_true .nil rfl
  | cons p pattern ih =>
      rw [List.all_cons, Bool.and_eq_true, beq_iff_eq, ← ih]
      constructor
      · intro h
        cases h with
        | starEmpty h => exact ⟨rfl, h⟩
      · rintro ⟨rfl, h⟩
        exact .starEmpty h

/-- The empty pattern covers no character: `SegmentMatches mode [] (c :: text)` fails. -/
theorem not_nil_cons {c : Char} : ¬SegmentMatches mode [] (c :: text) := by
  intro h
  cases h

/-- Every pattern matches itself as a text: `charMatches` is reflexive, and `*` covers one character
as well. -/
theorem self (mode : CaseMode) (pattern : Segment) : SegmentMatches mode pattern pattern := by
  induction pattern with
  | nil => exact .nil
  | cons p pattern ih =>
      by_cases hp : p = '*'
      · rw [hp]
        exact .starTake (.starEmpty ih)
      · exact .char hp (by simp [charMatches]) ih

/-- What matches under `.sensitive` matches in every mode, character by character. -/
theorem of_sensitive (mode : CaseMode) (h : SegmentMatches .sensitive pattern text) :
    SegmentMatches mode pattern text := by
  induction h with
  | nil => exact .nil
  | starEmpty _ ih => exact .starEmpty ih
  | starTake _ ih => exact .starTake ih
  | char hp hchar _ ih =>
      refine .char hp ?_ ih
      rw [charMatches, Bool.or_eq_true] at hchar ⊢
      exact hchar.imp_right (CaseMode.sameChar_of_sensitive mode)

end SegmentMatches

/-! ## Laying a pattern along a text -/

/-- What an `Alignment` leaves to be matched: nothing, a star and its rest, or what cannot be. -/
def Alignment.Matches (mode : CaseMode) : Alignment → Prop
  | .ended covered => covered = true
  | .star rest left => SegmentMatches mode ('*' :: rest) left
  | .mismatch => False

/-- **Laying a pattern along a text** settles whether it matches, or leaves that to a star and what
follows it: `align` and `Alignment.Matches`. -/
theorem segmentMatches_iff_align :
    SegmentMatches mode pattern text ↔ (align mode pattern text).Matches mode := by
  induction pattern generalizing text with
  | nil =>
      cases text with
      | nil => exact SegmentMatches.nil_iff
      | cons c text => exact iff_of_false SegmentMatches.not_nil_cons id
  | cons p pattern ih =>
      cases text with
      | nil => exact SegmentMatches.nil_iff
      | cons c text =>
          rw [align]
          by_cases hp : p = '*'
          · rw [if_pos hp, hp]
            exact Iff.rfl
          · rw [if_neg hp, SegmentMatches.cons_iff hp]
            by_cases hchar : charMatches mode p c = true
            · rw [if_pos hchar, and_iff_right hchar]
              exact ih
            · rw [if_neg hchar]
              exact iff_of_false (fun h => hchar h.1) id

/-- A text that ends before a pattern does is shorter than all texts that the pattern matches:
without a star, each character takes one. -/
theorem length_lt_of_align_eq_ended {other : Segment} (halign : align mode pattern text = .ended false)
    (h : SegmentMatches mode pattern other) : text.length < other.length := by
  -- on the pattern, which has no star in the part that has been laid
  induction pattern generalizing text other with
  | nil => cases text <;> cases halign
  | cons p pattern ih =>
      cases text with
      | nil =>
          rw [align, Alignment.ended.injEq] at halign
          refine List.length_pos_iff.2 fun hnil => ?_
          rw [hnil, SegmentMatches.nil_iff, halign] at h
          cases h
      | cons c text =>
          rw [align] at halign
          split at halign
          · cases halign
          · next hp =>
            split at halign
            · cases h with
              | starEmpty => exact absurd rfl hp
              | starTake => exact absurd rfl hp
              | char _ _ h => exact Nat.succ_lt_succ (ih halign h)
            · cases halign

/-- **What comes before a star** has a fixed length, `depth`, so it is best laid as early as
possible. -/
theorem exists_drop_of_align_eq_star (halign : align mode pattern text = .star rest left) :
    ∃ depth, left = text.drop depth ∧ ∀ other, SegmentMatches mode pattern other →
      SegmentMatches mode ('*' :: rest) (other.drop depth) := by
  -- on the pattern before the star: each of its characters takes one of any text
  induction pattern generalizing text with
  | nil => cases text <;> cases halign
  | cons p pattern ih =>
      cases text with
      | nil => cases halign
      | cons c text =>
          rw [align] at halign
          split at halign
          · next hp =>
            cases halign
            rw [hp]
            exact ⟨0, rfl, fun _ h => h⟩
          · next hp =>
            split at halign
            · obtain ⟨depth, hleft, hdrop⟩ := ih halign
              refine ⟨depth + 1, hleft, fun other h => ?_⟩
              cases h with
              | starEmpty => exact absurd rfl hp
              | starTake => exact absurd rfl hp
              | char _ _ h => exact hdrop _ h
            · cases halign

/-! ## Returning to the last star -/

/-- Where the text ends, `align` knows whether the pattern is covered. -/
theorem matchAfterStar_of_ended {covered : Bool} (h : align mode pattern text = .ended covered) :
    matchAfterStar mode pattern text = covered := by
  rw [matchAfterStar]
  split <;> simp_all

/-- A further star takes over: `matchAfterStar` goes on behind it. -/
theorem matchAfterStar_of_star (h : align mode pattern text = .star rest left) :
    matchAfterStar mode pattern text = matchAfterStar mode rest left := by
  rw [matchAfterStar]
  split <;> simp_all

/-- On a mismatch the star takes one character more: `matchAfterStar` goes on with the rest of the
text. -/
theorem matchAfterStar_of_mismatch {c : Char} (h : align mode pattern (c :: text) = .mismatch) :
    matchAfterStar mode pattern (c :: text) = matchAfterStar mode pattern text := by
  rw [matchAfterStar]
  split <;> simp_all

/-- **Returning to the most recent star** loses no alignment: `matchAfterStar` decides
`SegmentMatches` behind a star. -/
theorem matchAfterStar_iff :
    matchAfterStar mode pattern text = true ↔ SegmentMatches mode ('*' :: pattern) text := by
  induction pattern, text using matchAfterStar.induct mode with
  | case1 pattern text covered halign =>
      rw [matchAfterStar_of_ended halign]
      cases covered with
      | true =>
          have hmatch : SegmentMatches mode pattern text := by
            rw [segmentMatches_iff_align, halign]
            rfl
          exact iff_of_true rfl (.starEmpty hmatch)
      | false =>
          -- no end of the text is long enough for the pattern
          refine iff_of_false Bool.false_ne_true fun h => ?_
          obtain ⟨n, hn⟩ := h.exists_drop_of_star
          have hless := length_lt_of_align_eq_ended halign hn
          rw [List.length_drop] at hless
          omega
  | case2 pattern text rest left halign ih =>
      rw [matchAfterStar_of_star halign, ih]
      constructor
      · intro h
        have hmatch : SegmentMatches mode pattern text := by
          rw [segmentMatches_iff_align, halign]
          exact h
        exact .starEmpty hmatch
      · intro h
        -- laid later, what comes before the further star leaves a shorter text to it
        obtain ⟨n, hn⟩ := h.exists_drop_of_star
        obtain ⟨depth, rfl, hdrop⟩ := exists_drop_of_align_eq_star halign
        have hlater := hdrop _ hn
        rw [List.drop_drop, Nat.add_comm, ← List.drop_drop] at hlater
        exact hlater.star_of_drop
  | case3 pattern halign => cases pattern <;> cases halign
  | case4 pattern c text halign ih =>
      rw [matchAfterStar_of_mismatch halign, ih]
      refine ⟨.starTake, fun h => ?_⟩
      cases h with
      | starEmpty h =>
          rw [segmentMatches_iff_align, halign] at h
          exact h.elim
      | starTake h => exact h
      | char hstar => exact absurd rfl hstar

/-! ## Matching a segment -/

/-- Without wildcards, `SegmentMatches` compares characters one by one, as `matchLiteral` does. -/
theorem matchLiteral_iff_matches (h : hasWildcard pattern = false) :
    matchLiteral mode pattern text = true ↔ SegmentMatches mode pattern text := by
  induction pattern generalizing text with
  | nil =>
      cases text with
      | nil => exact iff_of_true rfl .nil
      | cons c text => exact iff_of_false Bool.false_ne_true SegmentMatches.not_nil_cons
  | cons p pattern ih =>
      rw [hasWildcard, List.any_cons, Bool.or_eq_false_iff, Bool.or_eq_false_iff] at h
      obtain ⟨⟨hstar, hmark⟩, hrest⟩ := h
      cases text with
      | nil =>
          refine iff_of_false Bool.false_ne_true fun h => ?_
          rw [SegmentMatches.nil_iff, List.all_cons, hstar] at h
          cases h
      | cons c text =>
          rw [matchLiteral, Bool.and_eq_true, ih hrest,
            SegmentMatches.cons_iff (by simpa using hstar), charMatches, hmark, Bool.false_or]

/-- A pattern with a wildcard is laid along the text by `align`, and then its stars take over. -/
theorem matchSegment_of_hasWildcard (hstar : pattern ≠ ['*']) (h : hasWildcard pattern = true) :
    matchSegment mode pattern text = true ↔ (align mode pattern text).Matches mode := by
  rw [matchSegment, if_neg hstar, if_pos h]
  cases align mode pattern text with
  | ended covered => exact Iff.rfl
  | star rest left => exact matchAfterStar_iff
  | mismatch => exact iff_of_false Bool.false_ne_true id

/-- What `matchSegment` accepts is in the relation `SegmentMatches`. -/
theorem SegmentMatches.of_matchSegment (h : matchSegment mode pattern text = true) :
    SegmentMatches mode pattern text := by
  by_cases hstar : pattern = ['*']
  · rw [hstar, ← List.append_nil text]
    exact (SegmentMatches.starEmpty .nil).star_append text
  · cases hwild : hasWildcard pattern with
    | true => exact segmentMatches_iff_align.2 ((matchSegment_of_hasWildcard hstar hwild).1 h)
    | false =>
        rw [matchSegment, if_neg hstar, hwild] at h
        exact (matchLiteral_iff_matches hwild).1 h

/-- What is in the relation `SegmentMatches` is accepted by `matchSegment`. -/
theorem matchSegment_of_matches (h : SegmentMatches mode pattern text) :
    matchSegment mode pattern text = true := by
  by_cases hstar : pattern = ['*']
  · rw [matchSegment, if_pos hstar]
  · cases hwild : hasWildcard pattern with
    | true => exact (matchSegment_of_hasWildcard hstar hwild).2 (segmentMatches_iff_align.1 h)
    | false =>
        rw [matchSegment, if_neg hstar, hwild]
        exact (matchLiteral_iff_matches hwild).2 h

/-- **A looser comparison loses no match**: what `matchSegment .sensitive` accepts is accepted in
every mode. -/
theorem matchSegment_of_sensitive (mode : CaseMode) (h : matchSegment .sensitive pattern text = true) :
    matchSegment mode pattern text = true :=
  matchSegment_of_matches ((SegmentMatches.of_matchSegment h).of_sensitive mode)

/-- Every pattern is accepted by `matchSegment` with itself as the text. -/
theorem matchSegment_self (mode : CaseMode) (pattern : Segment) :
    matchSegment mode pattern pattern = true :=
  matchSegment_of_matches (SegmentMatches.self mode pattern)

end TreeSift.Glob
