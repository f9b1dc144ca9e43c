import Mathlib.Data.List.Forall2
import TreeSift.Proofs.Glob.Extension

/-! # Characters that correspond

Globs and paths whose characters correspond one by one have tokens that correspond
(`forall₂_tokenize_iff`). They match alike if corresponding characters do (`Agrees.matchTokens_eq`,
`Agrees.matchStart_eq`). Single characters are seen in the shortest paths for a glob, where no star and no
deep wildcard stands for anything (`pathMatches_leastPath_iff`), and by globs without stars
(`pathMatches_iff_forall₂`). -/

namespace TreeSift

namespace Text

variable {α : Type} {p : α → Bool} {R : α → α → Prop} {cs ds : List α}

/-- **Parts correspond** in `R` exactly if the elements do that are not cut out, where `splitWhere`
cuts both lists at the same places. -/
theorem forall₂_splitWhere_iff (h : List.Forall₂ (fun c d => p c = p d) cs ds) :
    List.Forall₂ (List.Forall₂ R) (splitWhere p cs) (splitWhere p ds) ↔
      List.Forall₂ (fun c d => p c = true ∨ R c d) cs ds := by
  induction h with
  | nil => simp [splitWhere]
  | @cons c d cs ds hcut h ih =>
      rw [splitWhere, splitWhere, ← hcut, List.forall₂_cons, ← ih]
      cases hc : p c with
      | true => simp
      | false =>
          obtain ⟨part, parts, hparts⟩ := List.exists_cons_of_ne_nil (splitWhere_ne_nil p cs)
          obtain ⟨other, others, hothers⟩ := List.exists_cons_of_ne_nil (splitWhere_ne_nil p ds)
          simp [hparts, hothers, and_assoc]

/-- Parts of texts that are cut at the same places are empty at the same places, so that `filter`
leaves parts that correspond. -/
theorem forall₂_filter_isEmpty_iff {parts others : List (List α)}
    (h : List.Forall₂ (fun part other => part.length = other.length) parts others) :
    List.Forall₂ (List.Forall₂ R) (parts.filter fun part => !part.isEmpty)
        (others.filter fun part => !part.isEmpty) ↔
      List.Forall₂ (List.Forall₂ R) parts others := by
  induction h with
  | nil => simp
  | @cons part other parts others hlength h ih =>
      cases part with
      | nil =>
          obtain rfl : other = [] := List.length_eq_zero_iff.1 hlength.symm
          simp [ih]
      | cons c part =>
          obtain ⟨d, other, rfl⟩ := List.exists_cons_of_length_eq_add_one hlength.symm
          rw [List.filter_cons_of_pos rfl, List.filter_cons_of_pos rfl, List.forall₂_cons, ih,
            ← List.forall₂_cons]

end Text

namespace Glob

variable {mode : CaseMode} {P Q R : Char → Char → Prop}

/-! ## Tokens that correspond -/

/-- **Tokens correspond** in `R` exactly if the characters do that are no separators, where both
texts have separators at the same places. -/
theorem forall₂_tokenize_iff {text other : List Char}
    (h : List.Forall₂ (fun c d => isSeparator c = isSeparator d) text other) :
    List.Forall₂ (List.Forall₂ R) (tokenize text) (tokenize other) ↔
      List.Forall₂ (fun c d => isSeparator c = true ∨ R c d) text other := by
  have hparts : List.Forall₂ (List.Forall₂ fun _ _ => True) (Text.splitWhere isSeparator text)
      (Text.splitWhere isSeparator other) :=
    (Text.forall₂_splitWhere_iff h).2 (h.imp fun _ _ _ => .inr trivial)
  rw [tokenize, tokenize, Text.forall₂_filter_isEmpty_iff (hparts.imp fun _ _ => List.Forall₂.length_eq),
    Text.forall₂_splitWhere_iff h]

/-- Tokens that a slash joins come back from the text that joins them: `tokenize` undoes
`intercalate`. -/
theorem tokenize_intercalate {tokens : List Segment} (h : ∀ token ∈ tokens, IsToken token) :
    tokenize (['/'].intercalate tokens) = tokens := by
  rcases eq_or_ne tokens [] with rfl | hne
  · rfl
  · rw [tokenize, Text.splitWhere_intercalate rfl hne fun token htoken =>
      (h token htoken).isSeparator_eq_false]
    exact List.filter_eq_self.2 fun token htoken => by simpa using (h token htoken).ne_nil

/-- What is written for a token is a token, if `write` makes no separators. -/
theorem IsToken.map {write : Char → Char} {token : Segment} (h : IsToken token)
    (hwrite : ∀ c, isSeparator c = false → isSeparator (write c) = false) : IsToken (token.map write) := by
  refine ⟨by simpa using h.ne_nil, fun c hc => ?_⟩
  obtain ⟨d, hd, rfl⟩ := List.mem_map.1 hc
  exact hwrite d (h.isSeparator_eq_false d hd)

/-! ## Matching alike -/

/-- Two pattern characters are both `*`, or neither is. -/
def StarsAlike (p r : Char) : Prop :=
  p = '*' ↔ r = '*'

/-- With stars at the same places, two tokens are both `deepWildcard` or neither is. -/
theorem eq_deepWildcard_iff {token other : Segment} (h : List.Forall₂ StarsAlike token other) :
    token = deepWildcard ↔ other = deepWildcard := by
  cases h with
  | nil => exact Iff.rfl
  | cons hfirst h =>
      cases h with
      | nil => simp [deepWildcard]
      | cons hsecond h =>
          cases h with
          | nil => simpa [deepWildcard] using and_congr hfirst hsecond
          | cons _ _ => simp [deepWildcard]

/-- **Pattern characters and text characters agree**: `P` relates stars to stars alone, and pattern
characters in `P` cover text characters in `Q` alike. -/
structure Agrees (mode : CaseMode) (P Q : Char → Char → Prop) : Prop where
  /-- Stars correspond to stars alone. -/
  starsAlike : ∀ {p r}, P p r → StarsAlike p r
  /-- Characters are covered alike. -/
  charMatches_eq : ∀ {p r c d}, P p r → Q c d → charMatches mode p c = charMatches mode r d

namespace Agrees

/-- What agrees one way agrees the other way: `Agrees` is kept by `flip` on both relations. -/
theorem symm (h : Agrees mode P Q) : Agrees mode (flip P) (flip Q) :=
  ⟨fun hp => (h.starsAlike hp).symm, fun hp hq => (h.charMatches_eq hp hq).symm⟩

theorem segmentMatches {pattern other text place : Segment} (h : Agrees mode P Q)
    (hpattern : List.Forall₂ P pattern other) (htext : List.Forall₂ Q text place)
    (hmatch : SegmentMatches mode pattern text) : SegmentMatches mode other place := by
  -- each step of the alignment is one of the other pattern and text as well
  induction hmatch generalizing other place with
  | nil =>
      cases hpattern
      cases htext
      exact .nil
  | starEmpty _ ih =>
      cases hpattern with
      | cons hstar hpattern =>
          rw [(h.starsAlike hstar).1 rfl]
          exact .starEmpty (ih hpattern htext)
  | starTake _ ih =>
      cases htext with
      | cons _ htext =>
          have hrest := ih hpattern htext
          cases hpattern with
          | cons hstar _ =>
              rw [(h.starsAlike hstar).1 rfl] at hrest ⊢
              exact .starTake hrest
  | char hp hchar _ ih =>
      cases hpattern with
      | cons hfirst hpattern =>
          cases htext with
          | cons hcover htext =>
              refine .char (fun hstar => hp ((h.starsAlike hfirst).2 hstar)) ?_ (ih hpattern htext)
              rw [← h.charMatches_eq hfirst hcover, hchar]

/-- **Segments match alike** if their characters correspond in relations that agree: `matchSegment`
has the same answer. -/
theorem matchSegment_eq {pattern other text place : Segment} (h : Agrees mode P Q)
    (hpattern : List.Forall₂ P pattern other) (htext : List.Forall₂ Q text place) :
    matchSegment mode pattern text = matchSegment mode other place := by
  rw [Bool.eq_iff_iff]
  constructor
  · exact fun hmatch => matchSegment_of_matches (h.segmentMatches hpattern htext (.of_matchSegment hmatch))
  · exact fun hmatch => matchSegment_of_matches
      (h.symm.segmentMatches hpattern.flip htext.flip (.of_matchSegment hmatch))

/-- A `deepWildcard` corresponds to `deepWildcard` alone. -/
theorem deepWildcard_iff {token other : Segment} (h : Agrees mode P Q)
    (htoken : List.Forall₂ P token other) : token = deepWildcard ↔ other = deepWildcard :=
  eq_deepWildcard_iff (htoken.imp fun _ _ => h.starsAlike)

theorem pathMatches {pattern other path place : List Segment} (h : Agrees mode P Q)
    (hpattern : List.Forall₂ (List.Forall₂ P) pattern other)
    (hpath : List.Forall₂ (List.Forall₂ Q) path place) (hmatch : PathMatches mode pattern path) :
    PathMatches mode other place := by
  induction hmatch generalizing other place with
  | nil =>
      cases hpattern
      cases hpath
      exact .nil
  | deepEmpty _ ih =>
      cases hpattern with
      | cons hdeep hpattern =>
          rw [(h.deepWildcard_iff hdeep).1 rfl]
          exact .deepEmpty (ih hpattern hpath)
  | deepTake _ ih =>
      cases hpath with
      | cons _ hpath =>
          have hrest := ih hpattern hpath
          cases hpattern with
          | cons hdeep _ =>
              rw [(h.deepWildcard_iff hdeep).1 rfl] at hrest ⊢
              exact .deepTake hrest
  | segment hp hsegment _ ih =>
      cases hpattern with
      | cons hfirst hpattern =>
          cases hpath with
          | cons hcover hpath =>
              refine .segment (fun hdeep => hp ((h.deepWildcard_iff hfirst).2 hdeep)) ?_ (ih hpattern hpath)
              rw [← h.matchSegment_eq hfirst hcover, hsegment]

/-- **Globs match alike** if their characters correspond in relations that agree: `matchTokens` has
the same answer. -/
theorem matchTokens_eq {pattern other path place : List Segment} (h : Agrees mode P Q)
    (hpattern : List.Forall₂ (List.Forall₂ P) pattern other)
    (hpath : List.Forall₂ (List.Forall₂ Q) path place) :
    matchTokens mode pattern path = matchTokens mode other place := by
  rw [Bool.eq_iff_iff, matchTokens_eq_true_iff, matchTokens_eq_true_iff]
  exact ⟨h.pathMatches hpattern hpath, h.symm.pathMatches (.flip (hpattern.imp fun _ _ => .flip))
    (.flip (hpath.imp fun _ _ => .flip))⟩

/-- **Paths start like globs alike** if their characters correspond in relations that agree:
`matchStart` has the same answer. -/
theorem matchStart_eq {pattern other path place : List Segment} (h : Agrees mode P Q)
    (hpattern : List.Forall₂ (List.Forall₂ P) pattern other)
    (hpath : List.Forall₂ (List.Forall₂ Q) path place) :
    matchStart mode pattern path = matchStart mode other place := by
  induction hpath generalizing pattern other with
  | nil => cases pattern <;> cases other <;> rfl
  | cons hsegment _ ih =>
      cases hpattern with
      | nil => rfl
      | cons htoken hpattern =>
          rw [matchStart, matchStart, h.matchSegment_eq htoken hsegment, ih hpattern]
          simp only [h.deepWildcard_iff htoken]

end Agrees

/-! ## Globs without stars -/

/-- A pattern without stars covers a text character by character: `SegmentMatches` is `charMatches`
along both. -/
theorem segmentMatches_iff_forall₂ {pattern text : Segment} (h : '*' ∉ pattern) :
    SegmentMatches mode pattern text ↔
      List.Forall₂ (fun p c => charMatches mode p c = true) pattern text := by
  induction pattern generalizing text with
  | nil =>
      cases text with
      | nil => exact iff_of_true .nil .nil
      | cons c text => exact iff_of_false SegmentMatches.not_nil_cons (by simp)
  | cons p pattern ih =>
      obtain ⟨hp, hpattern⟩ : p ≠ '*' ∧ '*' ∉ pattern := by
        simpa [eq_comm] using h
      cases text with
      | nil => simp [SegmentMatches.nil_iff, hp]
      | cons c text => rw [SegmentMatches.cons_iff hp, ih hpattern, List.forall₂_cons]

/-- **A glob without stars** matches a path character by character: `PathMatches` is `charMatches`
along both. -/
theorem pathMatches_iff_forall₂ {pattern path : List Segment} (h : ∀ p ∈ pattern, '*' ∉ p) :
    PathMatches mode pattern path ↔
      List.Forall₂ (List.Forall₂ fun p c => charMatches mode p c = true) pattern path := by
  induction pattern generalizing path with
  | nil =>
      cases path with
      | nil => exact iff_of_true .nil .nil
      | cons s path => exact iff_of_false PathMatches.not_nil_cons (by simp)
  | cons p pattern ih =>
      obtain ⟨hp, hpattern⟩ := List.forall_mem_cons.1 h
      have hdeep : p ≠ deepWildcard := by
        rintro rfl
        exact hp List.mem_cons_self
      cases path with
      | nil => simp [PathMatches.nil_iff, allDeep, hdeep]
      | cons s path =>
          rw [PathMatches.cons_iff hdeep, ih hpattern, List.forall₂_cons, ← segmentMatches_iff_forall₂ hp]
          exact and_congr_left' ⟨.of_matchSegment, matchSegment_of_matches⟩

/-- A glob that `write` makes of segments, without stars, matches what its characters cover. -/
theorem pathMatches_map_iff {write : Char → Char} (hwrite : ∀ c, write c ≠ '*')
    {segments path : List Segment} :
    PathMatches mode (segments.map (List.map write)) path ↔
      List.Forall₂ (List.Forall₂ fun c d => charMatches mode (write c) d = true) segments path := by
  have hstars : ∀ token ∈ segments.map (List.map write), '*' ∉ token := by
    intro token htoken hstar
    obtain ⟨segment, -, rfl⟩ := List.mem_map.1 htoken
    obtain ⟨c, -, hc⟩ := List.mem_map.1 hstar
    exact hwrite c hc
  rw [pathMatches_iff_forall₂ hstars, List.forall₂_map_left_iff]
  simp only [List.forall₂_map_left_iff]

/-! ## The shortest paths that match -/

/-- The characters of a pattern other than `*`. -/
def starless (pattern : Segment) : Segment :=
  pattern.filter (· ≠ '*')

/-- A text that is as short as a segment can be for a pattern, given what to `write` for its
characters: one letter if there would be none. -/
def leastSegment (write : Char → Char) (pattern : Segment) : Segment :=
  if starless pattern = [] then ['a'] else (starless pattern).map write

/-- A path that is as short as a path can be for a glob, given what to `write` for its characters: a
`leastSegment` for each token but `deepWildcard`. -/
def leastPath (write : Char → Char) (pattern : List Segment) : List Segment :=
  (completion pattern).map (leastSegment write)

/-- Every character of a pattern other than `*` takes one of the text: `starless pattern` is no
longer. -/
theorem SegmentMatches.length_starless_le {pattern text : Segment} (h : SegmentMatches mode pattern text) :
    (starless pattern).length ≤ text.length := by
  induction h with
  | nil => exact Nat.le_refl 0
  | starEmpty _ ih => simpa [starless] using ih
  | starTake _ ih => exact Nat.le_succ_of_le ih
  | char hp _ _ ih =>
      rw [starless, List.filter_cons_of_pos (by simpa using hp)]
      exact Nat.succ_le_succ ih

/-- Every token other than `deepWildcard` takes one segment: `completion pattern` is no longer than
the path. -/
theorem PathMatches.length_completion_le {pattern path : List Segment} (h : PathMatches mode pattern path) :
    (completion pattern).length ≤ path.length := by
  induction h with
  | nil => exact Nat.le_refl 0
  | deepEmpty _ ih => simpa [completion] using ih
  | deepTake _ ih => exact Nat.le_succ_of_le ih
  | segment hdeep _ _ ih =>
      rw [completion, List.filter_cons_of_pos (by simpa using hdeep)]
      exact Nat.succ_le_succ ih

/-- A star that can take nothing takes nothing: the text is no longer than `starless pattern`. -/
theorem SegmentMatches.of_star {pattern text : Segment} (h : SegmentMatches mode ('*' :: pattern) text)
    (hlength : text.length ≤ (starless pattern).length) : SegmentMatches mode pattern text := by
  cases h with
  | starEmpty h => exact h
  | starTake h => exact absurd (Nat.le_trans hlength h.length_starless_le) (Nat.not_succ_le_self _)
  | char hstar => exact absurd rfl hstar

/-- A deep wildcard that can take nothing takes nothing: the path is no longer than `completion
pattern`. -/
theorem PathMatches.of_deep {pattern path : List Segment}
    (h : PathMatches mode (deepWildcard :: pattern) path)
    (hlength : path.length ≤ (completion pattern).length) : PathMatches mode pattern path := by
  cases h with
  | deepEmpty h => exact h
  | deepTake h => exact absurd (Nat.le_trans hlength h.length_completion_le) (Nat.not_succ_le_self _)
  | segment hdeep => exact absurd rfl hdeep

/-- The pattern character `p` covers what is written for `r`, or is a star. -/
def Covers (mode : CaseMode) (write : Char → Char) (p r : Char) : Prop :=
  p = '*' ∨ charMatches mode p (write r) = true

/-- With stars at the same places, as many other characters are left by `starless`. -/
theorem length_starless_eq {pattern other : Segment} (h : List.Forall₂ StarsAlike pattern other) :
    (starless pattern).length = (starless other).length := by
  refine (List.rel_filter (fun p r hpr => ?_) h).length_eq
  simpa using not_congr hpr

/-- In the shortest texts, no star stands for anything: `SegmentMatches` is `Covers` character by
character. -/
theorem segmentMatches_map_starless_iff (write : Char → Char) {pattern other : Segment}
    (h : List.Forall₂ StarsAlike pattern other) :
    SegmentMatches mode pattern ((starless other).map write) ↔
      List.Forall₂ (Covers mode write) pattern other := by
  induction h with
  | nil => exact iff_of_true .nil .nil
  | @cons p r pattern other hpr h ih =>
      rw [List.forall₂_cons, ← ih]
      by_cases hp : p = '*'
      · -- the text is too short for the star to take a character
        have hlength : ((starless other).map write).length ≤ (starless pattern).length := by
          rw [List.length_map]
          exact Nat.le_of_eq (length_starless_eq h).symm
        rw [hp, hpr.1 hp, starless, List.filter_cons_of_neg (by simp), ← starless,
          and_iff_right (.inl rfl)]
        exact ⟨fun hmatch => hmatch.of_star hlength, .starEmpty⟩
      · rw [starless, List.filter_cons_of_pos (by simpa using mt hpr.2 hp), ← starless, List.map_cons,
          SegmentMatches.cons_iff hp, Covers, or_iff_right hp]

/-- **A segment as short as can be** is matched exactly if its characters are covered one by one:
`matchSegment` of a `leastSegment` is `Covers`. -/
theorem matchSegment_leastSegment_iff (write : Char → Char) {pattern other : Segment}
    (hne : pattern ≠ []) (h : List.Forall₂ StarsAlike pattern other) :
    matchSegment mode pattern (leastSegment write other) = true ↔
      List.Forall₂ (Covers mode write) pattern other := by
  have hsegment : SegmentMatches mode pattern ((starless other).map write) ↔
      List.Forall₂ (Covers mode write) pattern other :=
    segmentMatches_map_starless_iff write h
  rw [leastSegment]
  split
  · next hnil =>
    -- stars alone cover the letter, since there is one
    have hstars : SegmentMatches mode pattern [] := by
      rw [SegmentMatches.nil_iff, List.all_eq_true]
      have hempty := length_starless_eq h
      rw [hnil, List.length_nil, List.length_eq_zero_iff, starless, List.filter_eq_nil_iff] at hempty
      simpa using hempty
    rw [hnil, List.map_nil] at hsegment
    refine iff_of_true (matchSegment_of_matches ?_) (hsegment.1 hstars)
    obtain ⟨p, rest, rfl⟩ := List.exists_cons_of_ne_nil hne
    rw [SegmentMatches.nil_iff, List.all_cons, Bool.and_eq_true, beq_iff_eq] at hstars
    obtain ⟨rfl, hrest⟩ := hstars
    exact .starTake (.starEmpty (SegmentMatches.nil_iff.2 hrest))
  · rw [← hsegment]
    exact ⟨.of_matchSegment, matchSegment_of_matches⟩

/-- With stars at the same places, as many tokens other than `deepWildcard` are left by
`completion`. -/
theorem length_completion_eq {pattern other : List Segment}
    (h : List.Forall₂ (List.Forall₂ StarsAlike) pattern other) :
    (completion pattern).length = (completion other).length := by
  refine (List.rel_filter (fun p r hpr => ?_) h).length_eq
  simpa using not_congr (eq_deepWildcard_iff hpr)

/-- **A path as short as can be** is matched exactly if its characters are covered one by one:
`PathMatches` of a `leastPath` is `Covers`. -/
theorem pathMatches_leastPath_iff (write : Char → Char) {pattern other : List Segment}
    (hne : ∀ token ∈ pattern, token ≠ [])
    (h : List.Forall₂ (List.Forall₂ StarsAlike) pattern other) :
    PathMatches mode pattern (leastPath write other) ↔
      List.Forall₂ (List.Forall₂ (Covers mode write)) pattern other := by
  induction h with
  | nil => exact iff_of_true .nil .nil
  | @cons p r pattern other hpr h ih =>
      obtain ⟨hp, hpattern⟩ := List.forall_mem_cons.1 hne
      rw [List.forall₂_cons, ← ih hpattern]
      by_cases hdeep : p = deepWildcard
      · -- the path is too short for the deep wildcard to take a segment
        have hlength : (leastPath write other).length ≤ (completion pattern).length := by
          rw [leastPath, List.length_map]
          exact Nat.le_of_eq (length_completion_eq h).symm
        have hcovers : List.Forall₂ (Covers mode write) deepWildcard deepWildcard :=
          .cons (.inl rfl) (.cons (.inl rfl) .nil)
        rw [hdeep, (eq_deepWildcard_iff hpr).1 hdeep, leastPath, completion,
          List.filter_cons_of_neg (by simp), ← completion, ← leastPath, and_iff_right hcovers]
        exact ⟨fun hmatch => hmatch.of_deep hlength, .deepEmpty⟩
      · have hother : r ≠ deepWildcard := mt (eq_deepWildcard_iff hpr).2 hdeep
        rw [leastPath, completion, List.filter_cons_of_pos (by simpa using hother), ← completion,
          List.map_cons, ← leastPath, PathMatches.cons_iff hdeep, matchSegment_leastSegment_iff write hp hpr]

/-- Two of the shortest paths correspond in `R` if what is written for each character does. -/
theorem forall₂_leastPath {write other : Char → Char} (hwrite : ∀ c, R (write c) (other c))
    (hletter : R 'a' 'a') (pattern : List Segment) :
    List.Forall₂ (List.Forall₂ R) (leastPath write pattern) (leastPath other pattern) := by
  rw [leastPath, leastPath, List.forall₂_map_left_iff, List.forall₂_map_right_iff, List.forall₂_same]
  intro token _
  rw [leastSegment, leastSegment]
  split
  · exact .cons hletter .nil
  · rw [List.forall₂_map_left_iff, List.forall₂_map_right_iff, List.forall₂_same]
    exact fun c _ => hwrite c

/-- What is written for tokens is made of tokens: `IsToken` holds of every segment of a `leastPath`.
-/
theorem isToken_of_mem_leastPath {write : Char → Char} {pattern : List Segment}
    (hpattern : ∀ token ∈ pattern, IsToken token)
    (hwrite : ∀ c, isSeparator c = false → isSeparator (write c) = false) :
    ∀ segment ∈ leastPath write pattern, IsToken segment := by
  intro segment hsegment
  obtain ⟨token, htoken, rfl⟩ := List.mem_map.1 hsegment
  have htoken := hpattern token (completion_subset pattern htoken)
  rw [leastSegment]
  split
  · exact ⟨List.cons_ne_nil _ _, List.forall_mem_singleton.2 rfl⟩
  · next hne =>
    have hstarless : IsToken (starless token) :=
      ⟨hne, fun c hc => htoken.isSeparator_eq_false c (List.mem_of_mem_filter hc)⟩
    exact hstarless.map hwrite

end Glob

end TreeSift
