import TreeSift.Text.Case

/-! # Wildcards within one path segment

A pattern segment matches a path segment when the whole text is covered: `*` stands for any run
of characters, `?` for exactly one, and any other character for one character that counts as the
same in the chosen `CaseMode`.

`matchSegment` walks along the text once and, on a mismatch, lets the most recent star take one
character more. `SegmentMatches` is the relation that it decides, stated without a search. -/

namespace TreeSift.Glob

open TreeSift.Text (upper lower)

/-- How characters are compared by `sameChar`. -/
inductive CaseMode where
  /-- A character equals only itself. -/
  | sensitive
  /-- Characters with the same upper case or the same lower case are equal as well. -/
  | insensitive
  deriving DecidableEq, Repr

/-- The mode that is `.sensitive` exactly when the flag is set. -/
def CaseMode.ofSensitive (sensitive : Bool) : CaseMode :=
  if sensitive then .sensitive else .insensitive

/-- Two characters count as the same: they are equal, or under `.insensitive` they share their
`upper` or their `lower` case. -/
def CaseMode.sameChar : CaseMode → Char → Char → Bool
  | .sensitive, a, b => a == b
  | .insensitive, a, b => a == b || upper a == upper b || lower a == lower b

/-- Every character counts as the same as itself: `sameChar` is reflexive. -/
@[simp] theorem CaseMode.sameChar_refl (mode : CaseMode) (c : Char) : mode.sameChar c c = true := by
  cases mode <;> simp [sameChar]

/-- Whether two characters count as the same does not depend on their order: `sameChar` is
symmetric. It is not transitive. -/
theorem CaseMode.sameChar_comm (mode : CaseMode) (a b : Char) :
    mode.sameChar a b = mode.sameChar b a := by
  cases mode <;> simp [sameChar, Bool.beq_comm]

/-- Characters that are the same under `.sensitive` are the same in every mode. -/
theorem CaseMode.sameChar_of_sensitive (mode : CaseMode) {a b : Char}
    (h : CaseMode.sensitive.sameChar a b = true) : mode.sameChar a b = true := by
  have : a = b := by simpa [sameChar] using h
  simp [this]

/-- One segment of a path or of a pattern: the characters between separators. -/
abbrev Segment := List Char

/-- The pattern character `p`, other than a star, covers the text character `c`: it is `?` or the
same character. -/
def charMatches (mode : CaseMode) (p c : Char) : Bool :=
  p == '?' || mode.sameChar p c

/-- **The wildcard relation**: how a pattern aligns with a whole text, character by character but
for `*`. -/
inductive SegmentMatches (mode : CaseMode) : Segment → Segment → Prop where
  /-- Nothing covers the empty text. -/
  | nil : SegmentMatches mode [] []
  /-- A star covers no character. -/
  | starEmpty {pattern text : Segment} :
      SegmentMatches mode pattern text → SegmentMatches mode ('*' :: pattern) text
  /-- A star covers one character and may go on. -/
  | starTake {pattern text : Segment} {c : Char} :
      SegmentMatches mode ('*' :: pattern) text → SegmentMatches mode ('*' :: pattern) (c :: text)
  /-- Any other pattern character covers one character. -/
  | char {pattern text : Segment} {p c : Char} :
      p ≠ '*' → charMatches mode p c = true → SegmentMatches mode pattern text →
        SegmentMatches mode (p :: pattern) (c :: text)

/-- What comes of laying a pattern along a text by `align`, character by character, up to the next
star. -/
inductive Alignment where
  /-- The text ended, and `covered` says whether stars alone were left of the pattern. -/
  | ended (covered : Bool)
  /-- A star was met: what follows it in the pattern, and what is left of the text. -/
  | star (pattern text : Segment)
  /-- A character was not covered. -/
  | mismatch
  deriving DecidableEq, Repr

/-- Lays a pattern along a text up to the next star, as far as `charMatches` goes. -/
def align (mode : CaseMode) : Segment → Segment → Alignment
  | pattern, [] => .ended (pattern.all (· == '*'))
  | [], _ :: _ => .mismatch
  | p :: pattern, c :: text =>
    if p = '*' then .star pattern (c :: text)
    else if charMatches mode p c then align mode pattern text
    else .mismatch

/-- The pattern that follows a star is shorter than the one that holds it, so that `matchAfterStar`
ends. -/
theorem length_lt_of_align_eq_star {mode : CaseMode} {pattern text rest left : Segment}
    (h : align mode pattern text = .star rest left) : rest.length < pattern.length := by
  induction pattern generalizing text with
  | nil => cases text <;> simp [align] at h
  | cons p pattern ih =>
    cases text with
    | nil => simp [align] at h
    | cons c text =>
      unfold align at h
      split at h
      · cases h
        simp
      · split at h
        · exact Nat.lt_succ_of_lt (ih h)
        · cases h

/-- Matches what follows a star: where the rest of the pattern does not fit by `align`, the star
takes one character more. A later star replaces this one for good. -/
def matchAfterStar (mode : CaseMode) (pattern text : Segment) : Bool :=
  match _ : align mode pattern text with
  | .ended covered => covered
  | .star rest left => matchAfterStar mode rest left
  | .mismatch =>
    -- the star before `pattern` takes one character more
    match text with
    | [] => false
    | _ :: text => matchAfterStar mode pattern text
  termination_by (pattern.length, text.length)
  decreasing_by
    · exact Prod.Lex.left _ _ (length_lt_of_align_eq_star (by assumption))
    · exact Prod.Lex.right _ (by simp)

/-- The pattern holds `*` or `?`. -/
def hasWildcard (pattern : Segment) : Bool :=
  pattern.any fun c => c == '*' || c == '?'

/-- A pattern without wildcards equals a text by `sameChar`, character by character. -/
def matchLiteral (mode : CaseMode) : Segment → Segment → Bool
  | [], [] => true
  | p :: pattern, c :: text => mode.sameChar p c && matchLiteral mode pattern text
  | _, _ => false

/-- **Whether a pattern segment matches a path segment**: a lone star at once, `matchLiteral`
without wildcards, and else `align` and `matchAfterStar`. -/
def matchSegment (mode : CaseMode) (pattern text : Segment) : Bool :=
  if pattern = ['*'] then true
  else if hasWildcard pattern then
    match align mode pattern text with
    | .ended covered => covered
    | .star rest left => matchAfterStar mode rest left
    | .mismatch => false
  else matchLiteral mode pattern text

end TreeSift.Glob
