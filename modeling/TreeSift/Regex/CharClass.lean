import TreeSift.Regex.Syntax
import TreeSift.Text.Blank
import TreeSift.Text.Case
import TreeSift.Text.Word

/-! # Which characters a test covers

`CharTest.covered` is the set of characters that a test covers under given flags. Where case is
ignored, a character is compared in lower case, and two lower case characters with the same upper
case count as one. -/

namespace TreeSift.Regex

open TreeSift.Text

/-- The blanks of ASCII. -/
def isAsciiSpace (c : Char) : Bool :=
  c == ' ' || (9 ≤ c.toNat && c.toNat ≤ 13)

/-- The word characters, as the flags choose them. -/
def isWord (flags : Flags) (c : Char) : Bool :=
  if flags.unicode then isWordChar c else c.isAlphanum || c == '_'

/-- Whether a class holds a character, as the `Flags` choose its members. -/
def Category.holds (flags : Flags) (c : Char) : Category → Bool
  | .digit => if flags.unicode then isDecimalDigit c else c.isDigit
  | .space => if flags.unicode then isBlank c else isAsciiSpace c
  | .word => isWord flags c

/-- The lower case that is compared where case is ignored. In ASCII it is the same for all `Flags`.
-/
def foldCase (flags : Flags) (c : Char) : Char :=
  if flags.unicode && 0x80 ≤ c.toNat then simpleLower c else c.toLower

/-- The code points in lower case that count as the same as one in lower case. -/
def caseVariants (flags : Flags) (code : Nat) : List Nat :=
  if flags.unicode then
    match caseSiblings.find? (·.contains code) with
    | some group => group
    | none => [code]
  else [code]

/-- The code points whose lower case is the given one. -/
def lowerSources (flags : Flags) (code : Nat) : List Nat :=
  if flags.unicode then
    let self := if (simpleLower (Char.ofNat code)).toNat = code then [code] else []
    let single := lowerRuns.filterMap fun r =>
      if r.target ≤ code ∧ code - r.target ≤ r.last - r.first ∧ (code - r.target) % r.step = 0 then
        some (r.first + (code - r.target))
      else none
    let several := lowerSequences.filterMap fun s =>
      if s.2.head? = some code then some s.1 else none
    self ++ single ++ several
  else
    let c := Char.ofNat code
    if c.isUpper then [] else if c.isLower then [code, c.toUpper.toNat] else [code]

/-- The greatest code point of the basic plane. -/
def basicPlaneEnd : Nat :=
  0xffff

/-- Whether an item holds a character in lower case, where case is ignored. Beyond the basic plane,
which `basicPlaneEnd` ends, single code points are compared as they stand, and ranges with the upper
case too. -/
def SetItem.holdsFolded (flags : Flags) (c : Char) : SetItem → Bool
  | .code value =>
    if value.isValidChar then
      let folded := (foldCase flags (Char.ofNat value)).toNat
      if folded ≤ basicPlaneEnd then (caseVariants flags folded).contains c.toNat
      else c.toNat == value
    else false
  | .range first last =>
    -- some character of the range becomes a variant of `c` in lower case
    let inPlane := (caseVariants flags c.toNat).any fun variant =>
      (lowerSources flags variant).any fun source =>
        first ≤ source && source ≤ last && source ≤ basicPlaneEnd
    let beyond := last > basicPlaneEnd &&
      (first ≤ c.toNat && c.toNat ≤ last ||
        first ≤ (simpleUpper c).toNat && (simpleUpper c).toNat ≤ last)
    inPlane || beyond
  | .category name negated => name.holds flags c != negated

/-- Whether an item holds a character. -/
def SetItem.holds (flags : Flags) (c : Char) : SetItem → Bool
  | .code value => c.toNat == value
  | .range first last => first ≤ c.toNat && c.toNat ≤ last
  | .category name negated => name.holds flags c != negated

/-- **A set of characters.** -/
structure CharSet where
  /-- Whether it holds a character. -/
  holds : Char → Bool

/-- The characters that a single code point covers. -/
def codeSet (flags : Flags) (code : Nat) : CharSet :=
  if flags.ignoreCase then
    let variants :=
      if code.isValidChar then caseVariants flags (foldCase flags (Char.ofNat code)).toNat else []
    ⟨fun c => variants.contains (foldCase flags c).toNat⟩
  else ⟨fun c => c.toNat == code⟩

/-- **The characters that a test covers under the flags in force**, as a `CharSet`. -/
def CharTest.covered (flags : Flags) : CharTest → CharSet
  | .code value => codeSet flags value
  | .notCode value =>
    let set := codeSet flags value
    ⟨fun c => !set.holds c⟩
  | .any => ⟨fun c => flags.dotAll || c != '\n'⟩
  | .set negated items =>
    if flags.ignoreCase then
      ⟨fun c =>
        let folded := foldCase flags c
        items.any (·.holdsFolded flags folded) != negated⟩
    else ⟨fun c => items.any (·.holds flags c) != negated⟩

end TreeSift.Regex
