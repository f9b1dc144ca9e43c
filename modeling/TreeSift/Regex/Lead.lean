import TreeSift.Regex.CharClass

/-! # How an expression begins

Where one character rules out what follows, the matcher does not try it. `Node.lead` says what can
be told about the first character: it is known where a code point or a set is compared as it stands,
without regard to case. `CharTest.isStepwise` picks the tests that a repetition cannot run over a
text in one go. -/

namespace TreeSift.Regex

open TreeSift.Text

/-- Whether some code point from `low` to `high` has a mapping of its own. The runs ascend. -/
def runsMeet (runs : List CaseRun) (low high : Nat) : Bool :=
  ((runs.dropWhile (·.last < low)).takeWhile (·.first ≤ high)).any fun run =>
    let skipped := (low - run.first + run.step - 1) / run.step
    run.first + skipped * run.step ≤ Nat.min run.last high

/-- Whether some code point from `low` to `high` has a case that differs from it. -/
def rangeHasCase (flags : Flags) (low high : Nat) : Bool :=
  if flags.unicode then
    runsMeet upperRuns low high || runsMeet lowerRuns low high ||
      (upperSequences ++ lowerSequences).any fun s => low ≤ s.1 && s.1 ≤ high
  else
    low ≤ 'Z'.toNat && 'A'.toNat ≤ high || low ≤ 'z'.toNat && 'a'.toNat ≤ high

/-- Whether a code point has a case that differs from it. -/
def codeHasCase (flags : Flags) (code : Nat) : Bool :=
  rangeHasCase flags code code

/-- Whether case matters to an item of a set. Beyond the basic plane it always does. -/
def SetItem.hasCase (flags : Flags) : SetItem → Bool
  | .code value => basicPlaneEnd < value || codeHasCase flags value
  | .range first last => basicPlaneEnd < last || rangeHasCase flags first last
  | .category .. => false

/-- Whether a code point in either case is one of several in lower case. -/
def codeHasSiblings (flags : Flags) (code : Nat) : Bool :=
  code.isValidChar &&
    1 < (caseVariants flags (foldCase flags (Char.ofNat code)).toNat).length

/-- **Whether a repetition tries a test step by step**, one character after the other: so it does
where letters of either case are looked up in a set. -/
def CharTest.isStepwise (flags : Flags) : CharTest → Bool
  | .code value | .notCode value =>
    flags.ignoreCase && codeHasCase flags value && codeHasSiblings flags value
  | .any => false
  | .set _ items => flags.ignoreCase && items.any (·.hasCase flags)

/-- What is known about the first character of an expression, for `Matcher.ofNode` to leave out
attempts. -/
inductive Lead where
  /-- The expression is empty: what stands behind it decides. -/
  | nothing
  /-- It is a certain code point. -/
  | code (value : Nat)
  /-- It lies in a set. -/
  | set (flags : Flags) (negated : Bool) (items : List SetItem)
  /-- Nothing is known. -/
  | unknown

namespace Lead

/-- What is known of an expression followed by another. -/
def before : Lead → Lead → Lead
  | .nothing, next => next
  | lead, _ => lead

/-- Whether the next character, if there is one, does not rule out the expression. -/
def admits (next? : Option Char) : Lead → Bool
  | .nothing | .unknown => true
  | .code value => (next?.map (·.toNat == value)).getD false
  | .set flags negated items =>
    (next?.map ((CharTest.set negated items).covered flags).holds).getD false

/-- Whether the next character, if there is one, is not known to differ from a certain one. -/
@[inline] def admitsCode (next? : Option Char) : Lead → Bool
  | .code value => (next?.map (·.toNat == value)).getD false
  | _ => true

end Lead

/-- What is known about the character that a test covers. -/
def CharTest.lead (flags : Flags) : CharTest → Lead
  | .code value => if flags.ignoreCase && codeHasCase flags value then .unknown else .code value
  | .set negated items =>
    if flags.ignoreCase && items.any (·.hasCase flags) then .unknown
    else .set flags negated items
  | .notCode _ | .any => .unknown

/-- **What is known about the first character of an expression**, case by case of a `Node`. -/
def Node.lead (flags : Flags) : Node → Lead
  | .empty => .nothing
  | .one test => test.lead flags
  | .seq first rest => (first.lead flags).before (rest.lead flags)
  | .scope add drop body => body.lead (flags.enter add drop)
  | _ => .unknown

/-- The test of an expression that covers one character, and the flags for it, by which `runUnits`
repeats it. -/
def Node.unit? (flags : Flags) : Node → Option (CharTest × Flags)
  | .one test => some (test, flags)
  | .scope add drop body => body.unit? (flags.enter add drop)
  | _ => none

end TreeSift.Regex
