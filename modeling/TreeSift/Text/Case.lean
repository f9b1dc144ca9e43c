import TreeSift.Text.CasedTable
import TreeSift.Text.CaseTable

/-! # Upper and lower case

`upper` and `lower` give the full case mappings of one character, which may have several
characters (`upper 'ß' = ['S', 'S']`); `simpleUpper` and `simpleLower` keep the first of them.
`lowerChars` maps a whole text, in which a sigma at the end of a word has a form of its own. -/

namespace TreeSift.Text

/-- What a sorted list of runs maps a code point to. -/
def CaseRun.target? (runs : List CaseRun) (code : Nat) : Option Nat :=
  match runs.find? (fun r => code ≤ r.last) with
  | some r =>
    if r.first ≤ code ∧ (code - r.first) % r.step = 0 then some (r.target + (code - r.first))
    else none
  | none => none

/-- The case mapping given by runs and by sequences; any other character maps to itself. -/
def caseMapping (runs : List CaseRun) (sequences : List (Nat × List Nat)) (c : Char) : List Char :=
  match CaseRun.target? runs c.toNat with
  | some code => [Char.ofNat code]
  | none =>
    match sequences.lookup c.toNat with
    | some codes => codes.map Char.ofNat
    | none => [c]

/-- **The upper case of a character**, special casings included. -/
def upper (c : Char) : List Char :=
  caseMapping upperRuns upperSequences c

/-- **The lower case of a character**, special casings included. -/
def lower (c : Char) : List Char :=
  caseMapping lowerRuns lowerSequences c

/-- The first character of the upper case. -/
def simpleUpper (c : Char) : Char :=
  (upper c).headD c

/-- The first character of the lower case. -/
def simpleLower (c : Char) : Char :=
  (lower c).headD c

/-! ## Texts -/

/-- The capital sigma. -/
def capitalSigma : Char := 'Σ'

/-- Whether a text goes on with a character that has a case, others that are passed over aside. -/
def goesOnCased : List Char → Bool
  | [] => false
  | c :: cs => if caseIgnorable.contains c.toNat then goesOnCased cs else cased.contains c.toNat

/-- A text in lower case, given whether it comes behind a character that has a case. -/
def lowerFrom (inWord : Bool) : List Char → List Char
  | [] => []
  | c :: cs =>
    let staysInWord := if caseIgnorable.contains c.toNat then inWord else cased.contains c.toNat
    let lowered :=
      if c = capitalSigma then [if inWord && !goesOnCased cs then 'ς' else 'σ'] else lower c
    lowered ++ lowerFrom staysInWord cs

/-- **Characters in lower case.** -/
def lowerChars (cs : List Char) : List Char :=
  lowerFrom false cs

/-- **A text in lower case.** -/
def lowerText (s : String) : String :=
  String.ofList (lowerChars s.toList)

end TreeSift.Text
