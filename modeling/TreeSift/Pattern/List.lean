import TreeSift.Pattern.Basic
import TreeSift.Text.Blank

/-! # Pattern lists

A pattern list is a list of compiled patterns, in the order in which they were given; it matches a
path when one of them does, and those after it are not asked. `compileAll` compiles texts as they
stand, `compileTrimmed` trims them first, and `splitList` takes a list apart that is written as one
text with commas. -/

namespace TreeSift

open TreeSift.Glob (CaseMode)
open TreeSift.Text (trimText)

/-- **Patterns of which one has to match**, in the order in which they are asked. -/
abbrev PatternList := List Pattern

namespace PatternList

/-- Compiles pattern texts in order by `Pattern.compile`; the first one that fails decides. -/
def compileAll (raws : List String) : Except PatternError PatternList :=
  raws.mapM Pattern.compile

/-- Compiles pattern texts without the blanks around them: `compileAll` after `trimText`. -/
def compileTrimmed (raws : List String) : Except PatternError PatternList :=
  compileAll (raws.map trimText)

/-- Some pattern matches the path. The first one that does, or fails to say, decides, as
`Pattern.matchesPath` of the others is not asked. -/
def matchesPath : PatternList → CaseMode → String → Except CrossedGroup Bool
  | [], _, _ => .ok false
  | p :: ps, mode, path => do
    if ← p.matchesPath mode path then return true else matchesPath ps mode path

/-- Some pattern could match something below the path, by `Pattern.matchesStart`. -/
def matchesStart (patterns : PatternList) (mode : CaseMode) (path : String) : Bool :=
  patterns.any fun p => p.matchesStart mode path

/-- The texts of the patterns, without their markers: `Pattern.source` of each. -/
def sources (patterns : PatternList) : List String :=
  patterns.map fun p => String.ofList p.source

@[simp] theorem matchesPath_nil (mode : CaseMode) (path : String) :
    PatternList.matchesPath [] mode path = .ok false := rfl

/-- A pattern that matches settles the question for `PatternList.matchesPath`. -/
theorem matchesPath_cons_of_matches {pattern : Pattern} {mode : CaseMode} {path : String}
    (h : pattern.matchesPath mode path = .ok true) (patterns : PatternList) :
    PatternList.matchesPath (pattern :: patterns) mode path = .ok true := by
  simp [matchesPath, h, bind, Except.bind, pure, Except.pure]

/-- A pattern that does not match leaves the question of `PatternList.matchesPath` to the others. -/
theorem matchesPath_cons_of_not_matches {pattern : Pattern} {mode : CaseMode} {path : String}
    (h : pattern.matchesPath mode path = .ok false) (patterns : PatternList) :
    PatternList.matchesPath (pattern :: patterns) mode path =
      PatternList.matchesPath patterns mode path := by
  simp [matchesPath, h, bind, Except.bind]

end PatternList

/-- **The patterns of a comma-separated text**: its parts by `trimText`, without the blank ones. -/
def splitList (text : String) : List String :=
  ((Text.splitWhere (· == ',') text.toList).map fun part => String.ofList (Text.trim part)).filter
    fun part => part != ""

end TreeSift
