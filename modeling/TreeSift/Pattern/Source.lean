/-! # Pattern texts

A pattern text is a glob, unless it is marked: `%ant[…]` marks a glob, `%regex[…]` a regular
expression. A marker counts only if it is closed and holds something; any other text is a glob as
it stands. -/

namespace TreeSift

/-- The two kinds of patterns, which `opening` tells apart. -/
inductive PatternKind where
  /-- A glob: a pattern over path segments. -/
  | ant
  /-- A regular expression over the whole path. -/
  | regex
  deriving DecidableEq, Repr

/-- The word for a kind of pattern: `ant` or `regex`. -/
def PatternKind.label : PatternKind → String
  | .ant => "ant"
  | .regex => "regex"

/-- What opens a marked pattern of a kind: `%ant[` or `%regex[`. -/
def PatternKind.opening : PatternKind → List Char
  | .ant => "%ant[".toList
  | .regex => "%regex[".toList

/-- What closes a marked pattern: `]`. -/
def markerEnd : List Char :=
  [']']

/-- The text is a closed marker of the kind that holds something: `kind.opening`, one character at
least, and `markerEnd`. -/
def PatternKind.marks (kind : PatternKind) (raw : List Char) : Bool :=
  decide (kind.opening.length + markerEnd.length < raw.length) &&
    kind.opening.isPrefixOf raw && markerEnd.isSuffixOf raw

/-- What a marker of the kind holds, between `kind.opening` and `markerEnd`. -/
def PatternKind.unwrap (kind : PatternKind) (raw : List Char) : List Char :=
  (raw.drop kind.opening.length).dropLast

/-- **A pattern text without its marker**, and the kind that the marker said. -/
structure PatternSource where
  /-- The kind that the marker chooses. -/
  kind : PatternKind
  /-- The text inside of the marker. -/
  text : List Char
  deriving DecidableEq, Repr

/-- Takes a pattern text apart: what a marker of a kind `marks`, and else a glob as it stands. -/
def PatternSource.ofRaw (raw : List Char) : PatternSource :=
  if PatternKind.regex.marks raw then ⟨.regex, PatternKind.regex.unwrap raw⟩
  else if PatternKind.ant.marks raw then ⟨.ant, PatternKind.ant.unwrap raw⟩
  else ⟨.ant, raw⟩

/-- A text that no marker encloses is a glob as it stands: `ofRaw raw = ⟨.ant, raw⟩`. -/
theorem PatternSource.ofRaw_eq_of_not_marks {raw : List Char}
    (hregex : PatternKind.regex.marks raw = false) (hant : PatternKind.ant.marks raw = false) :
    ofRaw raw = ⟨.ant, raw⟩ := by
  simp [ofRaw, hregex, hant]

end TreeSift
