import TreeSift.Glob.Path
import TreeSift.Pattern.Source
import TreeSift.Regex.Basic

/-! # Compiled patterns

A `Pattern` is a compiled pattern text: a glob with its tokens, or a regular expression.
`matchesPath` says whether it matches a relative path, and `matchesStart` whether something below
that path could still match. Globs see the segments of a path; regular expressions see the whole
path with every backslash read as a slash, and rule out no directory. -/

namespace TreeSift

open TreeSift.Glob

/-- **A compiled pattern**: a glob with its tokens, or a regular expression that `Regex.compile`
made. -/
inductive Pattern where
  /-- A glob, with its text and its tokens. -/
  | ant (source : List Char) (tokens : List Segment)
  /-- A regular expression, with its text. -/
  | regex (source : List Char) (expression : Regex)

/-- Why a pattern text does not compile: its source and the `Regex.Refusal` for it. -/
structure PatternError where
  /-- The text without its marker. -/
  source : List Char
  /-- What is wrong with it. -/
  refusal : Regex.Refusal
  deriving DecidableEq, Repr

/-- The wording of a pattern error, with its `source` and its refusal. -/
def PatternError.message (error : PatternError) : String :=
  match error.refusal with
  | .malformed fault =>
    let source := String.ofList error.source
    "Invalid pattern '" ++ source ++ "': " ++ fault.message source
  | .codeTooLarge => "Python int too large to convert to C int"
  | .repetitionTooLarge => "the repetition number is too large"
  | .boundTooLong digits => Text.tooManyDigitsMessage digits
  | .clashingFlags => "ASCII and UNICODE flags are incompatible"

/-- A separator at the end of a glob asks for everything below: `**` is put behind it. -/
def completeGlob (source : List Char) : List Char :=
  match source.getLast? with
  | some c => if isSeparator c then source ++ deepWildcard else source
  | none => source

/-- The path that a regular expression sees, with `/` for each backslash. -/
def withSlashes (path : List Char) : List Char :=
  path.map fun c => if c = '\\' then '/' else c

namespace Pattern

/-- The glob of a text: its tokens are those of `completeGlob`. -/
def ofGlob (source : List Char) : Pattern :=
  .ant source (tokenize (completeGlob source))

/-- Compiles a pattern whose marker is off: an `.ant` source as it stands, a `.regex` one by
`Regex.compile`. -/
def ofSource (source : PatternSource) : Except PatternError Pattern :=
  match source.kind with
  | PatternKind.ant => .ok (ofGlob source.text)
  | PatternKind.regex =>
    match Regex.compile (String.ofList source.text) with
    | .ok expression => .ok (.regex source.text expression)
    | .error refusal => .error ⟨source.text, refusal⟩

/-- **Compiles a pattern text**, taken apart by `PatternSource.ofRaw`. Only a marked regular
expression can fail. -/
def compile (raw : String) : Except PatternError Pattern :=
  ofSource (PatternSource.ofRaw raw.toList)

/-- A pattern text that no marker encloses is compiled as a glob, `ofGlob`. -/
theorem compile_eq_ok_of_not_marks {raw : String}
    (h : ∀ kind : PatternKind, kind.marks raw.toList = false) :
    compile raw = .ok (ofGlob raw.toList) := by
  rw [compile, PatternSource.ofRaw_eq_of_not_marks (h .regex) (h .ant)]
  rfl

/-- The text of a pattern, without its marker, as `sources` shows it. -/
def source : Pattern → List Char
  | .ant source _ => source
  | .regex source _ => source

/-- The kind of a pattern: `.ant` or `.regex`. -/
def kind : Pattern → PatternKind
  | .ant _ _ => .ant
  | .regex _ _ => .regex

/-- The tokens of a glob. A regular expression has none, and `matchesStart` asks it for none. -/
def tokens : Pattern → List Segment
  | .ant _ tokens => tokens
  | .regex _ _ => []

/-- **Whether a pattern matches a relative path**: `matchTokens` of a glob, a full match of a
regular expression. Only the latter can fail to say. -/
def matchesPath (pattern : Pattern) (mode : CaseMode) (path : String) :
    Except CrossedGroup Bool :=
  match pattern with
  | .ant _ tokens => .ok (matchTokens mode tokens (tokenize path.toList))
  | .regex _ expression =>
    expression.matchesAll (mode == .insensitive) (String.ofList (withSlashes path.toList))

/-- **Whether a pattern could match something below a path**: `matchStart` of a glob, and always for
a regular expression. -/
def matchesStart (pattern : Pattern) (mode : CaseMode) (path : String) : Bool :=
  match pattern with
  | .ant _ tokens => matchStart mode tokens (tokenize path.toList)
  | .regex _ _ => true

end Pattern

end TreeSift
