import TreeSift.Glob.Segment
import TreeSift.Text.Split

/-! # Glob patterns over paths

A path and a glob are lists of segments. The segment `**` of a glob stands for any run of path
segments, none included; every other one for one path segment, by `matchSegment`.

`matchTokens` first pairs off the segments before the first and after the last `**`, and then
fills a table for what lies between; `PathMatches` is the relation that it decides. `matchStart`
says whether a path can still be continued to a match. -/

namespace TreeSift.Glob

open TreeSift.Text (splitWhere splitWhere_append_cons not_mem_of_mem_splitWhere)

/-- The two characters at which `tokenize` cuts: slash and backslash. -/
def isSeparator (c : Char) : Bool :=
  c == '/' || c == '\\'

/-- **The segments of a path or glob**: its non-empty parts between separators, by `splitWhere`. -/
def tokenize (text : List Char) : List Segment :=
  (splitWhere isSeparator text).filter fun part => !part.isEmpty

/-- A separator ends the segments before it: `tokenize` of what is in front and behind. -/
theorem tokenize_append_cons {c : Char} (hc : isSeparator c = true) (front back : List Char) :
    tokenize (front ++ c :: back) = tokenize front ++ tokenize back := by
  rw [tokenize, splitWhere_append_cons hc, List.filter_append]
  rfl

/-- No segment that `tokenize` gives is empty. -/
theorem ne_nil_of_mem_tokenize {text : List Char} {segment : Segment}
    (h : segment ∈ tokenize text) : segment ≠ [] := by
  simpa using (List.mem_filter.1 h).2

/-- No segment that `tokenize` gives holds a separator. -/
theorem isSeparator_of_mem_tokenize {text : List Char} {segment : Segment}
    (h : segment ∈ tokenize text) : ∀ c ∈ segment, isSeparator c = false :=
  not_mem_of_mem_splitWhere (List.mem_filter.1 h).1

/-- The segment `**`, which stands for any run of segments. -/
def deepWildcard : Segment :=
  ['*', '*']

/-- **The glob relation**: how a glob aligns with a whole path, segment by segment but for
`deepWildcard`. -/
inductive PathMatches (mode : CaseMode) : List Segment → List Segment → Prop where
  /-- The empty glob covers the empty path. -/
  | nil : PathMatches mode [] []
  /-- A deep wildcard covers no segment. -/
  | deepEmpty {pattern path : List Segment} :
      PathMatches mode pattern path → PathMatches mode (deepWildcard :: pattern) path
  /-- A deep wildcard covers one segment and may go on. -/
  | deepTake {pattern path : List Segment} {s : Segment} :
      PathMatches mode (deepWildcard :: pattern) path →
        PathMatches mode (deepWildcard :: pattern) (s :: path)
  /-- Any other token covers one segment. -/
  | segment {pattern path : List Segment} {p s : Segment} :
      p ≠ deepWildcard → matchSegment mode p s = true → PathMatches mode pattern path →
        PathMatches mode (p :: pattern) (s :: path)

/-- Pairs off the leading segments of a glob and a path, up to a `deepWildcard` or the end of one of
them. There is no result if a pair fails by `matchSegment`. -/
def pairOff (mode : CaseMode) : List Segment → List Segment → Option (List Segment × List Segment)
  | p :: pattern, s :: path =>
    if p = deepWildcard then some (p :: pattern, s :: path)
    else if matchSegment mode p s then pairOff mode pattern path
    else none
  | pattern, path => some (pattern, path)

/-- The row of a `deepWildcard`, from the row `below`: true from the last true entry backwards. -/
def deepRow (below : List Bool) : List Bool :=
  below.foldr (fun b row => (b || row.headD false) :: row) []

/-- The row of any other token `p`, from the row `below`: true where `p` covers a segment and the
rest goes on below. -/
def segmentRow (mode : CaseMode) (p : Segment) (path : List Segment) (below : List Bool) :
    List Bool :=
  List.zipWith (fun s b => matchSegment mode p s && b) path below.tail ++ [false]

/-- For each suffix of `path`, the longest first, whether the glob matches it. The rows of this
table are filled from the end of the glob. -/
def matchRow (mode : CaseMode) (path : List Segment) : List Segment → List Bool
  | [] => path.map (fun _ => false) ++ [true]
  | p :: pattern =>
    if p = deepWildcard then deepRow (matchRow mode path pattern)
    else segmentRow mode p path (matchRow mode path pattern)

/-- Matches a glob by the table of its suffixes and those of the path: the first entry of
`matchRow`. -/
def matchTable (mode : CaseMode) (pattern path : List Segment) : Bool :=
  (matchRow mode path pattern).headD false

/-- Each token left is a `deepWildcard`. -/
def allDeep (pattern : List Segment) : Bool :=
  pattern.all (· == deepWildcard)

/-- **Whether a glob matches a path**: both ends are paired off by `pairOff`, and `matchTable`
decides what is left between them. -/
def matchTokens (mode : CaseMode) (pattern path : List Segment) : Bool :=
  match pairOff mode pattern path with
  | none => false
  | some (pattern, path) =>
    match pairOff mode pattern.reverse path.reverse with
    | none => false
    | some (revPattern, revPath) =>
      -- what is left of the glob is empty, or starts and ends with a deep wildcard
      if revPath.isEmpty then allDeep revPattern
      else if revPattern.isEmpty then false
      else if allDeep revPattern then true
      else matchTable mode revPattern.reverse revPath.reverse

/-- **Whether a path can be continued to one that the glob matches**, as far as its segments tell:
it agrees with the glob up to its end or to a `deepWildcard`. -/
def matchStart (mode : CaseMode) : List Segment → List Segment → Bool
  | _, [] => true
  | [], _ :: _ => false
  | p :: pattern, s :: path =>
    if p = deepWildcard then true
    else if matchSegment mode p s then matchStart mode pattern path
    else false

end TreeSift.Glob
