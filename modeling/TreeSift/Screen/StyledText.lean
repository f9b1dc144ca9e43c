import TreeSift.Screen.Width

/-! # Texts with styles

A `StyledText` is a text with the stretches that have styles. How they look does not matter here,
but a text is drawn run by run, where runs lie between the ends of stretches: what belongs into one
place is drawn in two if a run ends in between. `drawn` brings a text to a width on this footing. -/

namespace TreeSift.Screen

/-- The part of a text that has a style, by the numbers of characters before its first one and up to
its last one. -/
structure Stretch where
  /-- The words that describe the style. -/
  style : List Char
  /-- The number of characters before it. -/
  first : Nat
  /-- The number of characters before what follows it. -/
  last : Nat
  deriving DecidableEq, Repr

/-- **A text with styles**, each for one `Stretch` of it. -/
structure StyledText where
  /-- The characters. -/
  text : List Char
  /-- The stretches with styles. -/
  stretches : List Stretch := []
  deriving DecidableEq, Repr

namespace StyledText

/-! ## Parts -/

/-- The part of a text between two places. A `Stretch` without characters in it is left out. -/
def slice (styled : StyledText) (first last : Nat) : StyledText where
  text := (styled.text.take last).drop first
  stretches := styled.stretches.filterMap fun stretch =>
    let start := stretch.first - first
    let stop := min stretch.last last - first
    if start < stop then some { stretch with first := start, last := stop } else none

/-- The parts of a text from a place on that are as long as the given ones, each a `slice`, with
`gap` characters between two of them. -/
def partsFrom (styled : StyledText) (gap first : Nat) : List (List Char) → List StyledText
  | [] => []
  | part :: parts =>
    let last := first + part.length
    styled.slice first last :: styled.partsFrom gap (last + gap) parts

/-- The parts of a text that are as long as the given ones. A single part is the text itself. -/
def parts (styled : StyledText) (gap : Nat) : List (List Char) → List StyledText
  | [_] => [styled]
  | parts => styled.partsFrom gap 0 parts

/-- The first characters of a text, as many as are told. -/
def take (styled : StyledText) (n : Nat) : StyledText :=
  if styled.text.length ≤ n then styled
  else
    { text := styled.text.take n
      stretches := (styled.stretches.filter (·.first < n)).map fun stretch =>
        { stretch with last := min stretch.last n } }

/-- A text that is cut to a number of columns by `cut`, measured as a whole. -/
def cutTo (width : Nat) (styled : StyledText) : StyledText :=
  let text := cut width styled.text
  { styled.take text.length with text }

/-- A text with blanks behind it, which have no style. -/
def pad (n : Nat) (styled : StyledText) : StyledText :=
  { styled with text := styled.text ++ spaces n }

/-- A text with blanks behind it, which have the styles that reach its end. In `pad` they have none.
-/
def extend (n : Nat) (styled : StyledText) : StyledText where
  text := styled.text ++ spaces n
  stretches := styled.stretches.map fun stretch =>
    if styled.text.length ≤ stretch.last then { stretch with last := stretch.last + n } else stretch

/-- A text behind another one. -/
def append (left right : StyledText) : StyledText where
  text := left.text ++ right.text
  stretches := left.stretches ++ right.stretches.map fun stretch =>
    { stretch with
      first := left.text.length + stretch.first
      last := left.text.length + stretch.last }

/-- Texts one behind the other, by `append`. -/
def join (texts : List StyledText) : StyledText :=
  texts.foldl append ⟨[], []⟩

/-! ## Runs -/

/-- The text from a place on, cut at the marks that lie in it, given the run before it. -/
def runsFrom (marks : List Nat) (place : Nat) (run : List Char) : List Char → List (List Char)
  | [] => [run]
  | c :: cs =>
    if marks.contains place && !run.isEmpty then run :: runsFrom marks (place + 1) [c] cs
    else runsFrom marks (place + 1) (run ++ [c]) cs

/-- **The runs of a text**: it is cut wherever a `Stretch` begins or ends. -/
def runs (styled : StyledText) : List (List Char) :=
  runsFrom (styled.stretches.flatMap fun stretch => [stretch.first, stretch.last]) 0 [] styled.text

/-- Runs hold the text before them and the text that `runsFrom` cuts them from. -/
theorem flatten_runsFrom (marks : List Nat) (place : Nat) (run cs : List Char) :
    (runsFrom marks place run cs).flatten = run ++ cs := by
  induction cs generalizing place run with
  | nil => simp [runsFrom]
  | cons c cs ih =>
    unfold runsFrom
    split <;> simp [ih]

/-- **The runs of a text make up the text.** Nothing is lost by `runs`. -/
@[simp] theorem flatten_runs (styled : StyledText) : styled.runs.flatten = styled.text :=
  flatten_runsFrom _ 0 [] styled.text

/-- The columns of a text that is drawn run by run: the sum of the `columns` of its runs. -/
def drawnColumns (styled : StyledText) : Nat :=
  styled.runs.foldr (fun run total => columns run + total) 0

/-- Runs cut to the columns that are left. Nothing is drawn behind the run that fills them. -/
def cutRuns (room : Nat) : List (List Char) → List Char
  | [] => []
  | run :: runs =>
    if columns run < room then run ++ cutRuns (room - columns run) runs else cut room run

/-- A text that is cut to a width, run by run. -/
def drawnWithin (width : Nat) (styled : StyledText) : List Char :=
  if styled.drawnColumns ≤ width then styled.text else cutRuns width styled.runs

/-- **A text that is cut or filled to a width**, run by run: by `drawnWithin`, with blanks behind
it. -/
def drawn (width : Nat) (styled : StyledText) : List Char :=
  styled.drawnWithin width ++ spaces (width - styled.drawnColumns)

/-- What fits is `drawn` with nothing but blanks behind it. -/
theorem drawn_of_le {width : Nat} {styled : StyledText} (h : styled.drawnColumns ≤ width) :
    styled.drawn width = styled.text ++ spaces (width - styled.drawnColumns) := by
  simp [drawn, drawnWithin, h]

/-- Without styles there is one run, since `runs` has no place to cut at. -/
theorem runs_of_stretches_eq_nil {styled : StyledText} (h : styled.stretches = []) :
    styled.runs = [styled.text] := by
  have hruns : ∀ (place : Nat) (run cs : List Char), runsFrom [] place run cs = [run ++ cs] := by
    intro place run cs
    induction cs generalizing place run with
    | nil => simp [runsFrom]
    | cons c cs ih => simp [runsFrom, ih]
  rw [runs, h]
  exact hruns 0 [] styled.text

end StyledText

end TreeSift.Screen
