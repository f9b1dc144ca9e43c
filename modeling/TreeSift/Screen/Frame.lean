import TreeSift.Screen.Extent
import TreeSift.Screen.Markup
import TreeSift.Screen.Wrap

/-! # Frames and paragraphs

What is put on a screen: a table of one column below a title, a panel of labels and counts, and
paragraphs. Texts come with markup, and every piece is a list of lines. -/

namespace TreeSift.Screen

open TreeSift.Text (splitWhere)

/-- **Lines on a screen**, which `Lines.text` puts together. -/
abbrev Lines := List (List Char)

/-- Whether a character ends a line, when the width of a text is measured. -/
def endsLine (c : Char) : Bool :=
  (10 ≤ c.toNat && c.toNat ≤ 13) || (0x1c ≤ c.toNat && c.toNat ≤ 0x1e) || c.toNat = 0x85 ||
    c.toNat = 0x2028 || c.toNat = 0x2029

/-- The columns of the longest line of a text, which `endsLine` cuts. -/
def longestLine (text : List Char) : Nat :=
  ((splitWhere endsLine text).map columns).foldl max 0

/-- A line of a frame: a corner, a dash for every column between, and a corner. -/
def border (left right : Char) (width : Nat) : List Char :=
  left :: List.replicate width '─' ++ [right]

/-- A line between the sides of a frame. -/
def framed (line : List Char) : List Char :=
  '│' :: ' ' :: line ++ [' ', '│']

/-- The columns inside a table on a screen: those of its longest row, as far as there is room. A table
without rows takes all the room. -/
def tableColumns (screen : Extent) (rows : List StyledText) : Nat :=
  if rows.isEmpty then screen.columns - 4
  else min (screen.columns - 4) ((rows.map fun row => longestLine row.text).foldl max 0)

/-- The lines of a row of a table: those of `wrapCut`, each `leftAligned`. -/
def rowLines (width : Nat) (row : StyledText) : Except MarkupFault Lines := do
  if width = 0 then return [[]]
  let lines := wrapCut width row
  checkStyles lines
  return lines.map (leftAligned width)

/-- A table of rows that are shown as they are, below a title that `wrapCentred` puts in the middle.
-/
def frameRows (screen : Extent) (title : String) (rows : List StyledText) :
    Except MarkupFault Lines := do
  let width := tableColumns screen rows
  return wrapCentred (width + 4) title.toList ++ [border '┌' '┐' (width + 2)] ++
    ((← rows.mapM (rowLines width)).flatten).map framed ++ [border '└' '┘' (width + 2)]

/-- **A table of one column below a title.** The markup of all rows is looked at, by
`StyledText.ofMarkup`, before a row is shown. -/
def table (screen : Extent) (title : String) (rows : List String) : Except MarkupFault Lines := do
  frameRows screen title (← rows.mapM StyledText.ofMarkup)

/-- The columns of the longest of some texts. -/
def longest (texts : List String) : Nat :=
  (texts.map fun text => columns text.toList).foldl max 0

/-- **A panel of labels and counts**, with a blank row between two rows. It is as wide as the
`longest` label and count need. -/
def panel (title : String) (entries : List (String × String)) : Lines :=
  let labels := longest (entries.map (·.1))
  let counts := longest (entries.map (·.2))
  let heading := ' ' :: title.toList ++ [' ']
  -- the heading stands in the middle of the dashes that it leaves
  let dashes := labels + counts + 1 - columns heading
  let line (entry : String × String) : List Char :=
    framed (fit labels entry.1.toList ++ [' '] ++ fit counts entry.2.toList)
  ['╭' :: List.replicate (dashes / 2 + 1) '─' ++ heading ++
      List.replicate (dashes - dashes / 2 + 1) '─' ++ ['╮']] ++
    (entries.map line).intersperse (framed (spaces (labels + counts + 1))) ++
    [border '╰' '╯' (labels + counts + 3)]

/-- **A paragraph** that goes over as many lines as it needs, by `wrapCut` on the text that its
markup writes. -/
def paragraph (screen : Extent) (text : String) : Except MarkupFault Lines := do
  let lines := wrapCut screen.columns (← StyledText.ofMarkup text)
  checkStyles lines
  return lines.map (·.drawnWithin screen.columns)

/-- The text of lines, each with its line feed. -/
def Lines.text (lines : Lines) : String :=
  String.ofList (lines.flatMap (· ++ ['\n']))

end TreeSift.Screen
