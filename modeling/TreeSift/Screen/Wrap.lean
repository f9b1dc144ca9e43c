import TreeSift.Screen.StyledText
import TreeSift.Text.Blank
import TreeSift.Text.Split

/-! # Wrapping text

`wrap` breaks a text into lines of a width. A line is broken after the blanks behind a word; a word
that no line can hold starts a new line and is cut wherever a line is full. -/

namespace TreeSift.Screen

open TreeSift.Text (isBlank trimEnd splitWhere)

/-! ## Tabs -/

/-- The width between two tab stops, for `expandPart`. -/
def tabWidth : Nat := 8

/-- The parts of a line that end with a tab, and what is left, given the part before it. -/
def tabParts (part : List Char) : List Char → List (List Char)
  | [] => [part]
  | c :: cs =>
    if c = '\t' then (part ++ [c]) :: tabParts [] cs else tabParts (part ++ [c]) cs

/-- A part that starts in a column, with blanks for the tab at its end up to the next stop. -/
def expandPart (column : Nat) (part : StyledText) : StyledText :=
  if part.text.getLast? = some '\t' then
    let blank := { part with text := part.text.dropLast ++ [' '] }
    let reached := column + columns blank.text
    blank.extend ((tabWidth - reached % tabWidth) % tabWidth)
  else part

/-- Parts with blanks for their tabs, of which the first one starts in a column. -/
def expandParts (column : Nat) : List StyledText → List StyledText
  | [] => []
  | part :: parts =>
    let expanded := expandPart column part
    expanded :: expandParts (column + columns expanded.text) parts

/-- **A line with blanks for its tabs**, each up to the next multiple of `tabWidth`. -/
def expandTabs (line : StyledText) : StyledText :=
  if '\t' ∈ line.text then .join (expandParts 0 (line.parts 0 (tabParts [] line.text))) else line

/-- A line without tabs stays as it is, under `expandTabs`. -/
theorem expandTabs_of_not_mem {line : StyledText} (h : '\t' ∉ line.text) :
    expandTabs line = line :=
  if_neg h

/-! ## Words -/

/-- A text cut before every word but the first: a word goes on with the blanks behind it. `word` is
the word so far, and `ended` says that blanks have followed it. -/
def wordsFrom (word : List Char) (started ended : Bool) : List Char → List (List Char)
  | [] => [word]
  | c :: cs =>
    if isBlank c then wordsFrom (word ++ [c]) started started cs
    else if ended then word :: wordsFrom [c] true false cs
    else wordsFrom (word ++ [c]) true false cs

/-- **The words of a line with the blanks behind them**, in which `wrapLine` may break it. -/
def words (line : List Char) : List (List Char) :=
  wordsFrom [] false false line

/-- The words of a text hold the word before it and the text. -/
theorem flatten_wordsFrom (word : List Char) (started ended : Bool) (line : List Char) :
    (wordsFrom word started ended line).flatten = word ++ line := by
  induction line generalizing word started ended with
  | nil => simp [wordsFrom]
  | cons c cs ih =>
    unfold wordsFrom
    split
    · simp [ih]
    · split <;> simp [ih]

/-- **The words of a line make up the line.** Nothing is lost by `words`. -/
@[simp] theorem flatten_words (line : List Char) : (words line).flatten = line :=
  flatten_wordsFrom [] false false line

/-! ## Lines -/

/-- Lines that hold words; `line` is the line that is being filled, and takes `used` columns. -/
def fill (width : Nat) (line : List Char) (used : Nat) : List (List Char) → List (List Char)
  | [] => [line]
  | word :: rest =>
    if used + columns (trimEnd word) ≤ width then
      fill width (line ++ word) (used + columns word) rest
    else if columns (trimEnd word) ≤ width then
      line :: fill width word (columns word) rest
    else
      -- no line can hold the word; the last piece may have others behind it
      let pieces := chop width word
      let last := (pieces.getLast?).getD []
      (if line.isEmpty then [] else [line]) ++ pieces.dropLast ++
        fill width last (columns last) rest

/-- All but the last of some pieces, and the last one, make up the pieces. -/
theorem flatten_dropLast_append (pieces : List (List Char)) :
    pieces.dropLast.flatten ++ (pieces.getLast?).getD [] = pieces.flatten := by
  rcases List.eq_nil_or_concat pieces with rfl | ⟨front, last, rfl⟩ <;> simp

/-- **Filling lines with words loses nothing.** -/
theorem flatten_fill (width : Nat) (line : List Char) (used : Nat) (rest : List (List Char)) :
    (fill width line used rest).flatten = line ++ rest.flatten := by
  induction rest generalizing line used with
  | nil => simp [fill]
  | cons word rest ih =>
    unfold fill
    split
    · simp [ih]
    · split
      · simp [ih]
      · have hpieces := flatten_dropLast_append (chop width word)
        rw [flatten_chop] at hpieces
        by_cases hline : line = []
        · simp [ih, hline, ← List.append_assoc, hpieces]
        · simp [ih, hline, ← List.append_assoc]
          rw [List.append_assoc line, hpieces]

/-- A line without the blanks at its end that lie behind a number of characters. -/
def dropOverhang (width : Nat) (line : StyledText) : StyledText :=
  let length := line.text.length
  let blanks := length - (trimEnd line.text).length
  line.take (length - min blanks (length - width))

/-- A line of a text as lines of a width: its `words` filled into lines, without the blanks that
hang over. -/
def wrapLine (width : Nat) (line : StyledText) : List StyledText :=
  let line := expandTabs line
  (line.parts 0 (fill width [] 0 (words line.text))).map (dropOverhang width)

/-- **A text as lines of a width**, before they are cut or filled: each of its lines by `wrapLine`.
-/
def wrap (width : Nat) (styled : StyledText) : List StyledText :=
  (styled.parts 1 (splitWhere (· == '\n') styled.text)).flatMap (wrapLine width)

/-- A text as lines that are cut to a width, each line of `wrap` by `StyledText.cutTo`. -/
def wrapCut (width : Nat) (styled : StyledText) : List StyledText :=
  (wrap width styled).map (·.cutTo width)

/-- A line that is filled to a width. The blanks are counted for the whole line, but the line is
`drawn` run by run. -/
def leftAligned (width : Nat) (line : StyledText) : List Char :=
  (line.pad (width - columns line.text)).drawn width

/-- A text as lines that are filled to a width on both sides, each line of `wrap`; the left side
gets the smaller half. -/
def wrapCentred (width : Nat) (text : List Char) : List (List Char) :=
  (wrap width { text }).map fun line =>
    let line := cut width (trimEnd line.text)
    let line := spaces ((width - columns line) / 2) ++ line
    line ++ spaces (width - columns line)

end TreeSift.Screen
