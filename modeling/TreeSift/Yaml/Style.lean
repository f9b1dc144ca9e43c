import TreeSift.Document.Value
import TreeSift.Text.Base64
import TreeSift.Text.Digits
import TreeSift.Yaml.Chars
import TreeSift.Yaml.Tag

/-! # Styles of scalars

A scalar is written plain if it can be read back so, between single quotes if it has printable
characters of ASCII only, and between double quotes with escapes otherwise. `writeScalar` chooses
the style and folds long scalars at single spaces.

Columns count from zero. A scalar is given the column where it starts and the indentation of the
lines that it goes on in. -/

namespace TreeSift.Yaml

open TreeSift.Document
open TreeSift.Text (hexDigits)

/-- How a scalar is written. -/
inductive Style where
  /-- As it is. -/
  | plain
  /-- Between single quotes, with each single quote doubled. -/
  | single
  /-- Between double quotes, with escapes. -/
  | double
  deriving DecidableEq, Repr

/-- Lines are folded behind this column. -/
def lineWidth : Nat := 80

/-- Whether a character stands for itself in every style. -/
def isPrintable (c : Char) : Bool :=
  ' ' ≤ c && c ≤ '~'

/-! ## Choosing a style -/

/-- The characters that a plain scalar must not start with. -/
def leadingIndicators : List Char :=
  "#,[]\x7b\x7d&*!|>'\"%@`".toList

/-- Whether the start of a text would be read as an indicator. -/
def startsIndicator : List Char → Bool
  | '-' :: '-' :: '-' :: _ => true
  | '.' :: '.' :: '.' :: _ => true
  | c :: rest =>
    leadingIndicators.contains c || ((c == '?' || c == ':' || c == '-') && atBlank rest)
  | [] => false

/-- Whether a colon before a gap or a number sign after one would be read as an indicator. -/
def holdsIndicator : List Char → Bool
  | c :: d :: rest =>
    (d == ':' && atBlank rest) || (isGap c && d == '#') || holdsIndicator (d :: rest)
  | _ => false

/-- Whether a text can be written plain, as far as its characters tell. Neither `startsIndicator`
nor `holdsIndicator` may be true of it. -/
def allowsPlain (text : List Char) : Bool :=
  text.all isPrintable && text.head? != some ' ' && text.getLast? != some ' ' &&
    !startsIndicator text && !holdsIndicator text

/-- Whether a space stands beside a line feed. -/
def spaceAtBreak : List Char → Bool
  | c :: d :: rest =>
    (c == ' ' && d == '\n') || (c == '\n' && d == ' ') || spaceAtBreak (d :: rest)
  | _ => false

/-- Whether a text can be written between single quotes. -/
def allowsSingle (text : List Char) : Bool :=
  text.all (fun c => c == '\n' || isPrintable c) && !spaceAtBreak text

/-- **The style of a text**: plain if `Tag.ofContent` takes it for a text and `allowsPlain` lets it
be, else between single quotes if `allowsSingle`, and otherwise between double ones. -/
def styleOf (text : String) : Style :=
  let cs := text.toList
  if Tag.ofContent text == .text && allowsPlain cs then .plain
  else if allowsSingle cs then .single
  else .double

/-! ## Writing in a style -/

/-- A number of spaces. -/
def spaces (count : Nat) : List Char :=
  List.replicate count ' '

/-- A line feed and an indentation. -/
def newLine (indent : Nat) : List Char :=
  '\n' :: spaces indent

/-- Whether two characters belong to the same run: of spaces, of line feeds or of others. -/
def sameRun (a b : Char) : Bool :=
  (a == ' ') == (b == ' ') && (a == '\n') == (b == '\n')

/-- A character between single quotes. -/
def singleChar (c : Char) : List Char :=
  if c = '\'' then ['\'', '\''] else [c]

/-- The runs of a text, folded. A single space behind the `lineWidth` becomes a new line, unless it
is at the start or end of the text; line feeds take one more. -/
def writeRuns (fold : Bool) (write : Char → List Char) (indent : Nat) :
    Bool → Nat → List (List Char) → List Char
  | _, _, [] => []
  | first, column, run :: runs =>
    if run.head? == some ' ' then
      -- a single space between two runs can be read back from a line break
      if fold && run.length == 1 && decide (lineWidth < column) && !first && !runs.isEmpty then
        newLine indent ++ writeRuns fold write indent false indent runs
      else run ++ writeRuns fold write indent false (column + run.length) runs
    else if run.head? == some '\n' then
      run ++ newLine indent ++ writeRuns fold write indent false indent runs
    else
      let written := run.flatMap write
      written ++ writeRuns fold write indent false (column + written.length) runs

/-- The escape of a character that has a name. -/
def namedEscapeOf? : Char → Option Char
  | '\x00' => some '0'
  | '\x07' => some 'a'
  | '\x08' => some 'b'
  | '\t' => some 't'
  | '\n' => some 'n'
  | '\x0b' => some 'v'
  | '\x0c' => some 'f'
  | '\r' => some 'r'
  | '\x1b' => some 'e'
  | '"' => some '"'
  | '\\' => some '\\'
  | '\x85' => some 'N'
  | '\xa0' => some '_'
  | '\u2028' => some 'L'
  | '\u2029' => some 'P'
  | _ => none

/-- The hexadecimal digits of a code point, in upper case. -/
def upperHex (width code : Nat) : List Char :=
  (hexDigits width code).map Char.toUpper

/-- The escape of a character by its code point. -/
def codeEscapeOf (code : Nat) : List Char :=
  if code ≤ 0xff then '\\' :: 'x' :: upperHex 2 code
  else if code ≤ 0xffff then '\\' :: 'u' :: upperHex 4 code
  else '\\' :: 'U' :: upperHex 8 code

/-- How a character is escaped between double quotes, if it is. -/
def doubleEscape? (c : Char) : Option (List Char) :=
  match namedEscapeOf? c with
  | some d => some ['\\', d]
  | none => if isPrintable c then none else some (codeEscapeOf c.toNat)

/-- What hides a line break between double quotes, the break, and the indentation. A space that
comes next is escaped. -/
def hiddenBreak (indent : Nat) (next? : Option Char) : List Char :=
  '\\' :: newLine indent ++ (if next? == some ' ' then ['\\'] else [])

/-- The column after `hiddenBreak`. -/
def columnAfterBreak (indent : Nat) (next? : Option Char) : Nat :=
  if next? == some ' ' then indent + 1 else indent

/-- A text between double quotes, folded: before a space and after an escape, when what is `pending`
would end behind the line width. -/
def writeDouble (fold : Bool) (indent : Nat) : Bool → Nat → List Char → List Char → List Char
  | _, _, pending, [] => pending.reverse
  | first, column, pending, c :: rest =>
    let mayFold := fold && !first && !rest.isEmpty
    match doubleEscape? c with
    | some escape =>
      let written := pending.reverse ++ escape
      let column := column + written.length
      -- the last column of the escape may lie on the line width
      if mayFold && decide (lineWidth < column - 1) then
        let next? := rest.head?
        written ++ hiddenBreak indent next? ++
          writeDouble fold indent false (columnAfterBreak indent next?) [] rest
      else written ++ writeDouble fold indent false column [] rest
    | none =>
      if mayFold && (c == ' ' || pending.isEmpty) &&
          decide (lineWidth < column + pending.length) then
        pending.reverse ++ hiddenBreak indent (some c) ++
          writeDouble fold indent false (columnAfterBreak indent (some c)) [c] rest
      else writeDouble fold indent false column (c :: pending) rest

/-- A text in its style, which `styleOf` chooses. -/
def writeText (fold : Bool) (indent column : Nat) (text : String) : List Char :=
  let cs := text.toList
  match styleOf text with
  | .plain => writeRuns fold (fun c => [c]) indent true column (cs.splitBy sameRun)
  | .single =>
    '\'' :: writeRuns fold singleChar indent true (column + 1) (cs.splitBy sameRun) ++ ['\'']
  | .double => '"' :: writeDouble fold indent true (column + 1) [] cs ++ ['"']

/-- A floating-point number, always with a point. -/
def writeFloat : Binary64 → List Char
  | .nan => ".nan".toList
  | .infinite negative => if negative then "-.inf".toList else ".inf".toList
  | value =>
    let cs := value.text.toList
    if cs.contains '.' then cs
    else cs.takeWhile (· != 'e') ++ ".0".toList ++ cs.dropWhile (· != 'e')

/-- The lines of bytes in base 64, of at most 76 characters each. -/
def base64Lines (bytes : List UInt8) : List (List Char) :=
  if h : bytes = [] then []
  else
    have : (bytes.drop 57).length < bytes.length := by
      have := List.length_pos_iff.2 h
      simp only [List.length_drop]
      omega
    -- 57 bytes fill a line
    Text.encodeBase64 (bytes.take 57) :: base64Lines (bytes.drop 57)
termination_by bytes.length

/-- Bytes in base 64 behind their tag: a block whose lines are indented, unless there are none. -/
def writeBytes (indent : Nat) (bytes : List UInt8) : List Char :=
  Tag.binary.shortName.toList ++
    if bytes.isEmpty then " ''".toList
    else " |".toList ++ (base64Lines bytes).flatMap fun line => newLine indent ++ line

/-- **A scalar at a column**, with the indentation of its further lines. -/
def writeScalar (fold : Bool) (indent column : Nat) : Scalar → List Char
  | .null => "null".toList
  | .bool value => if value then "true".toList else "false".toList
  | .int value => (toString value).toList
  | .float value => writeFloat value
  | .text value => writeText fold indent column value
  | .timestamp value =>
    writeRuns fold (fun c => [c]) indent true column (value.text.toList.splitBy sameRun)
  | .bytes value => writeBytes indent value

end TreeSift.Yaml
