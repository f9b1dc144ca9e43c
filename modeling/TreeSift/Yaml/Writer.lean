import TreeSift.Document.WriteFault
import TreeSift.Yaml.Style

/-! # Writing YAML

`write` writes a mapping by indentation: entries and items on lines of their own, and the items of
a list that belongs to a key in the column of the key. Empty lists and mappings are written in
brackets. A key that is empty, long or has several lines gets an indicator and a line of its own.
Pairs and sets have tags. `writeFault?` says what keeps a mapping from being written. -/

namespace TreeSift.Yaml

open TreeSift.Document

/-- The tag of a scalar. -/
def tagOfScalar : Scalar → Tag
  | .null => .null
  | .bool _ => .bool
  | .int _ => .int
  | .float _ => .float
  | .text _ => .text
  | .timestamp _ => .timestamp
  | .bytes _ => .binary

/-- The text of a scalar before it is given a style. -/
def scalarContent : Scalar → List Char
  | .text value => value.toList
  | .bytes value => (base64Lines value).flatMap (· ++ ['\n'])
  | scalar => writeScalar false 0 0 scalar

/-- The greatest length of a key, together with the name of its tag, that is written in front of its
value. -/
def keyWidth : Nat := 127

/-- Whether a character ends a line wherever it is written as it is. A carriage return never is. -/
def splitsKey (c : Char) : Bool :=
  isBreak c && c != '\r'

/-- Whether a key is written in front of its value: it has characters, none of which `splitsKey`,
and no more than `keyWidth` together with its tag. -/
def isShortKey (key : Scalar) : Bool :=
  let content := scalarContent key
  !content.isEmpty && !content.any splitsKey &&
    decide ((tagOfScalar key).shortName.length + content.length ≤ keyWidth)

/-- The tag of a pair. -/
def pairTag : List Char :=
  "!!python/tuple".toList

/-- A key in a column with what follows it, given the column of the latter: `after` its colon, or
`below` the mark that stands for the colon on a line of its own. -/
def writeKey (indent : Nat) (key : Scalar) (after : Nat → List Char) (below : List Char) :
    List Char :=
  if isShortKey key then
    let written := writeScalar false (indent + 2) indent key
    written ++ ':' :: after (indent + written.length + 1)
  else
    '?' :: ' ' :: writeScalar true (indent + 2) (indent + 2) key ++ newLine indent ++ ':' :: below

/-- A member of a set in a column: a key with nothing after it. -/
def writeMember (indent : Nat) (member : Scalar) : List Char :=
  writeKey indent member (fun _ => " null".toList) " null".toList

/-- A set with its tag. Its members are written in a column. -/
def writeSet (indent : Nat) (members : List Scalar) : List Char :=
  ' ' :: Tag.set.shortName.toList ++
    if members.isEmpty then [' ', '\x7b', '\x7d']
    else members.flatMap fun member => newLine indent ++ writeMember indent member

mutual

/-- A value after a key and its colon, which ends at a column. In `writeAfterMark` it follows an
indicator. -/
def writeAfterKey (indent column : Nat) : Value → List Char
  | .scalar s => ' ' :: writeScalar true (indent + 2) (column + 1) s
  | .list [] => " []".toList
  | .mapping [] => [' ', '\x7b', '\x7d']
  | .list (item :: items) =>
    newLine indent ++ '-' :: writeAfterMark indent item ++ writeItems indent items
  | .mapping (entry :: entries) =>
    newLine (indent + 2) ++ writeEntry (indent + 2) entry ++ writeEntries (indent + 2) entries
  | .set members => writeSet (indent + 2) members
  | .pair first second =>
    ' ' :: pairTag ++ newLine indent ++ '-' :: writeAfterMark indent first ++
      newLine indent ++ '-' :: writeAfterMark indent second
  | .endless _ => " null".toList

/-- A value after an indicator in a column. A list or mapping starts on the same line, unlike in
`writeAfterKey`. -/
def writeAfterMark (indent : Nat) : Value → List Char
  | .scalar s => ' ' :: writeScalar true (indent + 2) (indent + 2) s
  | .list [] => " []".toList
  | .mapping [] => [' ', '\x7b', '\x7d']
  | .list (item :: items) =>
    ' ' :: '-' :: writeAfterMark (indent + 2) item ++ writeItems (indent + 2) items
  | .mapping (entry :: entries) =>
    ' ' :: writeEntry (indent + 2) entry ++ writeEntries (indent + 2) entries
  | .set members => writeSet (indent + 2) members
  | .pair first second =>
    ' ' :: pairTag ++ newLine (indent + 2) ++ '-' :: writeAfterMark (indent + 2) first ++
      newLine (indent + 2) ++ '-' :: writeAfterMark (indent + 2) second
  | .endless _ => " null".toList

/-- The items of a list after the first one. -/
def writeItems (indent : Nat) : List Value → List Char
  | [] => []
  | item :: items =>
    newLine indent ++ '-' :: writeAfterMark indent item ++ writeItems indent items

/-- An entry of a mapping in a column. -/
def writeEntry (indent : Nat) : Scalar × Value → List Char
  | (key, value) =>
    writeKey indent key (fun column => writeAfterKey indent column value)
      (writeAfterMark indent value)

/-- The entries of a mapping after the first one. -/
def writeEntries (indent : Nat) : List (Scalar × Value) → List Char
  | [] => []
  | entry :: entries => newLine indent ++ writeEntry indent entry ++ writeEntries indent entries

end

/-- **A mapping as a YAML text**, from the first column on by `writeEntry`. -/
def write : Entries → String
  | [] => "\x7b\x7d\n"
  | entry :: entries => String.ofList (writeEntry 0 entry ++ writeEntries 0 entries ++ ['\n'])

/-! ## Faults -/

mutual

/-- What keeps the integers in a value from being written: the first `Scalar.digitFault?`. -/
def digitFault? : Value → Option WriteFault
  | .scalar s => s.digitFault?
  | .list items => itemDigitFault? items
  | .pair first second => (digitFault? first).or (digitFault? second)
  | .set members => members.findSome? Scalar.digitFault?
  | .mapping entries => entryDigitFault? entries
  | .endless _ => none

/-- The first fault in the items of a list. -/
def itemDigitFault? : List Value → Option WriteFault
  | [] => none
  | item :: items => (digitFault? item).or (itemDigitFault? items)

/-- The first fault in the entries of a mapping. -/
def entryDigitFault? : List (Scalar × Value) → Option WriteFault
  | [] => none
  | (key, value) :: entries =>
    key.digitFault?.or ((digitFault? value).or (entryDigitFault? entries))

end

/-- How many levels a mapping may have to be written. -/
def writableLevels : Nat := 329

/-- **What keeps a mapping from being written.** Its nesting is looked at first, and then the
integers. -/
def writeFault? (entries : Entries) : Option WriteFault :=
  if (Value.mapping entries).nestsBeyond writableLevels then some .tooDeep
  else entryDigitFault? entries

end TreeSift.Yaml
