import TreeSift.Document.WriteFault
import TreeSift.Text.Base64

/-! # Writing JSON

`write` writes a value in ASCII, every item and every member on a line of its own, indented by two
columns for each level. Empty lists and mappings stay on one line, and pairs are lists.
`writeFault?` says what keeps a value from being written: there is no form for sets and bytes. -/

namespace TreeSift.Json

open TreeSift.Document
open TreeSift.Text (hexDigits)

/-- A numeric escape of one UTF-16 `unit`. -/
def numericEscape (unit : Nat) : List Char :=
  '\\' :: 'u' :: hexDigits 4 unit

/-- A character between quotes. Outside of printable ASCII it is escaped, above U+FFFF as a
surrogate pair. -/
def writeChar (c : Char) : List Char :=
  if c = '"' ∨ c = '\\' then ['\\', c]
  else if c = '\n' then ['\\', 'n']
  else if c = '\r' then ['\\', 'r']
  else if c = '\t' then ['\\', 't']
  else if c = '\x08' then ['\\', 'b']
  else if c = '\x0c' then ['\\', 'f']
  else if ' ' ≤ c ∧ c ≤ '~' then [c]
  else if c.toNat < 0x10000 then numericEscape c.toNat
  else
    let offset := c.toNat - 0x10000
    numericEscape (0xd800 + offset / 0x400) ++ numericEscape (0xdc00 + offset % 0x400)

/-- A string with its quotes, character by character with `writeChar`. -/
def writeString (text : String) : List Char :=
  '"' :: text.toList.flatMap writeChar ++ ['"']

/-- A floating-point number, by `Binary64.text` if it is finite. -/
def writeFloat : Binary64 → List Char
  | .nan => "NaN".toList
  | .infinite negative => if negative then "-Infinity".toList else "Infinity".toList
  | value => value.text.toList

/-- A scalar. -/
def writeScalar : Scalar → List Char
  | .null => "null".toList
  | .bool value => if value then "true".toList else "false".toList
  | .int value => (toString value).toList
  | .float value => writeFloat value
  | .text value => writeString value
  | .timestamp value => writeString value.text
  | .bytes value => writeString (String.ofList (Text.encodeBase64 value))

/-- The name of a member: a text as it is, any other scalar as `writeScalar` has it. -/
def writeName : Scalar → List Char
  | .text value => writeString value
  | scalar => '"' :: writeScalar scalar ++ ['"']

/-- A line end and the indentation of a level. -/
def newLine (level : Nat) : List Char :=
  '\n' :: List.replicate (2 * level) ' '

mutual

/-- A value on a level, whose items and members stand one `newLine` below. -/
def writeValue (level : Nat) : Value → List Char
  | .scalar s => writeScalar s
  | .list [] => ['[', ']']
  | .list (item :: items) =>
    '[' :: newLine (level + 1) ++ writeValue (level + 1) item ++ writeItems (level + 1) items ++
      newLine level ++ [']']
  | .mapping [] => ['\x7b', '\x7d']
  | .mapping ((key, value) :: entries) =>
    '\x7b' :: newLine (level + 1) ++ writeName key ++ [':', ' '] ++ writeValue (level + 1) value ++
      writeMembers (level + 1) entries ++ newLine level ++ ['\x7d']
  | .pair first second =>
    '[' :: newLine (level + 1) ++ writeValue (level + 1) first ++ ',' :: newLine (level + 1) ++
      writeValue (level + 1) second ++ newLine level ++ [']']
  | .set _ | .endless _ => "null".toList

/-- The items after the first one, which `writeValue` writes itself. -/
def writeItems (level : Nat) : List Value → List Char
  | [] => []
  | item :: items => ',' :: newLine level ++ writeValue level item ++ writeItems level items

/-- The members after the first one, which `writeValue` writes itself. -/
def writeMembers (level : Nat) : List (Scalar × Value) → List Char
  | [] => []
  | (key, value) :: entries =>
    ',' :: newLine level ++ writeName key ++ [':', ' '] ++ writeValue level value ++
      writeMembers level entries

end

/-- **A value as a JSON text**, from level zero on by `writeValue`. -/
def write (value : Value) : String :=
  String.ofList (writeValue 0 value)

/-! ## Faults -/

/-- What keeps a scalar from being written by `writeScalar`: its kind has no form, or its digits are
too many. -/
def scalarFault? : Scalar → Option WriteFault
  | .bytes value => some (.noForm (Scalar.bytes value).kindName)
  | .timestamp value => some (.noForm value.className)
  | scalar => scalar.digitFault?

/-- What keeps a scalar from being the name of a member, for `memberFault?`. -/
def nameFault? : Scalar → Option WriteFault
  | .bytes value => some (.noKeyForm (Scalar.bytes value).kindName)
  | .timestamp value => some (.noKeyForm value.className)
  | scalar => scalar.digitFault?

mutual

/-- The first fault in the parts of a value, in the order in which `writeValue` comes to them. -/
def partFault? : Value → Option WriteFault
  | .scalar s => scalarFault? s
  | .list items => itemFault? items
  | .pair first second => (partFault? first).or (partFault? second)
  | .set members => some (.noForm (Value.set members).kindName)
  | .mapping entries => memberFault? entries
  | .endless _ => some .tooDeep

/-- The first fault in the items of a list. -/
def itemFault? : List Value → Option WriteFault
  | [] => none
  | item :: items => (partFault? item).or (itemFault? items)

/-- The first fault in the members of a mapping. -/
def memberFault? : List (Scalar × Value) → Option WriteFault
  | [] => none
  | (key, value) :: entries => (nameFault? key).or ((partFault? value).or (memberFault? entries))

end

/-- How many levels a value may have to be written. -/
def writableLevels : Nat := 496

/-- **What keeps a value from being written.** Its nesting is looked at first, and then
`partFault?`. -/
def writeFault? (value : Value) : Option WriteFault :=
  if value.nestsBeyond writableLevels then some .tooDeep else partFault? value

end TreeSift.Json
