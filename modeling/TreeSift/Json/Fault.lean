import TreeSift.Text.Position

/-! # Faults in JSON texts

`Problem` lists what can be wrong with a JSON text. A `Fault` is a problem with the position where
it was met; `Fault.message` words it with line, column and position. -/

namespace TreeSift.Json

open TreeSift.Text (lineOf columnOf)

/-- **What can be wrong with a JSON text**, worded by `Problem.message`. -/
inductive Problem where
  /-- A byte order mark stands at the start. -/
  | byteOrderMark
  /-- No value starts here. -/
  | expectingValue
  /-- Something follows the value. -/
  | extraData
  /-- The name of a member has to start here. -/
  | expectingName
  /-- A colon has to follow the name of a member. -/
  | expectingColon
  /-- A comma, or the end of the list or object, has to come here. -/
  | expectingComma
  /-- A string that starts here does not end. -/
  | unterminatedString
  /-- A control character stands in a string. -/
  | controlCharacter
  /-- A backslash and what follows it are no escape. -/
  | invalidEscape
  /-- A numeric escape has too few digits. -/
  | invalidUnicodeEscape
  deriving DecidableEq, Repr

/-- The wording of a `Problem`. -/
def Problem.message : Problem → String
  | .byteOrderMark => "Unexpected UTF-8 BOM (decode using utf-8-sig)"
  | .expectingValue => "Expecting value"
  | .extraData => "Extra data"
  | .expectingName => "Expecting property name enclosed in double quotes"
  | .expectingColon => "Expecting ':' delimiter"
  | .expectingComma => "Expecting ',' delimiter"
  | .unterminatedString => "Unterminated string starting at"
  | .controlCharacter => "Invalid control character at"
  | .invalidEscape => "Invalid \\escape"
  | .invalidUnicodeEscape => "Invalid \\uXXXX escape"

/-- A `Problem`, and the number of characters of the text that were left where it was met. -/
structure Fault where
  /-- What is wrong. -/
  problem : Problem
  /-- The number of characters from the position on. -/
  left : Nat
  deriving DecidableEq, Repr

/-- The position of a fault in a text, counted from its start. -/
def Fault.position (fault : Fault) (text : List Char) : Nat :=
  text.length - fault.left

/-- **The wording of a fault in a text**, with the line and column of its `position`. -/
def Fault.message (fault : Fault) (text : String) : String :=
  let source := text.toList
  let position := fault.position source
  fault.problem.message ++ ": line " ++ toString (lineOf source position) ++ " column " ++
    toString (columnOf source position) ++ " (char " ++ toString position ++ ")"

end TreeSift.Json
