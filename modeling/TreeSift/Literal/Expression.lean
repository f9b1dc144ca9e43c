/-! # Expressions

What an expression is, as far as it matters for faults and for literals. `kindName` is what an
expression is called when it stands in the wrong place. -/

namespace TreeSift.Literal

/-- **An expression.** -/
inductive Expression where
  /-- A name. -/
  | name (text : List Char)
  /-- A constant with a name. -/
  | constant (text : List Char)
  /-- Three dots. -/
  | ellipsis
  /-- A number. -/
  | number (isImaginary : Bool)
  /-- Texts between quotes; in one that is formatted, expressions can stand. -/
  | text (isFormatted : Bool)
  /-- Items in round brackets, or without brackets. -/
  | tuple (items : List Expression)
  /-- Items in braces. -/
  | set (items : List Expression)
  /-- Entries in braces. -/
  | mapping (entries : List Expression)
  /-- An entry with a key and a value. -/
  | entry (key value : Expression)
  /-- An entry that stands for those of another mapping. -/
  | entries
  /-- An item that stands for those of another expression. -/
  | starred
  /-- An expression behind a plus or minus sign. -/
  | signed (operand : Expression)
  /-- A sum or difference. -/
  | sum (left right : Expression)
  /-- Any other operation on numbers. -/
  | operation
  /-- An operation on truth values. -/
  | logic
  /-- A comparison. -/
  | comparison
  /-- A choice between two expressions. -/
  | conditional
  /-- A part of an expression by its name. -/
  | attribute
  /-- A call. -/
  | call
  /-- The call that makes an empty set. -/
  | emptySet
  /-- A name that is given a value on the way. -/
  | naming

namespace Expression

/-- **What an expression is called.** -/
def kindName : Expression → String
  | .name _ => "name"
  | .constant word => String.ofList word
  | .ellipsis => "ellipsis"
  | .number _ => "literal"
  | .text isFormatted => if isFormatted then "f-string expression" else "literal"
  | .tuple _ => "tuple"
  | .set _ => "set display"
  | .mapping _ | .entry _ _ | .entries => "dict literal"
  | .starred => "starred"
  | .signed _ | .sum _ _ | .operation | .logic => "expression"
  | .comparison => "comparison"
  | .conditional => "conditional expression"
  | .attribute => "attribute"
  | .call | .emptySet => "function call"
  | .naming => "named expression"

/-- Whether an expression is put together by operations on numbers at most. -/
def isArithmetic : Expression → Bool
  | .logic | .comparison | .conditional | .naming | .starred => false
  | _ => true

/-- The commands that once took what follows them without brackets. -/
def commands : List (List Char) :=
  ["print", "exec"].map String.toList

/-- Whether an expression is the name of such a command. -/
def isCommand : Expression → Bool
  | .name word => commands.contains word
  | _ => false

end Expression

end TreeSift.Literal
