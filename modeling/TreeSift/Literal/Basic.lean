import TreeSift.Literal.Reader

/-! # Literals

A literal is a constant, a number, a text, or a tuple, set or mapping of literals; a number can have
one sign, and the sum of a real number and an imaginary one is a literal as well. What is inside a set, and the keys of
a mapping, must not be sets or mappings. `fault?` says what is wrong with a text that has to be a
literal. -/

namespace TreeSift.Literal

/-- **Why a text is no literal.** -/
inductive LiteralFault where
  /-- It is no expression. -/
  | expression (fault : ExpressionFault)
  /-- It holds a character that no expression can hold. -/
  | nulCharacter
  /-- A part of it is of a kind that cannot be looked up. -/
  | notKey (kind : String)
  /-- A part of it stands for the entries of another mapping. -/
  | unpacking
  /-- It is an expression, but no literal. -/
  | notLiteral
  deriving DecidableEq, Repr

/-- The wording of a fault. -/
def LiteralFault.message : LiteralFault → String
  | .expression fault => fault.message
  | .nulCharacter => "source code string cannot contain null bytes"
  | .notKey kind => "unhashable type: '" ++ kind ++ "'"
  | .unpacking => "malformed node or string: None"
  | .notLiteral => "malformed node or string"

/-! ## Keys -/

mutual

/-- The kind of what makes a literal unfit for a key, if anything does. -/
def Expression.unfitKind? : Expression → Option String
  | .set _ | .emptySet => some "set"
  | .mapping _ => some "dict"
  | .tuple parts => unfitPart? parts
  | _ => none

/-- The kind of the first part that makes a tuple unfit for a key. -/
def unfitPart? : List Expression → Option String
  | [] => none
  | part :: parts => (part.unfitKind?).or (unfitPart? parts)

end

/-- Checks that a literal is fit for a key. -/
def checkKey (key : Expression) : Except LiteralFault Unit :=
  match key.unfitKind? with
  | some kind => .error (.notKey kind)
  | none => .ok ()

/-! ## Literals -/

/-- Whether an expression is a number without an imaginary part, which may have a sign. -/
def Expression.isSignedReal : Expression → Bool
  | .number false | .signed (.number false) => true
  | _ => false

mutual

/-- Checks that an expression is a literal. -/
def checkLiteral : Expression → Except LiteralFault Unit
  | .constant _ | .ellipsis | .number _ | .text false | .emptySet => .ok ()
  | .tuple parts => checkLiterals parts
  | .set parts => checkMembers parts
  | .mapping entries => checkEntries entries
  | .sum left (.number true) => if left.isSignedReal then .ok () else .error .notLiteral
  | .signed (.number _) => .ok ()
  | _ => .error .notLiteral

/-- Checks that expressions are literals. -/
def checkLiterals : List Expression → Except LiteralFault Unit
  | [] => .ok ()
  | part :: parts => do
    checkLiteral part
    checkLiterals parts

/-- Checks that expressions are literals and fit for keys. -/
def checkMembers : List Expression → Except LiteralFault Unit
  | [] => .ok ()
  | part :: parts => do
    checkLiteral part
    checkKey part
    checkMembers parts

/-- Checks that the keys and the values of entries are literals. -/
def checkEntries : List Expression → Except LiteralFault Unit
  | [] => .ok ()
  | .entry key value :: entries => do
    checkLiteral key
    checkLiteral value
    checkKey key
    checkEntries entries
  | _ :: _ => .error .unpacking

end

/-- **What is wrong with a text that has to be a literal.** -/
def fault? (text : List Char) : Option LiteralFault :=
  if text.contains '\x00' then some .nulCharacter
  else
    match readExpression text with
    | .error fault => some (.expression fault)
    | .ok expression =>
      match checkLiteral expression with
      | .error fault => some fault
      | .ok _ => none

end TreeSift.Literal
