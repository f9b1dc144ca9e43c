import TreeSift.Text.Integer

/-! # Faults of expressions

Why a text is no expression: its tokens are at fault (`TokenFault`), an escape in it is
(`EscapeFault`), or its tokens do not fit together (`ExpressionFault`). -/

namespace TreeSift.Literal

open TreeSift.Text (hexDigits printable tooManyDigitsMessage)

/-! ## Tokens -/

/-- The ways to write a number. -/
inductive NumberKind where
  | decimal
  | hexadecimal
  | octal
  | binary
  /-- A number with the mark of the imaginary unit. -/
  | imaginary
  deriving DecidableEq, Repr

/-- The name of a way to write a number. -/
def NumberKind.name : NumberKind → String
  | .decimal => "decimal"
  | .hexadecimal => "hexadecimal"
  | .octal => "octal"
  | .binary => "binary"
  | .imaginary => "imaginary"

/-- **Why the tokens of a text end before the text does.** -/
inductive TokenFault where
  /-- A bracket closes that was never opened. -/
  | unmatched (bracket : Char)
  /-- A bracket closes another one than the last one that was opened, which may stand on a line
  before. -/
  | mismatched (closing opening : Char) (line? : Option Nat)
  /-- Too many brackets are open. -/
  | tooManyBrackets
  /-- A text has no quote at its end, or not three of them; this shows on a line. -/
  | unterminated (isTripled : Bool) (line : Nat)
  /-- A number goes on or ends as it must not. -/
  | number (kind : NumberKind)
  /-- A number holds a digit that its base does not have. -/
  | digit (kind : NumberKind) (c : Char)
  /-- A number starts with zeros. -/
  | leadingZeros
  /-- A character can begin no token. -/
  | character (c : Char)
  /-- A bracket is never closed. -/
  | neverClosed (bracket : Char)
  /-- A line goes on behind the backslash that should end it. -/
  | continuation
  /-- The line that a backslash announces does not come. -/
  | endsEarly
  deriving DecidableEq, Repr

/-- The code point of a character as it is written in prose. -/
def codePoint (c : Char) : String :=
  "U+" ++ String.ofList ((hexDigits 4 c.toNat).map Char.toUpper)

/-- A character between quotes. -/
def shown (c : Char) : String :=
  "'" ++ String.singleton c ++ "'"

/-- The wording of a fault. -/
def TokenFault.message : TokenFault → String
  | .unmatched bracket => "unmatched " ++ shown bracket
  | .mismatched closing opening line? =>
    "closing parenthesis " ++ shown closing ++ " does not match opening parenthesis " ++
      shown opening ++
      match line? with
      | some line => " on line " ++ toString line
      | none => ""
  | .tooManyBrackets => "too many nested parentheses"
  | .unterminated isTripled line =>
    "unterminated " ++ (if isTripled then "triple-quoted " else "") ++
      "string literal (detected at line " ++ toString line ++ ")"
  | .number kind => "invalid " ++ kind.name ++ " literal"
  | .digit kind c => "invalid digit " ++ shown c ++ " in " ++ kind.name ++ " literal"
  | .leadingZeros =>
    "leading zeros in decimal integer literals are not permitted; " ++
      "use an 0o prefix for octal integers"
  | .character c =>
    if printable.contains c.toNat then
      "invalid character " ++ shown c ++ " (" ++ codePoint c ++ ")"
    else "invalid non-printable character " ++ codePoint c
  | .neverClosed bracket => shown bracket ++ " was never closed"
  | .continuation => "unexpected character after line continuation character"
  | .endsEarly => "unexpected EOF while parsing"

/-- Whether a fault counts although the tokens before it do not fit together. -/
def TokenFault.isDecisive : TokenFault → Bool
  | .neverClosed _ | .continuation | .endsEarly => false
  | _ => true

/-! ## Escapes -/

/-- What is wrong with an escape. -/
inductive EscapeCause where
  /-- A letter is not followed by as many hexadecimal digits as it takes. -/
  | truncated (letter : Char) (digits : Nat)
  /-- A code point is too large. -/
  | tooLarge
  /-- A name does not stand between braces. -/
  | noName
  /-- No character has a name. -/
  | unknownName
  deriving DecidableEq, Repr

/-- The wording of a cause. -/
def EscapeCause.message : EscapeCause → String
  | .truncated letter digits =>
    "truncated \\" ++ String.ofList (letter :: List.replicate digits 'X') ++ " escape"
  | .tooLarge => "illegal Unicode character"
  | .noName => "malformed \\N character escape"
  | .unknownName => "unknown Unicode character name"

/-- **Why an escape stands for no character.** -/
inductive EscapeFault where
  /-- In a text, where an escape stands between two positions. -/
  | inText (cause : EscapeCause) (first last : Nat)
  /-- In bytes, where an escape is at fault up to a position. -/
  | inBytes (position : Nat)
  deriving DecidableEq, Repr

/-- The wording of a fault. -/
def EscapeFault.message : EscapeFault → String
  | .inText cause first last =>
    "(unicode error) 'unicodeescape' codec can't decode bytes in position " ++ toString first ++
      "-" ++ toString last ++ ": " ++ cause.message
  | .inBytes position => "(value error) invalid \\x escape at position " ++ toString position

/-! ## Expressions -/

/-- **Why a text is no expression.** -/
inductive ExpressionFault where
  /-- Its tokens are at fault. -/
  | token (fault : TokenFault)
  /-- An escape is at fault. -/
  | escape (fault : EscapeFault)
  /-- Bytes hold a character outside of ASCII. -/
  | bytesBeyond
  /-- A text and bytes stand side by side. -/
  | mixedTexts
  /-- A number has too many digits. -/
  | tooLong (digits : Nat)
  /-- Two expressions in brackets stand side by side. -/
  | missingComma
  /-- A condition has no alternative. -/
  | missingElse
  /-- A command is followed by what should be in brackets. -/
  | missingBrackets (command : List Char)
  /-- A name is given a value like in a call. -/
  | assignment
  /-- What is no name is given a value like in a call. -/
  | assignmentTo (kind : String)
  /-- What is no name is given a value on the way. -/
  | namingOf (kind : String)
  /-- An argument of a call is given the value of another one. -/
  | assigningArgument
  /-- A constant is used for the name of an argument. -/
  | constantArgument (constant : List Char)
  /-- An argument without a name follows one with a name. -/
  | positionalAfterNamed
  /-- An argument without a name follows arguments that a mapping holds. -/
  | positionalAfterUnpacked
  /-- Arguments that are unpacked follow arguments that a mapping holds. -/
  | iterableAfterUnpacked
  /-- What is unpacked stands alone in brackets; `isDouble` if it is a mapping. -/
  | starredGroup (isDouble : Bool)
  /-- What is unpacked is the value of a mapping. -/
  | starredValue
  /-- A key of a mapping has no value. -/
  | missingValue
  /-- A key of a mapping has no colon. -/
  | missingColon
  /-- A line starts with blanks. -/
  | indented
  /-- Anything else. -/
  | malformed
  deriving DecidableEq, Repr

/-- The wording of a fault. -/
def ExpressionFault.message : ExpressionFault → String
  | .token fault => fault.message
  | .escape fault => fault.message
  | .bytesBeyond => "bytes can only contain ASCII literal characters"
  | .mixedTexts => "cannot mix bytes and nonbytes literals"
  | .tooLong digits =>
    tooManyDigitsMessage digits ++
      " - Consider hexadecimal for huge integer literals to avoid decimal conversion limits."
  | .missingComma => "invalid syntax. Perhaps you forgot a comma?"
  | .missingElse => "expected 'else' after 'if' expression"
  | .missingBrackets command =>
    "Missing parentheses in call to '" ++ String.ofList command ++ "'. Did you mean " ++
      String.ofList command ++ "(...)?"
  | .assignment => "invalid syntax. Maybe you meant '==' or ':=' instead of '='?"
  | .assignmentTo kind =>
    "cannot assign to " ++ kind ++ " here. Maybe you meant '==' instead of '='?"
  | .namingOf kind => "cannot use assignment expressions with " ++ kind
  | .assigningArgument => "expression cannot contain assignment, perhaps you meant \"==\"?"
  | .constantArgument constant => "cannot assign to " ++ String.ofList constant
  | .positionalAfterNamed => "positional argument follows keyword argument"
  | .positionalAfterUnpacked => "positional argument follows keyword argument unpacking"
  | .iterableAfterUnpacked =>
    "iterable argument unpacking follows keyword argument unpacking"
  | .starredGroup isDouble =>
    "cannot use " ++ (if isDouble then "double " else "") ++ "starred expression here"
  | .starredValue => "cannot use a starred expression in a dictionary value"
  | .missingValue => "expression expected after dictionary key and ':'"
  | .missingColon => "':' expected after dictionary key"
  | .indented => "unexpected indent"
  | .malformed => "invalid syntax"

end TreeSift.Literal
