import TreeSift.Regex.Fault

/-! # Reading the source of a regular expression

A source is read token by token: a token is one character, or a backslash with the character after
it. The reader always knows the next token (`Cursor.next?`), so a lone backslash at the end is
refused as soon as the token before it is taken. -/

namespace TreeSift.Regex

/-- One or two characters that are read together. -/
inductive Token where
  /-- A character. -/
  | plain (c : Char)
  /-- A backslash and a character. -/
  | escape (c : Char)
  deriving DecidableEq, Repr

/-- The characters of a token. -/
def Token.text : Token → List Char
  | .plain c => [c]
  | .escape c => ['\\', c]

/-- How much of a source has been read. -/
structure Cursor where
  /-- The next token; at the end there is none. -/
  next? : Option Token := none
  /-- What follows the next token. -/
  rest : List Char
  /-- The number of characters before `rest`. -/
  index : Nat := 0
  deriving Repr

namespace Cursor

/-- The number of characters before the next token. -/
def position (cursor : Cursor) : Nat :=
  match cursor.next? with
  | none => cursor.index
  | some token => cursor.index - token.text.length

/-- Moves on by one token. -/
def advance (cursor : Cursor) : Except Fault Cursor :=
  match cursor.rest with
  | [] => .ok { cursor with next? := none }
  -- a lone backslash at the end begins no escape
  | ['\\'] => .error ⟨.escapeAtEnd, some cursor.index⟩
  | '\\' :: c :: rest => .ok ⟨some (.escape c), rest, cursor.index + 2⟩
  | c :: rest => .ok ⟨some (.plain c), rest, cursor.index + 1⟩

/-- The cursor at the start of a source. -/
def ofSource (source : List Char) : Except Fault Cursor :=
  advance { rest := source }

end Cursor

end TreeSift.Regex
