import TreeSift.Literal.Fault
import TreeSift.Text.Digits
import TreeSift.Text.LineEnds
import TreeSift.Text.Position
import TreeSift.Text.Word

/-! # Tokens of expressions

`tokensOf` cuts a text into names, numbers, texts between quotes and marks. Brackets are counted on
the way, and every token knows how many of them are open. Where the text goes wrong a fault is the
last token, so that it only matters to a reader who comes so far. -/

namespace TreeSift.Literal

open TreeSift.Text (identifierContinue identifierStart isHexDigit isOctDigit lineOf printable
  unifyEnds)

/-! ## Tokens -/

/-- What a token is. -/
inductive Lexeme where
  /-- A name or a reserved word. -/
  | word (text : List Char)
  /-- A number. -/
  | number (text : List Char)
  /-- What stands between quotes, with the letters before them. -/
  | text (letters body : List Char)
  /-- A bracket or an operator. -/
  | mark (text : List Char)
  /-- The end of a line that is no blank one. -/
  | lineEnd
  /-- Blanks at the start of a line. -/
  | indent
  /-- The place where the text goes wrong. -/
  | bad (fault : TokenFault)
  deriving DecidableEq, Repr

/-- **A token.** -/
structure Token where
  /-- What it is. -/
  lexeme : Lexeme
  /-- The number of brackets that are open behind it. -/
  depth : Nat
  deriving DecidableEq, Repr

/-! ## Names -/

/-- Whether a name can begin with a character, as far as its token goes. -/
def startsWord (c : Char) : Bool :=
  c.isAlpha || c == '_' || 0x80 ≤ c.toNat

/-- Whether a character belongs to the token of a name. -/
def isInWord (c : Char) : Bool :=
  c.isAlphanum || c == '_' || 0x80 ≤ c.toNat

/-- The first character of a token that belongs to no name. -/
def strayCharacter? : List Char → Option Char
  | [] => none
  | c :: cs =>
    if c == '_' || identifierStart.contains c.toNat then
      cs.find? fun c => !identifierContinue.contains c.toNat
    else some c

/-! ## Numbers -/

/-- The words that may follow a number without a blank between, as far as they are looked at. -/
def wordsAfterNumber : List (List Char) :=
  ["and", "else", "for", "if", "in", "is", "or"].map String.toList

/-- The text behind a number, which has to end there. -/
def endNumber (kind : NumberKind) (rest : List Char) : Except TokenFault (List Char) :=
  if rest.head?.any isInWord && !wordsAfterNumber.any (·.isPrefixOf rest) then .error (.number kind)
  else .ok rest

/-- Whether a character is a digit of a number. -/
def NumberKind.isDigit : NumberKind → Char → Bool
  | .hexadecimal, c => isHexDigit c
  | .octal, c => isOctDigit c
  | .binary, c => c == '0' || c == '1'
  | .decimal, c | .imaginary, c => c.isDigit

/-- What is wrong where a digit should stand. -/
def NumberKind.digitFault (kind : NumberKind) : Option Char → TokenFault
  | some c => if c.isDigit then .digit kind c else .number kind
  | none => .number kind

/-- The text behind the digits of a number. A digit has to come if `isNeeded`, and an underscore may
come if `isDivisible`. -/
def afterDigits (kind : NumberKind) (isNeeded isDivisible : Bool) :
    List Char → Except TokenFault (List Char)
  | [] => if isNeeded then .error (.number kind) else .ok []
  | c :: cs =>
    if kind.isDigit c then afterDigits kind false true cs
    else if c == '_' && isDivisible then afterDigits kind true false cs
    else if isNeeded then .error (kind.digitFault (some c))
    else .ok (c :: cs)

/-- The text behind a number with the mark of a base, given what follows the mark. -/
def afterBased (kind : NumberKind) (cs : List Char) : Except TokenFault (List Char) := do
  let rest ← afterDigits kind true true cs
  if rest.head?.any Char.isDigit then .error (kind.digitFault rest.head?) else endNumber kind rest

/-- The text behind a number, given what follows its digits: it may be imaginary. -/
def afterReal : List Char → Except TokenFault (List Char)
  | [] => .ok []
  | c :: cs =>
    if c == 'j' || c == 'J' then endNumber .imaginary cs else endNumber .decimal (c :: cs)

/-- The text behind a number, given what follows its digits: it may have an exponent. -/
def afterMantissa : List Char → Except TokenFault (List Char)
  | [] => .ok []
  | c :: cs =>
    if c == 'e' || c == 'E' then
      match cs with
      | sign :: digits =>
        if sign == '+' || sign == '-' then do
          afterReal (← afterDigits .decimal true false digits)
        else if sign.isDigit then do afterReal (← afterDigits .decimal true false cs)
        -- the letter may begin a word
        else endNumber .decimal (c :: cs)
      | [] => endNumber .decimal (c :: cs)
    else afterReal (c :: cs)

/-- The text behind a number, given what follows its point. -/
def afterPoint (cs : List Char) : Except TokenFault (List Char) := do
  if cs.head?.any Char.isDigit then afterMantissa (← afterDigits .decimal true false cs)
  else afterMantissa cs

/-- The text behind a number, given its first digit and what follows it. -/
def afterDecimal (first : Char) (cs : List Char) : Except TokenFault (List Char) := do
  let rest ← afterDigits .decimal false true cs
  match rest with
  | '.' :: rest => afterPoint rest
  | rest =>
    let digits := cs.take (cs.length - rest.length)
    if rest.head?.any ("eEjJ".toList.contains ·) then afterMantissa rest
    else if first == '0' && digits.any fun c => c != '0' && c != '_' then .error .leadingZeros
    else endNumber .decimal rest

/-- The text behind a number, given its first digit and what follows it. -/
def afterNumber (first : Char) (cs : List Char) : Except TokenFault (List Char) :=
  match first, cs with
  | '0', mark :: cs =>
    if mark == 'x' || mark == 'X' then afterBased .hexadecimal cs
    else if mark == 'o' || mark == 'O' then afterBased .octal cs
    else if mark == 'b' || mark == 'B' then afterBased .binary cs
    else afterDecimal first (mark :: cs)
  | first, cs => afterDecimal first cs

/-! ## Texts -/

/-- The letters that can stand before a quote. -/
def textLetters : List (List Char) :=
  ["", "b", "br", "f", "fr", "r", "rb", "rf", "u"].map String.toList

/-- A text up to its quote, and what follows it; or what follows the place where it breaks off. -/
def upToQuote (quote : Char) : List Char → Except (List Char) (List Char × List Char)
  | [] => .error []
  | '\\' :: c :: cs => (upToQuote quote cs).map fun parts => ('\\' :: c :: parts.1, parts.2)
  | c :: cs =>
    if c == quote then .ok ([], cs)
    else if c == '\n' then .error (c :: cs)
    else (upToQuote quote cs).map fun parts => (c :: parts.1, parts.2)

/-- A text up to three quotes, and what follows them; or what follows the place where it breaks
off. -/
def upToQuotes (quote : Char) : List Char → Except (List Char) (List Char × List Char)
  | [] => .error []
  | '\\' :: c :: cs => (upToQuotes quote cs).map fun parts => ('\\' :: c :: parts.1, parts.2)
  | c :: cs =>
    if [quote, quote, quote].isPrefixOf (c :: cs) then .ok ([], cs.drop 2)
    else (upToQuotes quote cs).map fun parts => (c :: parts.1, parts.2)

/-- A text and what follows it, given its quote and what follows that. -/
def afterQuote (quote : Char) (cs : List Char) :
    Except (Bool × List Char) (List Char × List Char) :=
  match cs with
  | c :: d :: cs' =>
    if c == quote && d == quote then (upToQuotes quote cs').mapError (true, ·)
    else (upToQuote quote cs).mapError (false, ·)
  | _ => (upToQuote quote cs).mapError (false, ·)

/-! ## Marks -/

/-- The marks of two and of three characters. -/
def longMarks : List (List Char) :=
  ["**=", "//=", "<<=", ">>=", "...", "!=", "%=", "&=", "**", "*=", "+=", "-=", "->", "//", "/=",
    ":=", "<<", "<=", "<>", "==", ">=", ">>", "@=", "^=", "|="].map String.toList

/-- The mark that a text begins with. -/
def markOf (c : Char) (cs : List Char) : List Char :=
  (longMarks.find? (·.isPrefixOf (c :: cs))).getD [c]

/-- The bracket that closes another one. -/
def closingOf? : Char → Option Char
  | '(' => some ')'
  | '[' => some ']'
  | '\x7b' => some '\x7d'
  | _ => none

/-- Whether a character is a closing bracket. -/
def isClosing (c : Char) : Bool :=
  c == ')' || c == ']' || c == '\x7d'

/-- The most brackets that can be open. -/
def bracketLimit : Nat := 200

/-- A bracket that is open, with its line. -/
structure OpenBracket where
  /-- The bracket. -/
  bracket : Char
  /-- Its line. -/
  line : Nat

/-- The brackets that are open behind a character on a line, the last one first. -/
def nextBrackets (opened : List OpenBracket) (line : Nat) (c : Char) :
    Except TokenFault (List OpenBracket) :=
  if (closingOf? c).isSome then
    if opened.length < bracketLimit then .ok (⟨c, line⟩ :: opened) else .error .tooManyBrackets
  else if isClosing c then
    match opened with
    | [] => .error (.unmatched c)
    | last :: opened =>
      if closingOf? last.bracket = some c then .ok opened
      else .error (.mismatched c last.bracket (if last.line = line then none else some last.line))
  else .ok opened

/-! ## Texts into tokens -/

/-- A lexeme that a text begins with, what follows it, and the brackets that are open behind it. -/
structure Step where
  /-- The lexeme. -/
  lexeme : Lexeme
  /-- What follows it. -/
  rest : List Char
  /-- The brackets that are open behind it. -/
  opened : List OpenBracket

/-- The lexeme that a text begins with, which is neither blank nor a comment; `source` is the whole
text. -/
def step (source : List Char) (opened : List OpenBracket) (c : Char) (cs : List Char) :
    Except TokenFault Step :=
  let lineAt (rest : List Char) : Nat := lineOf source (source.length - rest.length)
  let quoted (letters : List Char) (quote : Char) (rest : List Char) : Except TokenFault Step :=
    match afterQuote quote rest with
    | .ok (body, rest) => .ok ⟨.text letters body, rest, opened⟩
    | .error (isTripled, rest) => .error (.unterminated isTripled (lineAt rest))
  if c == '\'' || c == '"' then quoted [] c cs
  else if startsWord c then
    let word := (c :: cs).takeWhile isInWord
    let rest := (c :: cs).drop word.length
    let letters := word.map Char.toLower
    -- letters right before a quote tell how the text in it is read
    match textLetters.contains letters, rest with
    | true, '\'' :: rest => quoted letters '\'' rest
    | true, '"' :: rest => quoted letters '"' rest
    | _, rest =>
      match strayCharacter? word with
      | some stray => .error (.character stray)
      | none => .ok ⟨.word word, rest, opened⟩
  else if c.isDigit || (c == '.' && cs.head?.any Char.isDigit) then do
    let rest ← if c == '.' then afterPoint cs else afterNumber c cs
    return ⟨.number ((c :: cs).take (cs.length + 1 - rest.length)), rest, opened⟩
  else
    let mark := markOf c cs
    if mark.length = 1 then do
      let opened ← nextBrackets opened (lineAt (c :: cs)) c
      if printable.contains c.toNat then return ⟨.mark mark, cs, opened⟩ else throw (.character c)
    else .ok ⟨.mark mark, cs.drop (mark.length - 1), opened⟩

/-- Whether a character is a blank within a line. -/
def isGap (c : Char) : Bool :=
  c == ' ' || c == '\t' || c == '\x0c'

/-- The text from the end of the line on. -/
def dropLine (cs : List Char) : List Char :=
  cs.dropWhile (· != '\n')

/-- Whether a text starts with blanks that do not end at a form feed, and with more than blanks and
comments up to the end of the line. -/
def isIndented (cs : List Char) : Bool :=
  let gap := cs.takeWhile isGap
  let rest := cs.drop gap.length
  gap.getLast?.any (· != '\x0c') && rest.head?.any fun c => c != '#' && c != '\n'

/-- The tokens of a text that follows others; `source` is the whole text, and `isBlank` says that no
token stands before it on its line. -/
def tokensFrom (source : List Char) (opened : List OpenBracket) (isBlank : Bool) :
    List Char → List Token
  | [] =>
    match opened with
    | [] => []
    | last :: _ => [⟨.bad (.neverClosed last.bracket), opened.length⟩]
  | c :: cs =>
    if isGap c then tokensFrom source opened isBlank cs
    else if c == '#' then
      if _h : (dropLine cs).length ≤ cs.length then
        tokensFrom source opened isBlank (dropLine cs)
      else []
    else if c == '\n' then
      -- line ends do not count on blank lines and within brackets
      if isBlank || !opened.isEmpty then tokensFrom source opened isBlank cs
      else
        ⟨.lineEnd, 0⟩ :: (if isIndented cs then [⟨.indent, 0⟩] else []) ++
          tokensFrom source opened true cs
    else if c == '\\' then
      match cs with
      | ['\n'] => [⟨.bad .endsEarly, opened.length⟩]
      | '\n' :: cs => tokensFrom source opened isBlank cs
      | _ => [⟨.bad .continuation, opened.length⟩]
    else
      match step source opened c cs with
      | .error fault => [⟨.bad fault, opened.length⟩]
      | .ok next =>
        if _h : next.rest.length ≤ cs.length then
          ⟨next.lexeme, next.opened.length⟩ :: tokensFrom source next.opened false next.rest
        else []
termination_by cs => cs.length

/-- **The tokens of a text.** -/
def tokensOf (text : List Char) : List Token :=
  let text := unifyEnds text
  tokensFrom text [] true text

end TreeSift.Literal
