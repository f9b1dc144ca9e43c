import TreeSift.Literal.Escape
import TreeSift.Literal.Expression
import TreeSift.Literal.Token
import TreeSift.Text.Integer

/-! # Reading expressions

`readExpression` reads the expression that a text is. If the text is none, it is read once more in a
strict way, which looks for what is likely to be meant; the first such place is reported, unless the
tokens of the text are at fault anyway. Readers that do not succeed leave the tokens to others, but
a fault ends the reading. Square brackets are not read. -/

namespace TreeSift.Literal

open TreeSift.Text (digitLimit)

/-- Reads from tokens: something, nothing, or a fault. -/
abbrev Reading := StateT (List Token) (OptionT (Except ExpressionFault))

/-! ## Tokens -/

/-- Ends the reading with a fault. -/
def refuse {α : Type} (fault : ExpressionFault) : Reading α :=
  fun _ => OptionT.mk (.error fault)

/-- The next lexeme, if there is one. -/
def peek? : Reading (Option Lexeme) := do
  match ← get with
  | [] => return none
  | token :: _ =>
    match token.lexeme with
    | .bad fault => refuse (.token fault)
    | lexeme => return some lexeme

/-- Goes on to the next token. -/
def advance : Reading Unit :=
  modify List.tail

/-- Whether a mark comes next. -/
def atMark (mark : String) : Reading Bool :=
  return (← peek?) == some (.mark mark.toList)

/-- Whether a word comes next. -/
def atWord (word : String) : Reading Bool :=
  return (← peek?) == some (.word word.toList)

/-- Takes a mark, if it comes next. -/
def accept (mark : String) : Reading Bool := do
  let comes ← atMark mark
  if comes then advance
  return comes

/-- Takes a mark. -/
def expect (mark : String) : Reading Unit := do
  if !(← accept mark) then failure

/-- Takes a word. -/
def expectWord (word : String) : Reading Unit := do
  if ← atWord word then advance else failure

/-- What is read, if something is. -/
def attempt {α : Type} (reading : Reading α) : Reading (Option α) :=
  (some <$> reading) <|> pure none

/-- Whether something can be read from tokens, which are left as they are. -/
def canRead {α : Type} (reading : Reading α) : Reading Bool := do
  let tokens ← get
  let result ← attempt reading
  set tokens
  return result.isSome

/-! ## Names -/

/-- The constants with names. -/
def constants : List (List Char) :=
  ["None", "True", "False"].map String.toList

/-- The words that are no names. -/
def reservedWords : List (List Char) :=
  constants ++
    ["and", "as", "assert", "async", "await", "break", "class", "continue", "def", "del", "elif",
      "else", "except", "finally", "for", "from", "global", "if", "import", "in", "is", "lambda",
      "nonlocal", "not", "or", "pass", "raise", "return", "try", "while", "with",
      "yield"].map String.toList

/-- The names that can begin a command as well. -/
def softWords : List (List Char) :=
  ["_", "case", "match"].map String.toList

/-- Whether a token is a name. -/
def Token.isName (token : Token) : Bool :=
  match token.lexeme with
  | .word text => !reservedWords.contains text
  | _ => false

/-- Whether tokens begin with a name that a mark follows. -/
def namesBefore (mark : String) : Reading Bool := do
  match ← get with
  | token :: _ =>
    if !token.isName then return false
    let tokens ← get
    advance
    let comes ← atMark mark
    set tokens
    return comes
  | [] => return false

/-- Whether tokens begin like something that is left alone although two expressions seem to stand
side by side: with a name that can begin a command, or with a name before a text. -/
def isExempt : List Token → Bool
  | ⟨.word word, _⟩ :: rest =>
    softWords.contains word ||
      (!reservedWords.contains word && (rest.head?.any fun token => token.lexeme matches .text _ _))
  | _ => false

/-! ## Texts and numbers -/

/-- What is wrong with a text between quotes, which follows one in bytes or none in bytes if
`follows?` says so. -/
def quotedFault? (follows? : Option Bool) (letters body : List Char) : Option ExpressionFault :=
  let letters := letters.map Char.toLower
  let isBytes := letters.contains 'b'
  let isRaw := letters.contains 'r'
  -- in the braces of a formatted text, escapes have no meaning
  let isSkipped := isRaw || (letters.contains 'f' && body.any fun c => c == '\x7b' || c == '\x7d')
  let escape? := if isBytes then bytesFault? body else textFault? body
  if isBytes && body.any (0x80 ≤ ·.toNat) then some .bytesBeyond
  else if !isSkipped && escape?.isSome then escape?.map .escape
  else if follows?.any (· != isBytes) then some .mixedTexts
  else none

/-- Reads texts that follow each other, given whether the one before is in bytes and whether one of
those before is formatted. -/
def readTexts (follows? : Option Bool) (isFormatted : Bool) : List Token → Reading Expression
  | ⟨.text letters body, _⟩ :: rest =>
    match quotedFault? follows? letters body with
    | some fault => refuse fault
    | none =>
      readTexts (some (letters.any fun c => c == 'b' || c == 'B'))
        (isFormatted || letters.any fun c => c == 'f' || c == 'F') rest
  | rest => do
    set rest
    return .text isFormatted

/-- Reads the texts that come next. Tokens at fault behind them are reported first. -/
def texts : Reading Expression := do
  let tokens ← get
  set (tokens.dropWhile fun token => token.lexeme matches .text _ _)
  let _ ← peek?
  readTexts none false tokens

/-- The expression of a number. -/
def numberOf (text : List Char) : Reading Expression := do
  let digits := (text.filter (· != '_')).length
  if (text.all fun c => c.isDigit || c == '_') && digitLimit < digits then refuse (.tooLong digits)
  return .number (text.getLast?.any fun c => c == 'j' || c == 'J')

/-! ## Operators -/

/-- The operators on two numbers, without the power. -/
def operators : List (List Char) :=
  ["|", "^", "&", "<<", ">>", "+", "-", "*", "/", "//", "%", "@"].map String.toList

/-- Takes an operator on two numbers. -/
def operator : Reading (List Char) := do
  match ← peek? with
  | some (.mark mark) =>
    if operators.contains mark then advance else failure
    return mark
  | _ => failure

/-- The expression that an operator makes of two. -/
def operate (mark : List Char) (left right : Expression) : Expression :=
  if mark = ['+'] ∨ mark = ['-'] then .sum left right else .operation

/-- The marks that compare two numbers. -/
def comparators : List (List Char) :=
  ["==", "!=", "<=", "<", ">=", ">"].map String.toList

/-- Takes a comparison. -/
def comparator : Reading Unit := do
  match ← peek? with
  | some (.mark mark) => if comparators.contains mark then advance else failure
  | some (.word word) =>
    if word = "in".toList then advance
    else if word = "not".toList then do
      advance
      expectWord "in"
    else if word = "is".toList then do
      advance
      if ← atWord "not" then advance
    else failure
  | _ => failure

/-- Takes a word that joins two conditions. -/
def junctor : Reading Unit := do
  if (← atWord "and") || (← atWord "or") then advance else failure

/-! ## Expressions -/

/-- The kinds of arguments that have come in a call. -/
inductive Arguments where
  /-- Only arguments without names. -/
  | positional
  /-- Arguments with names, but no mapping of them. -/
  | named
  /-- Mappings of arguments. -/
  | unpacked

mutual

/-- Reads an expression. The first argument of this reader and of those below bounds the calls, and
the second one says whether reading is strict. -/
def expression (fuel : Nat) (strict : Bool) : Reading Expression :=
  match fuel with
  | 0 => failure
  | fuel + 1 => do
    let start ← get
    let left ← disjunction fuel strict
    let behind ← get
    if strict then
      if !isExempt start && !left.isCommand then
        if (← attempt (expression fuel false)).isSome then
          let read := behind.take (behind.length - (← get).length)
          if read.getLast?.any (·.depth ≠ 0) then refuse .missingComma
        set behind
    if ← atWord "if" then
      advance
      if (← attempt (disjunction fuel strict)).isSome then
        if ← atWord "else" then
          advance
          if (← attempt (expression fuel strict)).isSome then return .conditional
        else if strict && !(← atMark ":") then refuse .missingElse
      set behind
    if strict then
      if let ⟨.word command, _⟩ :: rest := start then
        if Expression.commands.contains command && rest.head?.all (·.lexeme != .mark ['(']) then
          set rest
          if ← canRead (starredList fuel true) then refuse (.missingBrackets command)
          set behind
    return left

/-- Reads expressions with commas between, each of which may be unpacked. -/
def starredList (fuel : Nat) (strict : Bool) : Reading Unit :=
  match fuel with
  | 0 => failure
  | fuel + 1 => do
    if ← accept "*" then
      let _ ← arithmetic fuel strict
    else
      let _ ← expression fuel strict
    if ← accept "," then
      let _ ← attempt (starredList fuel strict)

/-- Reads conditions that words join. -/
def disjunction (fuel : Nat) (strict : Bool) : Reading Expression :=
  match fuel with
  | 0 => failure
  | fuel + 1 => do
    let left ← inversion fuel strict
    match ← attempt (do junctor; disjunction fuel strict) with
    | some _ => return .logic
    | none => return left

/-- Reads a condition, which may be negated. -/
def inversion (fuel : Nat) (strict : Bool) : Reading Expression :=
  match fuel with
  | 0 => failure
  | fuel + 1 => do
    if ← atWord "not" then
      advance
      let _ ← inversion fuel strict
      return .logic
    let left ← arithmetic fuel strict
    match ← attempt (comparisons fuel strict) with
    | some _ => return .comparison
    | none => return left

/-- Reads comparisons with what has been read. -/
def comparisons (fuel : Nat) (strict : Bool) : Reading Unit :=
  match fuel with
  | 0 => failure
  | fuel + 1 => do
    comparator
    let _ ← arithmetic fuel strict
    let _ ← attempt (comparisons fuel strict)

/-- Reads numbers that operators join. -/
def arithmetic (fuel : Nat) (strict : Bool) : Reading Expression :=
  match fuel with
  | 0 => failure
  | fuel + 1 => do operations fuel strict (← factor fuel strict)

/-- Reads operators with what follows them, given what comes before. -/
def operations (fuel : Nat) (strict : Bool) (left : Expression) : Reading Expression :=
  match fuel with
  | 0 => failure
  | fuel + 1 => do
    match ← attempt (do return operate (← operator) left (← factor fuel strict)) with
    | some joined => operations fuel strict joined
    | none => return left

/-- Reads a number, which may have signs before and a power behind it. -/
def factor (fuel : Nat) (strict : Bool) : Reading Expression :=
  match fuel with
  | 0 => failure
  | fuel + 1 => do
    if ← accept "+" then return .signed (← factor fuel strict)
    if ← accept "-" then return .signed (← factor fuel strict)
    if ← accept "~" then
      let _ ← factor fuel strict
      return .operation
    let base ← trailers fuel strict (← atom fuel strict)
    match ← attempt (do expect "**"; factor fuel strict) with
    | some _ => return .operation
    | none => return base

/-- Reads the parts and the calls of what has been read. -/
def trailers (fuel : Nat) (strict : Bool) (base : Expression) : Reading Expression :=
  match fuel with
  | 0 => failure
  | fuel + 1 => do
    let trailer : Reading Expression := do
      if ← accept "." then
        let _ ← peek?
        match ← get with
        | token :: _ => if token.isName then advance else failure
        | [] => failure
        return .attribute
      expect "("
      let isEmpty ← atMark ")"
      arguments fuel strict .positional
      expect ")"
      match base, isEmpty with
      | .name ['s', 'e', 't'], true => return .emptySet
      | _, _ => return .call
    match ← attempt trailer with
    | some longer => trailers fuel strict longer
    | none => return base

/-- Reads the arguments of a call up to its closing bracket, given those that have come. -/
def arguments (fuel : Nat) (strict : Bool) (come : Arguments) : Reading Unit :=
  match fuel with
  | 0 => failure
  | fuel + 1 => do
    if ← atMark ")" then return
    let start ← get
    let come ← (do
      if ← accept "**" then
        let _ ← expression fuel strict
        return Arguments.unpacked
      else if ← accept "*" then
        match come with
        | .unpacked => if strict then refuse .iterableAfterUnpacked else failure
        | _ =>
          let _ ← expression fuel strict
          return come
      else if ← namesBefore "=" then
        advance
        advance
        let _ ← expression fuel strict
        match come with
        | .unpacked => return Arguments.unpacked
        | _ => return Arguments.named
      else
        if ← namesBefore ":=" then
          advance
          advance
        let _ ← expression fuel strict
        if ← atMark "=" then
          match strict, start with
          | true, ⟨.word word, _⟩ :: ⟨.mark ['='], _⟩ :: _ => refuse (.constantArgument word)
          | true, _ => refuse .assigningArgument
          | false, _ => failure
        if ← atMark ":=" then failure
        match come with
        | .positional => return come
        | .named => if strict then refuse .positionalAfterNamed else failure
        | .unpacked => if strict then refuse .positionalAfterUnpacked else failure)
    if ← accept "," then arguments fuel strict come

/-- Reads a name, a constant, a number, texts, or what stands in brackets. -/
def atom (fuel : Nat) (strict : Bool) : Reading Expression :=
  match fuel with
  | 0 => failure
  | fuel + 1 => do
    match ← peek? with
    | some (.word text) =>
      advance
      if constants.contains text then return .constant text
      else if reservedWords.contains text then failure
      else return .name text
    | some (.number text) =>
      advance
      numberOf text
    | some (.text _ _) => texts
    | some (.mark mark) =>
      advance
      if mark = ['('] then group fuel strict
      else if mark = ['\x7b'] then braces fuel strict
      else if mark = ['.', '.', '.'] then return .ellipsis
      else failure
    | _ => failure

/-- Reads what follows a round bracket: a tuple, or an expression on its own. -/
def group (fuel : Nat) (strict : Bool) : Reading Expression :=
  match fuel with
  | 0 => failure
  | fuel + 1 => do
    if ← accept ")" then return .tuple []
    let start ← get
    match ← attempt (item fuel strict) with
    | some .starred =>
      if ← accept "," then return .tuple (.starred :: (← items fuel strict ")"))
    | some first =>
      if ← accept "," then return .tuple (first :: (← items fuel strict ")"))
      expect ")"
      return first
    | none => pure ()
    set start
    let isDouble ← atMark "**"
    let isStarred ← atMark "*"
    if strict && (isDouble || isStarred) then
      advance
      let _ ← expression fuel strict
      expect ")"
      refuse (.starredGroup isDouble)
    failure

/-- Reads an item of a tuple or set, which may be unpacked. -/
def item (fuel : Nat) (strict : Bool) : Reading Expression :=
  match fuel with
  | 0 => failure
  | fuel + 1 => do
    if ← accept "*" then
      let _ ← arithmetic fuel strict
      return .starred
    if ← namesBefore ":=" then
      advance
      advance
      let _ ← expression fuel strict
      return .naming
    let start ← get
    let first ← expression fuel strict
    unnamed fuel strict start first
    return first

/-- Checks that an expression, which begins with tokens and has been read, is not given a value. -/
def unnamed (fuel : Nat) (strict : Bool) (start : List Token) (first : Expression) :
    Reading Unit :=
  match fuel with
  | 0 => failure
  | fuel + 1 => do
    let behind ← get
    if strict then
      if ← accept ":=" then
        if ← canRead (expression fuel strict) then refuse (.namingOf first.kindName)
      else if first.isArithmetic then
        if ← accept "=" then
          if (← attempt (arithmetic fuel strict)).isSome && !(← atMark "=") && !(← atMark ":=") then
            match start with
            | ⟨.word word, _⟩ :: ⟨.mark ['='], _⟩ :: _ =>
              if !constants.contains word then refuse .assignment
            | ⟨.word word, _⟩ :: _ =>
              if !constants.contains word then refuse (.assignmentTo first.kindName)
            | ⟨.mark ['('], _⟩ :: rest =>
              set rest
              match ← attempt (group fuel strict) with
              | some (.tuple _) => pure ()
              | _ => refuse (.assignmentTo first.kindName)
            | _ => refuse (.assignmentTo first.kindName)
      set behind
    if ← atMark ":=" then failure

/-- Reads the items that follow a comma, up to a closing bracket. -/
def items (fuel : Nat) (strict : Bool) (closing : String) : Reading (List Expression) :=
  match fuel with
  | 0 => failure
  | fuel + 1 => do
    if ← accept closing then return []
    let first ← item fuel strict
    if ← accept "," then return first :: (← items fuel strict closing)
    expect closing
    return [first]

/-- Reads what follows a brace: a set or a mapping. -/
def braces (fuel : Nat) (strict : Bool) : Reading Expression :=
  match fuel with
  | 0 => failure
  | fuel + 1 => do
    if ← accept "\x7d" then return .mapping []
    if ← atMark "**" then return .mapping (← pairs fuel strict true)
    let start ← get
    if !(← atMark "*") && !(← namesBefore ":=") then
      let first ← expression fuel strict
      if ← accept ":" then return .mapping (← pairsFrom fuel strict first)
      unnamed fuel strict start first
      if ← accept "," then return .set (first :: (← items fuel strict "\x7d"))
      expect "\x7d"
      return .set [first]
    let first ← item fuel strict
    if ← accept "," then return .set (first :: (← items fuel strict "\x7d"))
    expect "\x7d"
    return .set [first]

/-- Reads the entries of a mapping up to its brace; `isFirst` says that none has come. -/
def pairs (fuel : Nat) (strict isFirst : Bool) : Reading (List Expression) :=
  match fuel with
  | 0 => failure
  | fuel + 1 => do
    if !isFirst then
      if ← accept "\x7d" then return []
    if ← accept "**" then
      let _ ← arithmetic fuel strict
      return .entries :: (← afterPair fuel strict)
    let key ← expression fuel strict
    if ← accept ":" then pairsFrom fuel strict key
    else if strict then refuse .missingColon
    else failure

/-- Reads the entries of a mapping from the value of a key on. -/
def pairsFrom (fuel : Nat) (strict : Bool) (key : Expression) : Reading (List Expression) :=
  match fuel with
  | 0 => failure
  | fuel + 1 => do
    match ← attempt (expression fuel strict) with
    | some value => return .entry key value :: (← afterPair fuel strict)
    | none =>
      if strict then
        if (← atMark "\x7d") || (← atMark ",") then refuse .missingValue
        if ← accept "*" then
          if ← canRead (arithmetic fuel strict) then refuse .starredValue
      failure

/-- Reads the entries of a mapping behind one of them. -/
def afterPair (fuel : Nat) (strict : Bool) : Reading (List Expression) :=
  match fuel with
  | 0 => failure
  | fuel + 1 => do
    if ← accept "," then pairs fuel strict false
    else
      expect "\x7d"
      return []

end

/-! ## Texts -/

/-- Reads the expressions behind commas. -/
def further (fuel : Nat) (strict : Bool) : Reading (List Expression) :=
  match fuel with
  | 0 => failure
  | fuel + 1 => do
    if ← accept "," then
      match ← attempt (expression fuel strict) with
      | some first => return first :: (← further fuel strict)
      | none => return []
    else return []

/-- Takes the ends of lines, up to the end of the text. -/
def lineEnds : List Token → Reading Unit
  | [] => return
  | token :: tokens =>
    match token.lexeme with
    | .lineEnd => lineEnds tokens
    | .indent => refuse .indented
    | .bad fault => refuse (.token fault)
    | _ => failure

/-- Reads the expression that all tokens make up; several with commas between make a tuple. -/
def wholeExpression (fuel : Nat) (strict : Bool) : Reading Expression := do
  let first ← expression fuel strict
  let isTuple ← atMark ","
  let others ← further fuel strict
  lineEnds (← get)
  return if isTuple then .tuple (first :: others) else first

/-- The calls that are needed for a token at most. -/
def callsPerToken : Nat := 16

/-- The fault of tokens that make up no expression, given where reading them has stopped. -/
def decisiveFault (tokens : List Token) (fault : ExpressionFault) : ExpressionFault :=
  match tokens.getLast? with
  | some ⟨.bad last, _⟩ =>
    if last.isDecisive && fault != .indented then .token last else fault
  | _ => fault

/-- **Reads the expression that a text is.** -/
def readExpression (text : List Char) : Except ExpressionFault Expression :=
  let tokens := tokensOf text
  let fuel := callsPerToken * (tokens.length + 2)
  let read (strict : Bool) := (wholeExpression fuel strict).run' tokens |>.run
  let result := do
    match ← read false with
    | some expression => return some expression
    | none => read true
  match result with
  | .ok (some expression) => .ok expression
  | .ok none => .error (decisiveFault tokens .malformed)
  | .error fault => .error (decisiveFault tokens fault)

end TreeSift.Literal
