import TreeSift.Text.Integer
import TreeSift.Yaml.Scalar
import TreeSift.Yaml.Token

/-! # Tokens of a text

`Token.ofText` cuts a YAML text into tokens. Outside of brackets it follows the indentation and puts
in the starts and ends of lists and mappings. A key is known as one only when the colon after it is
met, so the lexer remembers where a key could have started (`KeyPlace`) and puts in the tokens for
it there. -/

namespace TreeSift.Yaml

open TreeSift.Text (isHexDigit digitsValue)

/-- A place in a text, as `LexState` keeps it. -/
structure Cursor where
  /-- The text that is left. -/
  rest : List Char
  /-- The number of characters before it. -/
  index : Nat := 0
  /-- The number of line breaks before it. -/
  line : Nat := 0
  /-- The number of characters since the last line break. -/
  column : Nat := 0

namespace Cursor

/-- The place after one character. A byte order mark takes no column. -/
def next (cursor : Cursor) : Cursor :=
  match cursor.rest with
  | [] => cursor
  | c :: rest =>
    let ⟨_, index, line, column⟩ := cursor
    -- a carriage return before a line feed leaves the new line to it
    if isBreak c && !(c == '\r' && rest.head? == some '\n') then ⟨rest, index + 1, line + 1, 0⟩
    else ⟨rest, index + 1, line, if c == '\ufeff' then column else column + 1⟩

/-- The place after a number of characters. -/
def skip (cursor : Cursor) : Nat → Cursor
  | 0 => cursor
  | n + 1 => cursor.next.skip n

/-- The place where only the given end of the text is left. -/
def moveTo (cursor : Cursor) (rest : List Char) : Cursor :=
  cursor.skip (cursor.rest.length - rest.length)

end Cursor

/-- **A place where a key could have started**, as `noteKey` notes it. -/
structure KeyPlace where
  /-- The number of tokens before it. -/
  tokens : Nat
  /-- Whether nothing but a key can be there. -/
  required : Bool
  /-- The number of characters before it. -/
  index : Nat
  /-- The line. -/
  line : Nat
  /-- The column. -/
  column : Nat

/-- The most characters from the start of a key to its colon. -/
def keyReach : Nat := 1024

/-- **What the lexer knows on its way through a text**, the state of a `Lex`. -/
structure LexState where
  /-- The place in the text. -/
  cursor : Cursor
  /-- The columns of the open lists and mappings by indentation, the innermost one first. -/
  indents : List Nat := []
  /-- Where a key could have started inside the innermost brackets. -/
  place? : Option KeyPlace := none
  /-- The same for the brackets around, the innermost ones first. -/
  outer : List (Option KeyPlace) := []
  /-- Whether a key may start here. -/
  keyAllowed : Bool := true
  /-- The number of tokens so far. -/
  count : Nat := 0
  /-- The tokens so far, the last one first. -/
  tokens : List Token := []

/-- A step of the lexer, which a `Refusal` ends. -/
abbrev Lex := StateT LexState (Except Refusal)

namespace Lex

/-- Refuses the text. -/
def refuse {α : Type} : Lex α :=
  throw .malformed

/-- Adds a token. -/
def emit (token : Token) : Lex Unit :=
  modify fun s => { s with tokens := token :: s.tokens, count := s.count + 1 }

/-- Puts in a token where a number of tokens were before it. -/
def insert (tokens : Nat) (token : Token) : Lex Unit :=
  modify fun s =>
    -- the tokens are in reverse, so those behind the place come first
    let after := s.count - tokens
    { s with tokens := s.tokens.take after ++ token :: s.tokens.drop after, count := s.count + 1 }

/-- Whether the place is inside brackets. -/
def inFlow : Lex Bool :=
  return !(← get).outer.isEmpty

/-- Goes on where only the given end of the text is left. -/
def moveTo (rest : List Char) : Lex Unit :=
  modify fun s => { s with cursor := s.cursor.moveTo rest }

/-- Adds a token for a number of characters. -/
def take (characters : Nat) (token : Token) : Lex Unit := do
  modify fun s => { s with cursor := s.cursor.skip characters }
  emit token

/-- Says whether a key may come next. -/
def allowKey (allowed : Bool) : Lex Unit :=
  modify fun s => { s with keyAllowed := allowed }

/-! ## Indentation -/

/-- Ends lists and mappings from the innermost one on, as long as `p` holds on their columns. -/
def closeWhile (p : Nat → Bool) : List Nat → Lex Unit
  | [] => modify fun s => { s with indents := [] }
  | indent :: indents =>
    if p indent then do
      emit .blockEnd
      closeWhile p indents
    else modify fun s => { s with indents := indent :: indents }

/-- Ends lists and mappings by their columns, outside of brackets. -/
def unwind (p : Nat → Bool) : Lex Unit := do
  if !(← inFlow) then closeWhile p (← get).indents

/-- Ends all lists and mappings by indentation, outside of brackets. -/
def unwindAll : Lex Unit :=
  unwind fun _ => true

/-- Notes a column as the one of a new list or mapping, if it is deeper than the open ones. `unwind`
ends these by their columns. -/
def indentTo (column : Nat) : Lex Bool := do
  let s ← get
  if s.indents.head?.all (· < column) then
    set { s with indents := column :: s.indents }
    return true
  else return false

/-! ## Keys -/

/-- Whether a key that could have started somewhere can no longer end here. -/
def isStale (cursor : Cursor) (place : KeyPlace) : Bool :=
  place.line != cursor.line || keyReach < cursor.index - place.index

/-- A place of a key, unless it is stale by `isStale`. A required key must not get stale. -/
def dropStale (cursor : Cursor) (place? : Option KeyPlace) : Except Refusal (Option KeyPlace) :=
  match place? with
  | none => .ok none
  | some place =>
    if !isStale cursor place then .ok (some place)
    else if place.required then .error .malformed
    else .ok none

/-- Forgets the places of keys that are stale. -/
def dropStaleKeys : Lex Unit := do
  let s ← get
  let place? ← dropStale s.cursor s.place?
  let outer ← (s.outer.mapM (dropStale s.cursor) : Except Refusal _)
  set { s with place?, outer }

/-- Forgets the place of a key inside the innermost brackets, which must not be required. -/
def forgetKey : Lex Unit := do
  let s ← get
  if s.place?.any (·.required) then refuse
  set { s with place? := none }

/-- Notes that a key could start here, with the number of tokens before it, where `valueIndicator`
puts in its token. -/
def noteKey : Lex Unit := do
  let s ← get
  if s.keyAllowed then
    forgetKey
    let cursor := s.cursor
    -- in the column of the mapping that is open, nothing but its next key can stand
    let required := s.outer.isEmpty && s.indents.head? == some cursor.column
    modify fun s =>
      { s with place? := some ⟨s.count, required, cursor.index, cursor.line, cursor.column⟩ }

/-! ## Tokens -/

/-- The text after spaces, comments and line breaks, and whether a line break was among them. -/
def skipToToken : Nat → List Char → List Char × Bool
  | 0, text => (text, false)
  | fuel + 1, text =>
    let rest := text.dropWhile (· == ' ')
    let rest := if rest.head? == some '#' then dropLine rest else rest
    match takeBreak? rest with
    | none => (rest, false)
    | some (_, rest) => ((skipToToken fuel rest).1, true)

/-- Goes on to the next token, behind what `skipToToken` passes over. -/
def goToToken : Lex Unit := do
  let s ← get
  let text := s.cursor.rest
  let (rest, newLine) := skipToToken (text.length + 1) text
  moveTo rest
  if newLine && s.outer.isEmpty then allowKey true

/-- Ends everything before a directive or the mark of a document. -/
def endDocument : Lex Unit := do
  unwindAll
  forgetKey
  allowKey false

/-- The start of a list or mapping in brackets. -/
def openFlow (token : Token) : Lex Unit := do
  noteKey
  modify fun s => { s with outer := s.place? :: s.outer, place? := none, keyAllowed := true }
  take 1 token

/-- The end of a list or mapping in brackets. -/
def closeFlow (token : Token) : Lex Unit := do
  forgetKey
  let s ← get
  match s.outer with
  | [] => refuse
  | place? :: outer =>
    set { s with place?, outer, keyAllowed := false }
    take 1 token

/-- A comma between items or entries. -/
def comma : Lex Unit := do
  allowKey true
  forgetKey
  take 1 .comma

/-- The indicator of an item, or of a key that may be a collection. Outside of brackets it needs a
place where a key may start, and may start a collection. -/
def blockIndicator (start token : Token) (keyInFlow : Bool) : Lex Unit := do
  let flow ← inFlow
  if !flow then
    let s ← get
    if !s.keyAllowed then refuse
    if ← indentTo s.cursor.column then emit start
  allowKey (!flow || keyInFlow)
  forgetKey
  take 1 token

/-- The colon before a value. If `noteKey` has noted a key before it, that is a key now. -/
def valueIndicator : Lex Unit := do
  let s ← get
  let flow ← inFlow
  match s.place? with
  | some place =>
    set { s with place? := none }
    -- what stands before the colon is a key now, and may be the first one of a mapping
    insert place.tokens .key
    if !flow then
      if ← indentTo place.column then insert place.tokens .blockMappingStart
    allowKey false
  | none =>
    -- a colon without a key before it: the key is empty, or had an indicator of its own
    if !flow then
      if !s.keyAllowed then refuse
      if ← indentTo s.cursor.column then emit .blockMappingStart
    allowKey (!flow)
    forgetKey
  take 1 .value

/-- The name of an anchor or alias, whose indicator comes first. -/
def anchorName (text : List Char) : Except Refusal (String × List Char) :=
  let text := text.drop 1
  let name := text.takeWhile isNameChar
  let rest := text.dropWhile isNameChar
  let ends := atBlank rest || rest.head?.any fun c => "?:,]\x7d%@`".toList.contains c
  if name.isEmpty || !ends then .error .malformed else .ok (String.ofList name, rest)

/-- An anchor or an alias. -/
def anchor (token : String → Token) : Lex Unit := do
  noteKey
  allowKey false
  let (name, rest) ← anchorName (← get).cursor.rest
  moveTo rest
  emit (token name)

/-- The bytes that numeric escapes write, one after the other. -/
def escapedBytes : Nat → List Char → Except Refusal (List UInt8 × List Char)
  | 0, text => .ok ([], text)
  | fuel + 1, text =>
    match text with
    | '%' :: a :: b :: rest =>
      if isHexDigit a && isHexDigit b then do
        let (bytes, left) ← escapedBytes fuel rest
        return (UInt8.ofNat (digitsValue 16 [a, b]) :: bytes, left)
      else .error .malformed
    | '%' :: _ => .error .malformed
    | _ => .ok ([], text)

/-- The characters of a tag. Escaped bytes stand for characters in UTF-8. -/
def tagChars : Nat → List Char → Except Refusal (List Char × List Char)
  | 0, text => .ok ([], text)
  | fuel + 1, text =>
    match text with
    | '%' :: _ => do
      let (bytes, rest) ← escapedBytes fuel text
      match String.fromUTF8? ⟨bytes.toArray⟩ with
      | none => .error .malformed
      | some decoded =>
        let (more, left) ← tagChars fuel rest
        return (decoded.toList ++ more, left)
    | c :: rest =>
      if c.isAlphanum || tagPunctuation.contains c then do
        let (more, left) ← tagChars fuel rest
        return (c :: more, left)
      else .ok ([], text)
    | [] => .ok ([], [])

/-- The part of a tag after its handle, which is not empty. -/
def tagSuffix (text : List Char) : Except Refusal (String × List Char) := do
  let (cs, rest) ← tagChars (text.length + 1) text
  if cs.isEmpty then throw .malformed
  return (String.ofList cs, rest)

/-- The handle of a tag: an exclamation mark alone before a space, or two of them with a name
between them. -/
def tagHandle (text : List Char) : Except Refusal (String × List Char) :=
  match text with
  | '!' :: ' ' :: rest => .ok ("!", ' ' :: rest)
  | '!' :: rest =>
    let name := rest.takeWhile isNameChar
    match rest.dropWhile isNameChar with
    | '!' :: rest => .ok (String.ofList ('!' :: name ++ ['!']), rest)
    | _ => .error .malformed
  | _ => .error .malformed

/-- A tag, whose exclamation mark comes first. -/
def tagToken (text : List Char) : Except Refusal (Token × List Char) := do
  let (token, rest) ←
    match text.drop 1 with
    | '<' :: rest => do
      let (suffix, rest) ← tagSuffix rest
      match rest with
      | '>' :: rest => pure (Token.tag none suffix, rest)
      | _ => throw .malformed
    | rest =>
      if atBlank rest then pure (Token.tag none "!", rest)
      else do
        -- a second exclamation mark in the word ends a handle
        let word := rest.takeWhile fun c => !(isBreak c || c == ' ')
        let (handle, rest) ← if word.contains '!' then tagHandle text else pure ("!", rest)
        let (suffix, rest) ← tagSuffix rest
        pure (Token.tag (some handle) suffix, rest)
  if atSpace rest then return (token, rest) else throw .malformed

/-- A tag, as `tagToken` reads it. -/
def tag : Lex Unit := do
  noteKey
  allowKey false
  let (token, rest) ← tagToken (← get).cursor.rest
  moveTo rest
  emit token

/-- A number of a version, whose digits come next. -/
def versionPart (text : List Char) : Except Refusal (Nat × List Char) :=
  let digits := text.takeWhile Char.isDigit
  if digits.isEmpty then .error .malformed
  else
    match Text.readNatural 10 digits with
    | .ok number => .ok (number, text.dropWhile Char.isDigit)
    | .error fault => .error (.notInteger 10 (String.ofList digits) fault)

/-- The major number of a version; its minor number is not needed. -/
def versionNumber (text : List Char) : Except Refusal (Directive × List Char) := do
  let (major, rest) ← versionPart (text.dropWhile (· == ' '))
  match rest with
  | '.' :: rest =>
    let (_, rest) ← versionPart rest
    if atSpace rest then return (.version major, rest) else throw .malformed
  | _ => throw .malformed

/-- A handle of tags and what it stands for. -/
def handleDefinition (text : List Char) : Except Refusal (Directive × List Char) := do
  let (name, rest) ← tagHandle (text.dropWhile (· == ' '))
  if rest.head? != some ' ' then throw .malformed
  let (start, rest) ← tagSuffix (rest.dropWhile (· == ' '))
  if atSpace rest then return (.handle name start, rest) else throw .malformed

/-- A directive, whose percent sign comes first. -/
def directiveToken (text : List Char) : Except Refusal (Directive × List Char) := do
  let text := text.drop 1
  let name := text.takeWhile isNameChar
  let rest := text.dropWhile isNameChar
  if name.isEmpty || !atSpace rest then throw .malformed
  let (directive, rest) ←
    if name = "YAML".toList then versionNumber rest
    else if name = "TAG".toList then handleDefinition rest
    else pure (Directive.other, dropLine rest)
  return (directive, ← dropEmptyLine rest)

/-- A directive, as `directiveToken` reads it. -/
def directive : Lex Unit := do
  endDocument
  let (directive, rest) ← directiveToken (← get).cursor.rest
  moveTo rest
  emit (.directive directive)

/-- A block scalar, as `blockScalar` reads it. -/
def block (folded : Bool) : Lex Unit := do
  allowKey true
  forgetKey
  let s ← get
  let least := (s.indents.head?.map (· + 1)).getD 1
  let (content, rest) ← blockScalar folded least (s.cursor.rest.drop 1)
  moveTo rest
  emit (.scalar (String.ofList content) false)

/-- A scalar between quotes, as `quotedScalar` reads it. -/
def quoted (double : Bool) : Lex Unit := do
  noteKey
  allowKey false
  let text := (← get).cursor.rest
  let (content, rest) ← quotedScalar double (text.length + 1) (text.drop 1)
  moveTo rest
  emit (.scalar (String.ofList content) false)

/-- A plain scalar, as `plainScalar` reads it. A key may follow it on a new line. -/
def plain : Lex Unit := do
  noteKey
  let s ← get
  let text := s.cursor.rest
  let indent := (s.indents.head?.map (· + 1)).getD 0
  match plainScalar (!s.outer.isEmpty) indent (text.length + 1) text with
  | none => refuse
  | some scalar =>
    allowKey scalar.newLine
    moveTo scalar.rest
    emit (.scalar (String.ofList scalar.content) true)

/-- Whether a plain scalar may start with a character. -/
def startsPlain (flow : Bool) (c : Char) (rest : List Char) : Bool :=
  if "-?:,[]\x7b\x7d#&*!|>'\"%@`".toList.contains c then
    !atBlank rest && (c == '-' || (!flow && (c == '?' || c == ':')))
  else !(isBreak c || isGap c)

/-- The token that starts with a character. -/
def token (c : Char) (rest : List Char) : Lex Unit := do
  let flow ← inFlow
  let atStart := (← get).cursor.column == 0
  if atStart && c == '%' then directive
  else if atStart && atDocumentMark (c :: rest) then
    endDocument
    take 3 (if c == '-' then .documentStart else .documentEnd)
  else if c == '[' then openFlow .flowListStart
  else if c == '\x7b' then openFlow .flowMappingStart
  else if c == ']' then closeFlow .flowListEnd
  else if c == '\x7d' then closeFlow .flowMappingEnd
  else if c == ',' then comma
  -- these are indicators in front of blanks, and two of them in flow collections as well
  else if c == '-' && atBlank rest then blockIndicator .blockListStart .item true
  else if c == '?' && (flow || atBlank rest) then blockIndicator .blockMappingStart .key false
  else if c == ':' && (flow || atBlank rest) then valueIndicator
  else if c == '*' then anchor .alias
  else if c == '&' then anchor .anchor
  else if c == '!' then tag
  else if c == '|' && !flow then block false
  else if c == '>' && !flow then block true
  else if c == '\'' then quoted false
  else if c == '"' then quoted true
  else if startsPlain flow c rest then plain
  else refuse

/-- The next token, by `token`, with those that indentation shows before it. The answer says whether
the text goes on. -/
def step : Lex Bool := do
  goToToken
  dropStaleKeys
  match (← get).cursor.rest with
  | [] =>
    unwindAll
    forgetKey
    return false
  | c :: rest =>
    -- what is open in a deeper column ends before the next token
    let column := (← get).cursor.column
    unwind (column < ·)
    token c rest
    return true

/-- The number of tokens in front of which no other can be put in: a key may still turn out to start
where the first of the others is. -/
def settled (s : LexState) : Nat :=
  (s.place? :: s.outer).foldl (fun least place? =>
    match place? with
    | some place => if isStale s.cursor place then least else min least place.tokens
    | none => least) s.count

/-- The tokens of the text, the last one first, one `step` after the other. Where it cannot be read
further, only the settled ones count. -/
def steps : Nat → LexState → List Token
  | 0, s => s.tokens
  | fuel + 1, s =>
    match step.run s with
    | .error refusal => .broken refusal :: s.tokens.drop (s.count - settled s)
    | .ok (true, s) => steps fuel s
    | .ok (false, s) => s.tokens

end Lex

/-- **The tokens of a text**, which `Graph.ofTokens` takes. A byte order mark at its start is left
out. The last token says so if the text cannot be read to its end. -/
def Token.ofText (text : List Char) : List Token :=
  if text.all isAllowed then
    let cursor : Cursor := ⟨text, 0, 0, 0⟩
    let cursor := if text.head? == some '\ufeff' then cursor.next else cursor
    (Lex.steps (text.length + 1) { cursor }).reverse
  else [.broken .malformed]

end TreeSift.Yaml
