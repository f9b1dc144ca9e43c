import TreeSift.Regex.Source
import TreeSift.Regex.Syntax
import TreeSift.Text.CharacterName
import TreeSift.Text.Integer

/-! # Reading regular expressions

`Node.ofSource?` reads a regular expression, or says why it is refused. The reader keeps the flags
of the whole expression, the groups met so far with their names and widths, and the groups that a
conditional refers to by number. -/

namespace TreeSift.Regex

open TreeSift.Text (characterNamed? isIdentifier isLetter isBlank isHexDigit isOctDigit digitsValue
  readInteger)

/-- What the reader knows about the expression so far, the state of a `Read`. -/
structure ReadState where
  /-- The place in the source. -/
  cursor : Cursor
  /-- The flags of the whole expression. -/
  flags : Flags
  /-- The width of each group, the whole expression being group zero; an open group has none. -/
  groups : Array (Option Width) := #[none]
  /-- The groups that have a name. -/
  names : List (String × Nat) := []
  /-- The groups that conditionals refer to by number, with the first position of each. -/
  references : List (Nat × Nat) := []
  /-- Inside a look-behind, the number of groups that were there before it. -/
  lookBehindGroups : Option Nat := none

/-- Readers of a part of the source, which a `Refusal` ends. -/
abbrev Read := StateT ReadState (Except Refusal)

namespace Read

/-- Refuses the source, with the position `back` characters before the next token. -/
def fault {α : Type} (problem : Problem) (back : Nat := 0) : Read α := do
  let position := (← get).cursor.position
  throw (.malformed ⟨problem, some (position - back)⟩)

/-- The position of the next token. -/
def position : Read Nat :=
  return (← get).cursor.position

/-- The next token, which stays there. -/
def peek? : Read (Option Token) :=
  return (← get).cursor.next?

/-- Moves on by one token. -/
def skip : Read Unit := do
  let state ← get
  match state.cursor.advance with
  | .ok cursor => set { state with cursor }
  | .error fault => throw (.malformed fault)

/-- Takes the next token. -/
def take? : Read (Option Token) := do
  let token ← peek?
  skip
  return token

/-- Takes the next token if it is a certain character. -/
def accept (c : Char) : Read Bool := do
  if (← peek?) = some (.plain c) then
    skip
    return true
  else return false

/-- Takes up to `n` characters that satisfy a condition. -/
def takeWhile (p : Char → Bool) : Nat → Read (List Char)
  | 0 => return []
  | n + 1 => do
    match ← peek? with
    | some (.plain c) =>
      if p c then
        skip
        return c :: (← takeWhile p n)
      else return []
    | _ => return []

/-- Takes everything up to a terminator, which is dropped. The terminator has to be there, and
something before it. -/
def takeUntil (terminator : Char) (what : String) : Nat → List Char → Read (List Char)
  | 0, taken => return taken
  | n + 1, taken => do
    let token ← peek?
    skip
    match token with
    | none =>
      if taken.isEmpty then fault (.missingName what)
      else fault (.unterminatedName terminator) taken.length
    | some token =>
      if token = .plain terminator then
        if taken.isEmpty then fault (.missingName what) 1
        else return taken
      else takeUntil terminator what n (taken ++ token.text)

/-- The number of characters that have not been read, as a bound for loops. -/
def remaining : Read Nat :=
  return (← get).cursor.rest.length + 2

/-- Takes a name up to its terminator. -/
def name (terminator : Char) (what : String) : Read (List Char) := do
  takeUntil terminator what (← remaining) []

/-- Whether a group exists and is closed. -/
def isClosed (index : Nat) : Read Bool :=
  return ((← get).groups[index]?.getD none).isSome

/-- Inside a look-behind, refuses groups that are open or defined in it. -/
def checkLookBehind (index : Nat) : Read Unit := do
  match (← get).lookBehindGroups with
  | none => return
  | some count =>
    if !(← isClosed index) then fault .openGroup
    if count ≤ index then fault .sameLookBehind

/-- Opens the next group. -/
def openGroup (groupName : Option (List Char)) : Read Nat := do
  let state ← get
  let index := state.groups.size
  match groupName with
  | none => set { state with groups := state.groups.push none }
  | some chars =>
    let text := String.ofList chars
    match state.names.lookup text with
    | some earlier => fault (.redefinedName text index earlier) (chars.length + 1)
    | none =>
      set { state with groups := state.groups.push none, names := (text, index) :: state.names }
  return index

/-- The widths of the groups that are closed. -/
def widths : Read (Nat → Width) := do
  let groups := (← get).groups
  return fun index => (groups[index]?.getD none).getD ⟨0, 0⟩

/-- Closes a group. -/
def closeGroup (index : Nat) (body : Node) : Read Unit := do
  let width := body.width (← widths)
  modify fun state => { state with groups := state.groups.setIfInBounds index (some width) }

end Read

open Read

/-- Whether a character is a letter of ASCII. -/
def isAsciiLetter (c : Char) : Bool :=
  c.isUpper || c.isLower

/-- The code point of a named control escape. -/
def controlEscape? (c : Char) : Option Nat :=
  match c with
  | 'a' => some 7
  | 'b' => some 8
  | 'f' => some 12
  | 'n' => some 10
  | 'r' => some 13
  | 't' => some 9
  | 'v' => some 11
  | '\\' => some 92
  | _ => none

/-- The class of a class escape, and whether it is the complement. -/
def categoryEscape? (c : Char) : Option (Category × Bool) :=
  match c with
  | 'd' => some (.digit, false)
  | 'D' => some (.digit, true)
  | 's' => some (.space, false)
  | 'S' => some (.space, true)
  | 'w' => some (.word, false)
  | 'W' => some (.word, true)
  | _ => none

/-- The anchor of an anchor escape. -/
def anchorEscape? (c : Char) : Option Anchor :=
  match c with
  | 'A' => some .textStart
  | 'Z' => some .textEnd
  | 'b' => some .wordBoundary
  | 'B' => some .notWordBoundary
  | _ => none

/-- The fixed number of hexadecimal digits of an escape. -/
def readHex (letter : Char) (count : Nat) : Read (List Char) := do
  let digits ← takeWhile isHexDigit count
  if digits.length < count then
    fault (.incompleteEscape (String.ofList ('\\' :: letter :: digits))) (digits.length + 2)
  return digits

/-- Codes have to be below this number even to be compared with the codes of characters. -/
def codeLimit : Nat :=
  0x80000000

/-- The code that eight hexadecimal digits write. A code beyond all characters is a bad escape, but
from `codeLimit` on it is refused before that is found out. -/
def longCode (digits : List Char) : Read Nat := do
  let code := digitsValue 16 digits
  if codeLimit ≤ code then throw .codeTooLarge
  if 0x10ffff < code then fault (.badEscape (String.ofList ('\\' :: 'U' :: digits))) 10
  return code

/-- The escapes that name a character by its code or by its name; none if the letter begins no
such escape. -/
def readCode? (letter : Char) : Read (Option Nat) := do
  match letter with
  | 'x' => return some (digitsValue 16 (← readHex 'x' 2))
  | 'u' => return some (digitsValue 16 (← readHex 'u' 4))
  | 'U' => return some (← longCode (← readHex 'U' 8))
  | 'N' =>
    if !(← accept '{') then fault .missingBrace
    let name ← name '}' "character name"
    match characterNamed? name with
    | some code => return some code
    | none => fault (.undefinedCharacter (String.ofList name)) (name.length + 4)
  | _ => return none

/-- An octal escape of three digits is at most `\377`. -/
def octalCode (digits : List Char) : Read Nat := do
  let code := digitsValue 8 digits
  if 0o377 < code then
    fault (.octalTooLarge (String.ofList ('\\' :: digits))) (digits.length + 1)
  return code

/-- An escape inside of a set. -/
def readSetEscape (c : Char) : Read SetItem := do
  match controlEscape? c with
  | some code => return .code code
  | none =>
    match categoryEscape? c with
    | some (category, negated) => return .category category negated
    | none =>
      match ← readCode? c with
      | some code => return .code code
      | none =>
        if isOctDigit c then
          return .code (← octalCode (c :: (← takeWhile isOctDigit 2)))
        else if c.isDigit || isAsciiLetter c then
          fault (.badEscape (String.ofList ['\\', c])) 2
        else return .code c.toNat

/-- A reference to a group by number. -/
def readReference (digits : List Char) : Read Node := do
  let index := digitsValue 10 digits
  if index < (← get).groups.size then
    if !(← isClosed index) then fault .openGroup (digits.length + 1)
    checkLookBehind index
    return .backref index
  else fault (.invalidReference index) digits.length

/-- A digit escape: three octal digits are a code, anything else refers to a group. -/
def readDigitEscape (c : Char) : Read Node := do
  match ← peek? with
  | some (.plain d) =>
    if d.isDigit then
      skip
      match ← peek? with
      | some (.plain e) =>
        if isOctDigit c && isOctDigit d && isOctDigit e then
          skip
          return .one (.code (← octalCode [c, d, e]))
        else readReference [c, d]
      | _ => readReference [c, d]
    else readReference [c]
  | _ => readReference [c]

/-- An escape outside of sets. -/
def readEscape (c : Char) : Read Node := do
  match anchorEscape? c with
  | some anchor => return .anchor anchor
  | none =>
    match categoryEscape? c with
    | some (category, negated) => return .one (.set false [.category category negated])
    | none =>
      match controlEscape? c with
      | some code => return .one (.code code)
      | none =>
        match ← readCode? c with
        | some code => return .one (.code code)
        | none =>
          if c = '0' then
            return .one (.code (digitsValue 8 (← takeWhile isOctDigit 2)))
          else if c.isDigit then readDigitEscape c
          else if isAsciiLetter c then fault (.badEscape (String.ofList ['\\', c])) 2
          else return .one (.code c.toNat)

/-- One member of a set, from its first token. -/
def readSetMember : Token → Read SetItem
  | .escape c => readSetEscape c
  | .plain c => return .code c.toNat

/-- The members of a set, up to the closing bracket. -/
def readSetItems (start : Nat) : Nat → List SetItem → Read (List SetItem)
  | 0, items => return items
  | n + 1, items => do
    match ← take? with
    | none => fault .unterminatedSet ((← position) - start)
    | some token =>
      -- a bracket in the first place is a member
      if token = .plain ']' ∧ !items.isEmpty then return items
      let first ← readSetMember token
      if ← accept '-' then
        match ← take? with
        | none => fault .unterminatedSet ((← position) - start)
        -- a dash before the closing bracket is a member
        | some (.plain ']') => return items ++ [first, .code '-'.toNat]
        | some last =>
          let bad : Problem :=
            .badRange (String.ofList token.text) (String.ofList last.text)
          let back := token.text.length + 1 + last.text.length
          match first, ← readSetMember last with
          | .code low, .code high =>
            if high < low then fault bad back
            readSetItems start n (items ++ [.range low high])
          | _, _ => fault bad back
      else readSetItems start n (items ++ [first])

/-- The items without those that stood before. -/
def distinctItems (items : List SetItem) : List SetItem :=
  items.foldl (fun kept item => if kept.contains item then kept else kept ++ [item]) []

/-- A set, after its opening bracket. -/
def readSet : Read Node := do
  let start := (← position) - 1
  let negated ← accept '^'
  let items ← readSetItems start (← remaining) []
  match distinctItems items with
  | [.code code] => return .one (if negated then .notCode code else .code code)
  | items => return .one (.set negated items)

/-- Part of a sequence: an expression, or the parts of a group that only keeps them together. -/
inductive Piece where
  /-- An expression. -/
  | single (node : Node)
  /-- A group without number and flags. -/
  | bare (nodes : List Node)

/-- The expressions of a part. -/
def Piece.nodes : Piece → List Node
  | .single node => [node]
  | .bare nodes => nodes

/-- A bound of a repetition. -/
def readBound (digits : List Char) : Read (Option Nat) := do
  if digits.isEmpty then return none
  if Text.digitLimit < digits.length then throw (.boundTooLong digits.length)
  let bound := digitsValue 10 digits
  if repetitionLimit ≤ bound then throw .repetitionTooLarge
  return some bound

/-- The bounds in braces, after the opening one. Without proper bounds the brace stands for
itself, and nothing after it is taken. -/
def readBounds (start : Nat) : Read (Option (Nat × Option Nat)) := do
  let saved := (← get).cursor
  if (← peek?) = some (.plain '}') then return none
  let count ← remaining
  let low ← takeWhile Char.isDigit count
  let high ← if ← accept ',' then takeWhile Char.isDigit count else pure low
  if !(← accept '}') then
    -- no bounds after all: the text behind the brace is read again
    modify fun state => { state with cursor := saved }
    return none
  let min := (← readBound low).getD 0
  let max ← readBound high
  if max.any (· < min) then fault .repeatBounds ((← position) - start)
  return some (min, max)

/-- How much a repetition takes: as little as it can behind a `?`, all that it has taken once behind a
`+`. Of two such marks only the first belongs to the repetition. -/
def readGreed : Read Greed := do
  if ← accept '?' then return .reluctant
  if ← accept '+' then return .possessive
  return .greedy

/-- Repeats the last part read, as a `Node.loop` whose greed `readGreed` reads. What is a repetition
itself must not be repeated. -/
def repeatLast (start min : Nat) (max : Option Nat) (pieces : List Piece) :
    Read (List Piece) := do
  match pieces.getLast? with
  | none => fault .nothingToRepeat ((← position) - start + 1)
  | some (.single (.anchor _)) => fault .nothingToRepeat ((← position) - start + 1)
  | some (.single (.loop ..)) => fault .multipleRepeat ((← position) - start + 1)
  | some piece =>
    let greed ← readGreed
    return pieces.dropLast ++ [.single (.loop greed min max (.ofList piece.nodes))]

/-- The flag of a letter. -/
def flagOf? (c : Char) : Option Flags :=
  match c with
  | 'i' => some { ignoreCase := true }
  | 'm' => some { multiline := true }
  | 's' => some { dotAll := true }
  | 'x' => some { verbose := true }
  | 'a' => some { ascii := true }
  | 't' => some { template := true }
  | 'u' => some { unicode := true }
  | _ => none

/-- Whether a letter is a flag, the locale included. -/
def isFlag (c : Char) : Bool :=
  c == 'L' || (flagOf? c).isSome

/-- The problem with a token that is no flag: an unknown flag if it is a letter. -/
def noFlag (token : Token) (otherwise : Problem) : Read Unit :=
  let isLetterToken :=
    match token with
    | .plain c => isLetter c
    | .escape _ => false
  fault (if isLetterToken then .unknownFlag else otherwise) token.text.length

/-- Flags to turn on, from the first letter on, and the token that ends them. -/
def readFlagsOn : Nat → Char → Flags → Read (Flags × Char)
  | 0, c, flags => return (flags, c)
  | n + 1, c, flags => do
    if c = 'L' then fault .localeFlag
    let flags := flags.union ((flagOf? c).getD {})
    if flags.ascii && flags.unicode then fault .clashingClassFlags
    match ← take? with
    | none => fault .missingFlagEnd
    | some (.plain d) =>
      if d = ')' ∨ d = '-' ∨ d = ':' then return (flags, d)
      else if isFlag d then readFlagsOn n d flags
      else
        noFlag (.plain d) .missingFlagEnd
        return (flags, d)
    | some token =>
      noFlag token .missingFlagEnd
      return (flags, c)

/-- Flags to turn off, from the first letter on, up to the colon. -/
def readFlagsOff : Nat → Char → Flags → Read Flags
  | 0, _, flags => return flags
  | n + 1, c, flags => do
    if c = 'L' ∨ c = 'a' ∨ c = 'u' then fault .classFlagOff
    let flags := flags.union ((flagOf? c).getD {})
    match ← take? with
    | none => fault .missingColon
    | some (.plain d) =>
      if d = ':' then return flags
      else if isFlag d then readFlagsOff n d flags
      else
        noFlag (.plain d) .missingColon
        return flags
    | some token =>
      noFlag token .missingColon
      return flags

/-- The flags of a group, after its first flag letter or dash: those to add and those to drop.
There is no result for flags of the whole expression, which are set at once. -/
def readFlags (c : Char) : Read (Option (Flags × Flags)) := do
  let count ← remaining
  let (add, last) ← if c = '-' then pure ({}, c) else readFlagsOn count c {}
  if last = ')' then
    modify fun state => { state with flags := state.flags.union add }
    return none
  if add.template then fault .globalFlagOn 1
  if last = '-' then
    match ← take? with
    | none => fault .missingFlag
    | some (.plain d) =>
      if !isFlag d then noFlag (.plain d) .missingFlag
      let drop ← readFlagsOff count d {}
      if drop.template then fault .globalFlagOff 1
      if add.overlap drop then fault .flagOnAndOff 1
      return some (add, drop)
    | some token =>
      noFlag token .missingFlag
      return none
  else return some (add, {})

/-- A conditional may ask for groups with numbers below this one. -/
def groupLimit : Nat :=
  1073741823

/-- The group that a conditional asks for, by name or by number. -/
def readCondition : Read Nat := do
  let condition ← name ')' "group name"
  let text := String.ofList condition
  let back := condition.length + 1
  let index ←
    if isIdentifier condition then
      match (← get).names.lookup text with
      | some index => pure index
      | none => fault (.unknownName text) back
    else
      match readInteger 10 condition with
      | .ok (.ofNat 0) => fault .badGroupNumber back
      | .ok (.ofNat index) =>
        if groupLimit ≤ index then fault (.invalidReference index) back
        -- the group may come later, so its number is checked at the end
        let start := (← position) - back
        modify fun state =>
          if (state.references.lookup index).isSome then state
          else { state with references := state.references ++ [(index, start)] }
        pure index
      | _ => fault (.badName text) back
  checkLookBehind index
  return index

/-- A reference to a group by name. -/
def readNamedReference : Read Node := do
  let chars ← name ')' "group name"
  let text := String.ofList chars
  let back := chars.length + 1
  if !isIdentifier chars then fault (.badName text) back
  match (← get).names.lookup text with
  | none => fault (.unknownName text) back
  | some index =>
    if !(← isClosed index) then fault .openGroup back
    checkLookBehind index
    return .backref index

/-- Skips a comment, which begins at `start`. -/
def skipComment (start : Nat) : Nat → Read Unit
  | 0 => return
  | n + 1 => do
    if (← peek?).isNone then fault .unterminatedComment ((← position) - start)
    if (← take?) = some (.plain ')') then return
    skipComment start n

/-- Skips a comment of the verbose form, up to the end of the line. -/
def skipLine : Nat → Read Unit
  | 0 => return
  | n + 1 => do
    match ← take? with
    | none => return
    | some token => if token = .plain '\n' then return else skipLine n

/-- The first expressions that all alternatives have in common, and what is left of these. -/
def commonStart : Nat → List (List Node) → List Node × List (List Node)
  | 0, alternatives => ([], alternatives)
  | n + 1, alternatives =>
    match alternatives.head?.bind List.head? with
    | none => ([], alternatives)
    | some first =>
      if alternatives.all fun nodes => (nodes.head?.map (first.sameLeaf ·)).getD false then
        let (common, left) := commonStart n (alternatives.map List.tail)
        (first :: common, left)
      else ([], alternatives)

/-- The members of a set that covers what a single expression covers. -/
def setItemsOf? : List Node → Option (List SetItem)
  | [.one (.code code)] => some [.code code]
  | [.one (.set false items)] => some items
  | _ => none

/-- A choice between alternatives: what `commonStart` finds stands before it, and a choice between
single characters is a set. -/
def choice (alternatives : List (List Node)) : List Node :=
  let count := alternatives.flatten.length
  let (common, left) := commonStart count alternatives
  match left.mapM setItemsOf? with
  | some items => common ++ [.one (.set false (distinctItems items.flatten))]
  | none => common ++ [.oneOf (left.map .ofList)]

/-- What a group is, as its first tokens say. -/
inductive GroupHead where
  /-- Nothing more is to be read, and this part is the result. -/
  | done (pieces : List Piece)
  /-- A numbered group, which may have a name. -/
  | numbered (groupName : Option (List Char))
  /-- A group with flags to add and to drop. -/
  | flagged (add drop : Flags)
  /-- An atomic group. -/
  | atomic
  /-- A look-ahead. -/
  | ahead (negated : Bool)
  /-- A look-behind. -/
  | behind (negated : Bool)
  /-- A conditional. -/
  | conditional (index : Nat)
  /-- Flags for the whole expression. -/
  | global

/-- Reads the first tokens of a group, which begins at `start`. -/
def readGroupHead (start : Nat) : Read GroupHead := do
  if !(← accept '?') then return .numbered none
  match ← take? with
  | none => fault .unexpectedEnd
  | some token =>
    match token with
    | .plain 'P' =>
      if ← accept '<' then
        let chars ← name '>' "group name"
        if !isIdentifier chars then fault (.badName (String.ofList chars)) (chars.length + 1)
        return .numbered (some chars)
      else if ← accept '=' then
        return .done [.single (← readNamedReference)]
      else
        match ← take? with
        | none => fault .unexpectedEnd
        | some token =>
          fault (.unknownExtension (String.ofList ('?' :: 'P' :: token.text)))
            (token.text.length + 2)
    | .plain ':' => return .flagged {} {}
    | .plain '#' =>
      skipComment start (← remaining)
      return .done []
    | .plain '=' => return .ahead false
    | .plain '!' => return .ahead true
    | .plain '<' =>
      match ← take? with
      | none => fault .unexpectedEnd
      | some (.plain '=') => return .behind false
      | some (.plain '!') => return .behind true
      | some token =>
        fault (.unknownExtension (String.ofList ('?' :: '<' :: token.text)))
          (token.text.length + 2)
    | .plain '(' => return .conditional (← readCondition)
    | .plain '>' => return .atomic
    | .plain c =>
      if isFlag c || c == '-' then
        match ← readFlags c with
        | none => return .global
        | some (add, drop) => return .flagged add drop
      else fault (.unknownExtension (String.ofList ['?', c])) 2
    | .escape c => fault (.unknownExtension (String.ofList ['?', '\\', c])) 3

/-- A group has to be closed. -/
def closeParenthesis (start : Nat) : Read Unit := do
  if !(← accept ')') then fault .unterminatedGroup ((← position) - start)

/-- The blanks that the verbose form skips. -/
def isSkipped (c : Char) : Bool :=
  c == ' ' || (9 ≤ c.toNat && c.toNat ≤ 13)

mutual

/-- Reads alternatives up to a closing parenthesis or the end. Every step down takes a token, or
leads to one that does, so the budget `n` lasts for the whole source. -/
def readChoice (n : Nat) (verbose : Bool) (nested : Bool) : Read (List Node) :=
  match n with
  | 0 => return []
  | n + 1 => do
    let first ← readSequence n verbose (!nested) []
    let others ← readAlternatives n verbose nested
    if others.isEmpty then return first
    else return choice (first :: others)

/-- Reads the alternatives after the first one, as long as a bar comes. -/
def readAlternatives (n : Nat) (verbose : Bool) (nested : Bool) : Read (List (List Node)) :=
  match n with
  | 0 => return []
  | n + 1 => do
    if ← accept '|' then
      let state ← get
      -- flags at the start of the whole expression hold for its later alternatives
      let verbose := if nested then verbose else state.flags.verbose
      let next ← readSequence n verbose false []
      return next :: (← readAlternatives n verbose nested)
    else return []

/-- Reads parts up to a bar, a closing parenthesis or the end. Only at the start of the whole
expression flags for all of it may stand (`first`). -/
def readSequence (n : Nat) (verbose first : Bool) (pieces : List Piece) : Read (List Node) :=
  match n with
  | 0 => return pieces.flatMap Piece.nodes
  | n + 1 => do
    match ← peek? with
    | none | some (.plain '|') | some (.plain ')') => return pieces.flatMap Piece.nodes
    | some token =>
      skip
      match token with
      | .escape c =>
        let node ← readEscape c
        readSequence n verbose first (pieces ++ [.single node])
      | .plain c =>
        if verbose && isSkipped c then readSequence n verbose first pieces
        else if verbose && c == '#' then
          skipLine (← remaining)
          readSequence n verbose first pieces
        else
          match c with
          | '[' =>
            let node ← readSet
            readSequence n verbose first (pieces ++ [.single node])
          | '*' =>
            let pieces ← repeatLast (← position) 0 none pieces
            readSequence n verbose first pieces
          | '+' =>
            let pieces ← repeatLast (← position) 1 none pieces
            readSequence n verbose first pieces
          | '?' =>
            let pieces ← repeatLast (← position) 0 (some 1) pieces
            readSequence n verbose first pieces
          | '{' =>
            let start ← position
            match ← readBounds start with
            -- a brace without bounds behind it stands for itself
            | none => readSequence n verbose first (pieces ++ [.single (.one (.code c.toNat))])
            | some (min, max) =>
              let pieces ← repeatLast start min max pieces
              readSequence n verbose first pieces
          | '.' => readSequence n verbose first (pieces ++ [.single (.one .any)])
          | '^' => readSequence n verbose first (pieces ++ [.single (.anchor .lineStart)])
          | '$' => readSequence n verbose first (pieces ++ [.single (.anchor .lineEnd)])
          | '(' =>
            let start := (← position) - 1
            match ← readGroupHead start with
            | .global =>
              if !first || !pieces.isEmpty then
                fault .flagsNotAtStart ((← position) - start)
              -- the flags hold from here on, also for what counts as a blank
              let verbose := (← get).flags.verbose
              readSequence n verbose first pieces
            | head =>
              let group ← readGroup n verbose start head
              readSequence n verbose first (pieces ++ group)
          | c => readSequence n verbose first (pieces ++ [.single (.one (.code c.toNat))])

/-- Reads what a group holds, after its first tokens, which a `GroupHead` tells. -/
def readGroup (n : Nat) (verbose : Bool) (start : Nat) (head : GroupHead) : Read (List Piece) :=
  match n with
  | 0 => return []
  | n + 1 => do
    match head with
    | .done pieces => return pieces
    | .global => return []
    | .numbered groupName =>
      let index ← openGroup groupName
      let nodes ← readChoice n verbose true
      closeParenthesis start
      closeGroup index (.ofList nodes)
      return [.single (.group index (.ofList nodes))]
    | .flagged add drop =>
      let nodes ← readChoice n ((verbose || add.verbose) && !drop.verbose) true
      closeParenthesis start
      if add = {} ∧ drop = {} then return [.bare nodes]
      else return [.single (.scope add drop (.ofList nodes))]
    | .atomic =>
      let nodes ← readChoice n verbose true
      closeParenthesis start
      return [.single (.atomic (.ofList nodes))]
    | .ahead negated =>
      let nodes ← readChoice n verbose true
      closeParenthesis start
      if negated && nodes.isEmpty then return [.single .fail]
      else return [.single (.lookAhead negated (.ofList nodes))]
    | .behind negated =>
      -- only the outermost look-behind decides which groups are its own
      let outer := (← get).lookBehindGroups
      modify fun state =>
        { state with lookBehindGroups := some (outer.getD state.groups.size) }
      let nodes ← readChoice n verbose true
      modify fun state => { state with lookBehindGroups := outer }
      closeParenthesis start
      if negated && nodes.isEmpty then return [.single .fail]
      else return [.single (.lookBehind negated (.ofList nodes))]
    | .conditional index =>
      let yes ← readSequence n verbose false []
      let no ←
        if ← accept '|' then
          let no ← readSequence n verbose false []
          if (← peek?) = some (.plain '|') then fault .conditionalBranches
          pure no
        else pure []
      closeParenthesis start
      return [.single (.ifGroup index (.ofList yes) (.ofList no))]

end

/-- The first part of an expression that cannot be used: a look-behind of varying width, or a
repetition where the template flag refuses it. -/
def Node.unusable? (groups : Nat → Width) (flags : Flags) : Node → Option Problem
  | .empty | .fail | .one _ | .anchor _ | .backref _ => none
  | .seq first rest => (first.unusable? groups flags).or (rest.unusable? groups flags)
  | .alt left right => (left.unusable? groups flags).or (right.unusable? groups flags)
  | .loop greed _ _ body =>
    if flags.template then
      some <| .templateRepeat <|
        match greed with
        | .greedy => "MAX_REPEAT"
        | .reluctant => "MIN_REPEAT"
        | .possessive => "POSSESSIVE_REPEAT"
    else body.unusable? groups flags
  | .group _ body | .atomic body | .lookAhead _ body => body.unusable? groups flags
  | .scope add drop body => body.unusable? groups (flags.enter add drop)
  | .lookBehind _ body =>
    if (body.width groups).isFixed then body.unusable? groups flags
    else some .variableLookBehind
  | .ifGroup _ yes no => (yes.unusable? groups flags).or (no.unusable? groups flags)

/-- The conditionals refer to groups that exist. -/
def checkReferences : Read Unit := do
  let state ← get
  match state.references.find? fun r => state.groups.size ≤ r.1 with
  | some (index, position) => throw (.malformed ⟨.invalidReference index, some position⟩)
  | none => return

/-- Reads a whole expression, and the flags and widths that go with it, once `checkReferences` and
`Node.unusable?` have found nothing wrong. -/
def readAll (length : Nat) : Read (Node × Flags × List Width) := do
  let nodes ← readChoice (4 * length + 8) false false
  let flags := (← get).flags
  if flags.ascii && flags.unicode then throw .clashingFlags
  -- without a choice the classes are those of Unicode
  let flags := if flags.ascii then flags else { flags with unicode := true }
  if (← peek?).isSome then fault .unbalanced
  checkReferences
  let node := Node.ofList nodes
  match node.unusable? (← widths) flags with
  | some problem => throw (.malformed ⟨problem, none⟩)
  | none =>
    let groups := (← get).groups.toList.map (·.getD ⟨0, 0⟩)
    return (node, flags, groups)

end TreeSift.Regex
