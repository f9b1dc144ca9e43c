import TreeSift.Text.Digits
import TreeSift.Yaml.Chars
import TreeSift.Yaml.Refusal

/-! # Scalars in YAML texts

The three ways to write a scalar: between quotes (`quotedScalar`), without any mark (`plainScalar`),
and as an indented block of lines (`blockScalar`). Line breaks inside of a scalar are folded: a
single one becomes a space, and of several ones the first is dropped. -/

namespace TreeSift.Yaml

open TreeSift.Text (isHexDigit digitsValue)

/-- What has been read, and the text that is left. -/
abbrev Reading (α : Type) := Except Refusal (α × List Char)

/-- What becomes of a line break and the breaks of the empty lines after it. -/
def foldBreaks (first : Char) (others : List Char) : List Char :=
  if first ≠ '\n' then first :: others
  else if others.isEmpty then [' ']
  else others

/-! ## Quoted scalars -/

/-- The breaks of the empty lines that come next inside quotes, up to the first character that is
no gap. A document mark may not come here. -/
def emptyLines : Nat → List Char → Reading (List Char)
  | 0, rest => .ok ([], rest)
  | fuel + 1, rest =>
    if atDocumentMark rest then .error .malformed
    else
      let rest := rest.dropWhile isGap
      match takeBreak? rest with
      | none => .ok ([], rest)
      | some (c, rest) => (emptyLines fuel rest).map fun (cs, left) => (c :: cs, left)

/-- The character that a letter stands for after a backslash. -/
def namedEscape? : Char → Option Char
  | '0' => some '\x00'
  | 'a' => some '\x07'
  | 'b' => some '\x08'
  | 't' => some '\t'
  | '\t' => some '\t'
  | 'n' => some '\n'
  | 'v' => some '\x0b'
  | 'f' => some '\x0c'
  | 'r' => some '\r'
  | 'e' => some '\x1b'
  | ' ' => some ' '
  | '"' => some '"'
  | '\\' => some '\\'
  | '/' => some '/'
  | 'N' => some '\x85'
  | '_' => some '\xa0'
  | 'L' => some '\u2028'
  | 'P' => some '\u2029'
  | _ => none

/-- How many hexadecimal digits follow a letter after a backslash. -/
def codeWidth? : Char → Option Nat
  | 'x' => some 2
  | 'u' => some 4
  | 'U' => some 8
  | _ => none

/-- The character that a number of hexadecimal digits gives. As in `Json.unitChar`, `U+FFFD` stands for
half a surrogate pair, which a `String` cannot hold. -/
def codeEscape (width : Nat) (text : List Char) : Reading (List Char) :=
  let digits := text.take width
  let code := digitsValue 16 digits
  if digits.length < width || !digits.all isHexDigit then .error .malformed
  else if 0x10ffff < code then .error (.codePoint code)
  else if 0xd800 ≤ code && code ≤ 0xdfff then .ok (['\ufffd'], text.drop width)
  else .ok ([Char.ofNat code], text.drop width)

/-- What stands for a backslash and the text after it. A backslash at the end of a line hides the
line break. -/
def quotedEscape (fuel : Nat) (text : List Char) : Reading (List Char) :=
  match text with
  | [] => .error .malformed
  | c :: rest =>
    match namedEscape? c, codeWidth? c with
    | some d, _ => .ok ([d], rest)
    | none, some width => codeEscape width rest
    | none, none =>
      match takeBreak? text with
      | some (_, rest) => emptyLines fuel rest
      | none => .error .malformed

/-- What stands for gaps and line breaks inside quotes. -/
def quotedGap (fuel : Nat) (text : List Char) : Reading (List Char) :=
  let gap := text.takeWhile isGap
  let rest := text.dropWhile isGap
  match rest, takeBreak? rest with
  | [], _ => .error .malformed
  | _, none => .ok (gap, rest)
  | _, some (c, rest) =>
    (emptyLines fuel rest).map fun (cs, left) => (foldBreaks c cs, left)

/-- The content of a scalar between quotes, and the text after the closing quote. Each step takes at
least one character; `quotedEscape` and `quotedGap` read what does not stand for itself. -/
def quotedScalar (double : Bool) : Nat → List Char → Reading (List Char)
  | 0, _ => .error .malformed
  | fuel + 1, text =>
    let goOn (piece : List Char) (rest : List Char) : Reading (List Char) :=
      (quotedScalar double fuel rest).map fun (cs, left) => (piece ++ cs, left)
    match text with
    | [] => .error .malformed
    | c :: rest =>
      if isGap c || isBreak c then
        match quotedGap fuel text with
        | .ok (piece, rest) => goOn piece rest
        | .error refusal => .error refusal
      else if double then
        if c = '"' then .ok ([], rest)
        else if c = '\\' then
          match quotedEscape fuel rest with
          | .ok (piece, rest) => goOn piece rest
          | .error refusal => .error refusal
        else goOn [c] rest
      else if c = '\'' then
        match rest with
        | '\'' :: rest => goOn ['\''] rest
        | _ => .ok ([], rest)
      else goOn [c] rest

/-! ## Plain scalars -/

/-- Whether a run of characters of a plain scalar ends before a character: at a gap or a line
break, at a colon that separates key and value, and between brackets at an indicator. -/
def endsRun (inFlow : Bool) (c : Char) (rest : List Char) : Bool :=
  isGap c || isBreak c ||
    (c == ':' && (atBlank rest || (inFlow && rest.head?.any flowIndicators.contains))) ||
    (inFlow && (c == '?' || flowIndicators.contains c))

/-- A run of characters of a plain scalar, up to where `endsRun` says. -/
def plainRun (inFlow : Bool) : List Char → List Char × List Char
  | [] => ([], [])
  | c :: rest =>
    if endsRun inFlow c rest then ([], c :: rest)
    else
      let (run, left) := plainRun inFlow rest
      (c :: run, left)

/-- What lies between two runs of a plain scalar. -/
structure PlainGap where
  /-- What it stands for; nothing if the scalar ends here. -/
  content : List Char
  /-- The text after it. -/
  rest : List Char
  /-- Whether it holds a line break. -/
  newLine : Bool
  /-- The number of spaces since the last line break. -/
  column : Nat

/-- The breaks of the empty lines that come next between two runs, the text after them, and the
number of spaces before that text. There is nothing if a document mark comes. -/
def plainLines : Nat → List Char → Option (List Char) × List Char × Nat
  | 0, rest => (some [], rest, 0)
  | fuel + 1, text =>
    if atDocumentMark text then (none, text, 0)
    else
      let rest := text.dropWhile (· == ' ')
      match takeBreak? rest with
      | none => (some [], rest, text.length - rest.length)
      | some (c, rest) =>
        let (breaks?, left, column) := plainLines fuel rest
        (breaks?.map (c :: ·), left, column)

/-- What lies between a run of a plain scalar and the text after it, with the breaks of
`plainLines`. -/
def plainGap (fuel : Nat) (text : List Char) : PlainGap :=
  let spaces := text.takeWhile (· == ' ')
  let rest := text.dropWhile (· == ' ')
  match takeBreak? rest with
  | none => ⟨spaces, rest, false, 0⟩
  | some (c, rest) =>
    let (breaks?, rest, column) := plainLines fuel rest
    ⟨(breaks?.map (foldBreaks c)).getD [], rest, true, column⟩

/-- A plain scalar: its content, the text after it and after the gap that follows it, and whether
that gap holds a line break. Outside of brackets the scalar goes on in lines that are indented by
at least `indent` columns. -/
structure PlainScalar where
  /-- The content. -/
  content : List Char
  /-- The text after it. -/
  rest : List Char
  /-- Whether a line break lies before that text. -/
  newLine : Bool

/-- The plain scalar that starts here, if its first run is not empty: runs by `plainRun` and gaps by
`plainGap`, in turn. -/
def plainScalar (inFlow : Bool) (indent : Nat) : Nat → List Char → Option PlainScalar
  | 0, _ => none
  | fuel + 1, text =>
    match text.head?, plainRun inFlow text with
    | some '#', _ => none
    | _, ([], _) => none
    | _, (run, rest) =>
      let gap := plainGap fuel rest
      -- the scalar ends at a comment, before a document mark, and where a line is not indented
      let ends := gap.content.isEmpty || gap.rest.head? == some '#' ||
        (!inFlow && gap.newLine && decide (gap.column < indent))
      let last : PlainScalar := ⟨run, gap.rest, gap.newLine⟩
      if ends then some last
      else
        match plainScalar inFlow indent fuel gap.rest with
        | none => some last
        | some more => some { more with content := run ++ gap.content ++ more.content }

/-! ## Block scalars -/

/-- What is kept of the line breaks at the end of a block. -/
inductive Chomping where
  /-- One line break. -/
  | clip
  /-- None. -/
  | strip
  /-- All. -/
  | keep
  deriving DecidableEq, Repr

/-- The mark of a chomping. -/
def chompingMark? : Char → Option Chomping
  | '+' => some .keep
  | '-' => some .strip
  | _ => none

/-- How a block scalar is read, as `blockHeader` says. -/
structure BlockHeader where
  /-- What is kept at the end. -/
  chomping : Chomping
  /-- How much deeper the block is indented than what it belongs to, if this is given. -/
  indentation? : Option Nat

/-- A digit of an indentation, which is not zero. -/
def indentationDigit? (c : Char) : Option Nat :=
  if c.isDigit then some (c.toNat - '0'.toNat) else none

/-- The marks after the indicator of a block scalar, in either order. -/
def blockHeader (text : List Char) : Reading BlockHeader :=
  let result (chomping : Chomping) (indentation? : Option Nat) (rest : List Char) :
      Reading BlockHeader :=
    if indentation? = some 0 || !atSpace rest then .error .malformed
    else .ok (⟨chomping, indentation?⟩, rest)
  match text with
  | [] => result .clip none []
  | c :: rest =>
    match chompingMark? c, indentationDigit? c with
    | some chomping, _ =>
      match rest with
      | [] => result chomping none []
      | d :: rest' =>
        match indentationDigit? d with
        | some n => result chomping (some n) rest'
        | none => result chomping none rest
    | none, some n =>
      match rest with
      | [] => result .clip (some n) []
      | d :: rest' =>
        match chompingMark? d with
        | some chomping => result chomping (some n) rest'
        | none => result .clip (some n) rest
    | none, none => result .clip none text

/-- The text after the rest of a line that holds nothing but a comment. -/
def dropEmptyLine (text : List Char) : Except Refusal (List Char) :=
  let rest := text.dropWhile (· == ' ')
  let rest := if rest.head? = some '#' then dropLine rest else rest
  match rest, takeBreak? rest with
  | [], _ => .ok []
  | _, some (_, rest) => .ok rest
  | _, none => .error .malformed

/-- Where a line of a block starts: the breaks of the empty lines before it, the number of spaces
that have been taken off it, and the text from there on. -/
structure BlockLine where
  /-- The line breaks before it. -/
  breaks : List Char
  /-- The number of spaces taken off. -/
  column : Nat
  /-- The text after them. -/
  rest : List Char

/-- The next line of a block that is indented by `indent` columns. -/
def blockLine (indent : Nat) : Nat → List Char → BlockLine
  | 0, text => ⟨[], 0, text⟩
  | fuel + 1, text =>
    let column := ((text.take indent).takeWhile (· == ' ')).length
    let rest := text.drop column
    match takeBreak? rest with
    | none => ⟨[], column, rest⟩
    | some (c, rest) =>
      let line := blockLine indent fuel rest
      { line with breaks := c :: line.breaks }

/-- The first line of a block that has characters beside spaces, and the greatest number of spaces
up to there, from which `blockScalar` takes its indentation. -/
def firstBlockLine : Nat → Nat → List Char → Nat × BlockLine
  | 0, deepest, text => (deepest, ⟨[], 0, text⟩)
  | fuel + 1, deepest, text =>
    let rest := text.dropWhile (· == ' ')
    let column := text.length - rest.length
    let deepest := max deepest column
    match takeBreak? rest with
    | none => (deepest, ⟨[], column, rest⟩)
    | some (c, rest) =>
      let (deepest, line) := firstBlockLine fuel deepest rest
      (deepest, { line with breaks := c :: line.breaks })

/-- What a block ends with: the break of its last line and the breaks after it. -/
def blockEnd (chomping : Chomping) (break? : Option Char) (others : List Char) : List Char :=
  match chomping with
  | .strip => []
  | .clip => break?.toList
  | .keep => break?.toList ++ others

/-- What stands for the break between two lines of a block. In a folded block a single break
between two lines that start with a character becomes a space. -/
def blockBreak (folded : Bool) (break? : Option Char) (indented : Bool) (next : BlockLine) :
    List Char :=
  if folded && break? == some '\n' && !indented && !next.rest.head?.any isGap then
    if next.breaks.isEmpty then [' '] else []
  else break?.toList

/-- The lines of a block from a line on, with `blockBreak` between two of them and `blockEnd` after
the last one. -/
def blockLines (folded : Bool) (chomping : Chomping) (indent : Nat) :
    Nat → Option Char → BlockLine → List Char × List Char
  | 0, _, line => ([], line.rest)
  | fuel + 1, break?, line =>
    if line.column = indent && !line.rest.isEmpty then
      let indented := line.rest.head?.any isGap
      let content := line.rest.takeWhile fun c => !isBreak c
      let (break?, rest) :=
        match takeBreak? (dropLine line.rest) with
        | some (c, rest) => (some c, rest)
        | none => (none, [])
      let next := blockLine indent fuel rest
      -- whether the break stays depends on the line behind it
      let (more, left) := blockLines folded chomping indent fuel break? next
      let between :=
        if next.column = indent && !next.rest.isEmpty then blockBreak folded break? indented next
        else []
      (line.breaks ++ content ++ between ++ more, left)
    else (blockEnd chomping break? line.breaks, line.rest)

/-- **The block scalar whose indicator has been read**, of at least the given indentation: its
`blockHeader`, and its `blockLines`. -/
def blockScalar (folded : Bool) (least : Nat) (text : List Char) :
    Except Refusal (List Char × List Char) := do
  let (header, rest) ← blockHeader text
  let rest ← dropEmptyLine rest
  let fuel := rest.length + 1
  let (indent, line) :=
    match header.indentation? with
    | some n => (least + n - 1, blockLine (least + n - 1) fuel rest)
    | none =>
      -- the first lines tell how deep the block is indented
      let (deepest, line) := firstBlockLine fuel 0 rest
      (max least deepest, line)
  return blockLines folded header.chomping indent fuel none line

end TreeSift.Yaml
