import TreeSift.Literal.Basic
import TreeSift.Screen.Emoji
import TreeSift.Screen.Style
import TreeSift.Screen.StyledText
import TreeSift.Text.Quoted

/-! # Markup

A text can hold tags in square brackets, which say how it looks: `[bold]` begins a style, `[/bold]`
ends it, and `[/]` ends the style begun last. `StyledText.ofMarkup` is the text without its tags. A
closing tag without its opening one is a fault, and so are parameters of a handler that are no
literal. -/

namespace TreeSift.Screen

open TreeSift.Literal (LiteralFault)
open TreeSift.Text (IntegerFault isWordChar quoted trim)

/-! ## Tags -/

/-- A part of a text with markup, as `pieces` cuts it. -/
inductive Piece where
  /-- Text that is shown. -/
  | plain (text : List Char)
  /-- What stands between the brackets of a tag, which has a number of characters before it. -/
  | tag (position : Nat) (body : List Char)
  deriving DecidableEq, Repr

/-- Whether the body of a tag can begin with a character. -/
def startsTag (c : Char) : Bool :=
  ('a' ≤ c && c ≤ 'z') || c == '#' || c == '/' || c == '@'

/-- The text up to the next closing bracket, and what follows it, unless another bracket opens
first. -/
def upToClose? : List Char → Option (List Char × List Char)
  | [] => none
  | c :: cs =>
    if c = ']' then some ([], cs)
    else if c = '[' then none
    else (upToClose? cs).map fun parts => (c :: parts.1, parts.2)

/-- What follows the closing bracket is shorter than the text. -/
theorem upToClose?_length {cs body rest : List Char} (h : upToClose? cs = some (body, rest)) :
    rest.length < cs.length := by
  induction cs generalizing body with
  | nil => simp [upToClose?] at h
  | cons c cs ih =>
    unfold upToClose? at h
    split at h
    · simp only [Option.some.injEq, Prod.mk.injEq] at h
      simp [← h.2]
    · split at h
      · cases h
      · obtain ⟨parts, hparts, heq⟩ := Option.map_eq_some_iff.1 h
        simp only [Prod.mk.injEq] at heq
        have := ih (show upToClose? cs = some (parts.1, rest) by rw [hparts, ← heq.2])
        simp only [List.length_cons]
        omega

/-- The body of the tag that a text begins with, and what follows the tag: a bracket, a character
that `startsTag`, and more up to the next closing bracket. -/
def tagAt? : List Char → Option (List Char × List Char)
  | '[' :: c :: cs =>
    if startsTag c then (upToClose? cs).map fun parts => (c :: parts.1, parts.2) else none
  | _ => none

/-- What follows a tag is shorter than the text, so that `pieces` ends. -/
theorem tagAt?_length {cs body rest : List Char} (h : tagAt? cs = some (body, rest)) :
    rest.length < cs.length := by
  unfold tagAt? at h
  split at h
  · next c cs =>
    split at h
    · obtain ⟨parts, hparts, heq⟩ := Option.map_eq_some_iff.1 h
      simp only [Prod.mk.injEq] at heq
      have := upToClose?_length
        (show upToClose? cs = some (parts.1, rest) by rw [hparts, ← heq.2])
      simp only [List.length_cons]
      omega
    · cases h
  · cases h

/-- A plain piece, unless it is empty. -/
def plainPiece (text : List Char) : List Piece :=
  if text.isEmpty then [] else [.plain text]

/-- The backslashes at the start of a text. -/
def backslashes (cs : List Char) : List Char :=
  cs.takeWhile (· == '\\')

/-- A tag behind backslashes, which start in a position: two of them stand for one, and an odd one
makes the tag a `Piece.plain`. -/
def escapedTag (position escapes : Nat) (body : List Char) : List Piece :=
  plainPiece (List.replicate (escapes / 2) '\\') ++
    if escapes % 2 = 1 then [.plain ('[' :: body ++ [']'])] else [.tag (position + escapes) body]

/-- The pieces of a text from a position on; `before` is plain text in front of it. -/
def piecesFrom (position : Nat) (before : List Char) : List Char → List Piece
  | [] => plainPiece before
  | c :: cs =>
    let escapes := (backslashes (c :: cs)).length
    match _h : tagAt? ((c :: cs).drop escapes) with
    | some (body, rest) =>
      -- the backslashes in front of a tag belong to it
      let next := position + ((c :: cs).length - rest.length)
      plainPiece before ++ escapedTag position escapes body ++ piecesFrom next [] rest
    | none => piecesFrom (position + 1) (before ++ [c]) cs
termination_by cs => cs.length
decreasing_by
  · have := tagAt?_length _h
    simp only [List.length_drop] at this
    omega
  · simp

/-- **The pieces of a text with markup**: tags as `tagAt?` finds them, and the text between them. -/
def pieces (cs : List Char) : List Piece :=
  piecesFrom 0 [] cs

/-! ## Faults -/

/-- **Why a text with markup cannot be shown**: a tag ends what has not begun, or a style cannot be
drawn. -/
inductive MarkupFault where
  /-- A tag ends a style that has not begun. -/
  | notBegun (position : Nat) (body : List Char)
  /-- A tag ends a style when none has begun. -/
  | noneBegun (position : Nat)
  /-- The parameters of a handler, or a part of them, are no literal. -/
  | parameters (whole part : List Char) (fault : LiteralFault)
  /-- A part of a color is no integer. -/
  | number (text : List Char) (fault : IntegerFault)
  deriving DecidableEq, Repr

/-- The wording of a `MarkupFault`. -/
def MarkupFault.message : MarkupFault → String
  | .notBegun position body =>
    "closing tag '[" ++ String.ofList body ++ "]' at position " ++ toString position ++
      " doesn't match any open tag"
  | .noneBegun position =>
    "closing tag '[/]' at position " ++ toString position ++ " has nothing to close"
  | .parameters whole part (.expression fault) =>
    "error parsing " ++ quoted (String.ofList part) ++ " in " ++ quoted (String.ofList whole) ++
      "; " ++ fault.message
  | .parameters whole _ fault =>
    "error parsing " ++ quoted (String.ofList whole) ++ "; " ++ fault.message
  | .number text fault => fault.message 10 (String.ofList text)

/-! ## Tags -/

/-- A style that has begun, and has not been ended by `finish`. -/
structure BegunStyle where
  /-- The name that all names of the style have in common. -/
  name : List Char
  /-- The parameters, if there are any. -/
  parameters? : Option (List Char)
  /-- The number of characters shown before it. -/
  first : Nat

/-- Whether a style belongs to a handler. -/
def BegunStyle.isHandler (style : BegunStyle) : Bool :=
  style.name.head? = some '@'

/-- The words that describe a style: its name and its parameters. -/
def BegunStyle.description (style : BegunStyle) : List Char :=
  match style.parameters? with
  | some parameters => style.name ++ ' ' :: parameters
  | none => style.name

/-- What is known on the way through a text with markup: the text `shown`, the styles that have
begun, and the stretches of those that have ended. -/
structure Rendering where
  /-- What is shown, and the styles that have ended. -/
  shown : StyledText := ⟨[], []⟩
  /-- The styles that have begun and not ended, the last one first. -/
  begun : List BegunStyle := []

/-- The name and the parameters of a tag, which an equals sign parts. -/
def splitTag (body : List Char) : List Char × Option (List Char) :=
  match body.dropWhile (· ≠ '=') with
  | _ :: parameters => (body.takeWhile (· ≠ '='), some parameters)
  | [] => (body, none)

/-- The common name of a style, by `styleName`. -/
def commonName (name : List Char) : Except MarkupFault (List Char) :=
  match styleName name with
  | .ok name => .ok name
  | .error (.number text fault) => .error (.number text fault)
  | .error .unknown => .ok name

/-- The part of the parameters of a handler that has to be a literal: what follows the name of a
function, if the brackets behind it reach to the end, and otherwise all. -/
def literalPart? (parameters : List Char) : Option (List Char) :=
  match parameters.dropWhile fun c => isWordChar c || c == '.' with
  | [] => none
  | rest =>
    if rest.head? = some '(' && rest.getLast? = some ')' && !rest.contains '\n' then some rest
    else some parameters

/-- Checks the parameters of a style that ends, if it belongs to a handler: `literalPart?` of them
has to be a literal. -/
def checkParameters (style : BegunStyle) : Except MarkupFault Unit :=
  match style.isHandler, style.parameters? with
  | true, some whole =>
    match literalPart? (trim whole) with
    | none => .ok ()
    | some part =>
      match Literal.fault? part with
      | some fault => .error (.parameters whole part fault)
      | none => .ok ()
  | _, _ => .ok ()

namespace Rendering

/-- The stretch of a style that ends where the text `shown` ends. -/
def stretch (rendering : Rendering) (style : BegunStyle) : Stretch :=
  ⟨style.description, style.first, rendering.shown.text.length⟩

/-- Ends a style, given those that are left, with its `stretch`. A handler does not say how text
looks. -/
def finish (rendering : Rendering) (style : BegunStyle) (left : List BegunStyle) :
    Except MarkupFault Rendering := do
  checkParameters style
  let stretch := rendering.stretch style
  let stretch := if style.isHandler then { stretch with style := [] } else stretch
  return {
    shown := { rendering.shown with stretches := stretch :: rendering.shown.stretches }
    begun := left }

/-- Follows a tag that ends a style: the one with a name that has begun last, or the last one of
all. A name that has not begun is a `MarkupFault`. -/
def close (rendering : Rendering) (position : Nat) (body : List Char) :
    Except MarkupFault Rendering := do
  let name := trim ((splitTag body).1.drop 1)
  if name.isEmpty then
    match rendering.begun with
    | [] => throw (.noneBegun position)
    | style :: left => rendering.finish style left
  else
    let name ← commonName name
    match rendering.begun.find? fun style => style.name == name with
    | none => throw (.notBegun position body)
    | some style =>
      rendering.finish style (rendering.begun.eraseP fun style => style.name == name)

/-- Follows a tag that begins a style. -/
def start (rendering : Rendering) (body : List Char) : Except MarkupFault Rendering := do
  let (name, parameters?) := splitTag body
  let style : BegunStyle := ⟨← commonName name, parameters?, rendering.shown.text.length⟩
  return { rendering with begun := style :: rendering.begun }

/-- Ends all styles where the text ends. Stretches come in the order in which they begin; of those
that begin in one place, what has not ended comes first, and then what `finish` has ended last. -/
def finishAll (rendering : Rendering) : StyledText :=
  { rendering.shown with
    stretches :=
      (rendering.begun.reverse.map rendering.stretch ++ rendering.shown.stretches).mergeSort
        fun left right => left.first ≤ right.first }

end Rendering

/-! ## Text -/

/-- Whether a screen ignores a character: bells, backspaces, and moves that are no line feed. -/
def isIgnored (c : Char) : Bool :=
  c.toNat = 7 || c.toNat = 8 || c.toNat = 11 || c.toNat = 12 || c.toNat = 13

/-- A text in which a bracket stands for itself and the backslash before it. -/
def unescapeBrackets : List Char → List Char
  | '\\' :: '[' :: cs => '[' :: unescapeBrackets cs
  | c :: cs => c :: unescapeBrackets cs
  | [] => []

/-- What is shown of plain text: its emoji by `replaceEmoji`, without what `isIgnored`. -/
def shownText (text : List Char) : List Char :=
  (replaceEmoji (unescapeBrackets text)).filter (!isIgnored ·)

/-- Adds a piece to what is shown, by `start` or `close` if it is a tag. -/
def Rendering.add (rendering : Rendering) : Piece → Except MarkupFault Rendering
  | .plain text =>
    .ok { rendering with
      shown := { rendering.shown with text := rendering.shown.text ++ shownText text } }
  | .tag position body =>
    if body.head? = some '/' then rendering.close position body else rendering.start body

/-- **The text that markup writes**, with its styles: the `pieces` added one after the other, and
`finishAll` in the end. -/
def StyledText.ofMarkup (text : String) : Except MarkupFault StyledText := do
  return ((← (pieces text.toList).foldlM Rendering.add {}).finishAll)

/-- Checks that the styles of lines can be shown. A description of no style is shown as no style,
but one that would have to be a color cannot be shown. -/
def checkStyles (lines : List StyledText) : Except MarkupFault Unit :=
  (lines.flatMap (·.stretches)).forM fun stretch =>
    match Style.ofDescription stretch.style with
    | .error (.number text fault) => .error (.number text fault)
    | _ => .ok ()

end TreeSift.Screen
