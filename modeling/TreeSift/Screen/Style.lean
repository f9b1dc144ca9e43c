import TreeSift.Screen.ColorTable
import TreeSift.Text.Blank
import TreeSift.Text.Case
import TreeSift.Text.Integer
import TreeSift.Text.Split

/-! # Styles by their names

The name of a style says how text looks: `bold red on blue`. Several names can mean the same style;
`styleName` is the name that they have in common, by which the end of a style finds its
beginning. -/

namespace TreeSift.Screen

open TreeSift.Text (IntegerFault isHexDigit decimalValue? isBlank lowerChars readInteger splitWhere
  trim)

/-- **What a style says**: its looks and its colors, as `Style.ofDescription` reads them. -/
structure Style where
  /-- What it says about looks, the last one first. -/
  said : List (String × Bool) := []
  /-- The color. -/
  color? : Option (List Char) := none
  /-- The color behind the text. -/
  background? : Option (List Char) := none
  /-- Where the text leads to. -/
  link? : Option (List Char) := none

/-- Why a name is the name of no style, for `styleName`. -/
inductive StyleFault where
  /-- A word says nothing about a style. -/
  | unknown
  /-- A part of a color is no integer. -/
  | number (text : List Char) (fault : IntegerFault)

/-! ## Looks -/

/-- The names of the looks that a style can have, each with its short form, in the order in which a
style names them. -/
def looks : List (String × Option String) :=
  [("bold", some "b"), ("dim", some "d"), ("italic", some "i"), ("underline", some "u"),
    ("blink", none), ("blink2", none), ("reverse", some "r"), ("conceal", some "c"),
    ("strike", some "s"), ("underline2", some "uu"), ("frame", none), ("encircle", none),
    ("overline", some "o")]

/-- The look with a name or short form, out of `looks`. -/
def lookNamed? (word : List Char) : Option String :=
  (looks.find? fun look => look.1.toList = word || look.2.any (·.toList = word)).map (·.1)

/-! ## Colors -/

/-- The greatest part of a color. -/
def colorLimit : Nat := 255

/-- The text between the brackets of a function. -/
def argumentOf? (function : String) (word : List Char) : Option (List Char) :=
  let start := (function ++ "(").toList
  if start.isPrefixOf word && word.getLast? = some ')' then
    some ((word.drop start.length).dropLast)
  else none

/-- Whether a word is a color by its number. -/
def isNumberedColor (word : List Char) : Bool :=
  match argumentOf? "color" word with
  | some digits =>
    1 ≤ digits.length && digits.length ≤ 3 && digits.all Char.isDigit &&
      Text.digitsValue 10 digits ≤ colorLimit
  | none => false

/-- Whether a word is a color by six hexadecimal digits. -/
def isHexColor : List Char → Bool
  | '#' :: digits => digits.length = 6 && digits.all isHexDigit
  | _ => false

/-- The integer that a part of a color writes. -/
def colorPart (text : List Char) : Except StyleFault Int :=
  (readInteger 10 text).mapError (.number text)

/-- Whether a word is a color by its three parts. What looks like one has to have integers, each a
`colorPart`. -/
def isMixedColor (word : List Char) : Except StyleFault Bool :=
  match argumentOf? "rgb" word with
  | none => .ok false
  | some text =>
    let parts := splitWhere (· == ',') text
    if parts.length = 3 && text.all fun c => c == ',' || (decimalValue? c).isSome then do
      let values ← parts.mapM colorPart
      return values.all (· ≤ colorLimit)
    else .ok false

/-- Whether a word names a color. -/
def isNamedColor (word : List Char) : Bool :=
  colorRows.any fun row => (splitWhere (· == ' ') row.toList).contains word

/-- The color that a word stands for, by its name: named, hexadecimal, numbered or mixed, or else
`StyleFault.unknown`. -/
def colorOf (word : List Char) : Except StyleFault (List Char) := do
  let name := lowerChars word
  if name = "default".toList || isNamedColor name || isHexColor name || isNumberedColor name then
    return name
  if ← isMixedColor name then return name
  throw .unknown

/-! ## Names -/

/-- What the words of a name say, after what has been said before them; `colorOf` reads what is no
look. -/
def Style.ofWords (style : Style) : List (List Char) → Except StyleFault Style
  | [] => .ok style
  | word :: rest =>
    let name := lowerChars word
    if name = "on".toList then
      match rest with
      | [] => .error .unknown
      | next :: rest => do
        Style.ofWords { style with background? := some (← colorOf next) } rest
    else if name = "not".toList then
      match rest with
      | [] => .error .unknown
      | next :: rest =>
        match lookNamed? next with
        | some look => Style.ofWords { style with said := (look, false) :: style.said } rest
        | none => .error .unknown
    else if name = "link".toList then
      match rest with
      | [] => .error .unknown
      | next :: rest => Style.ofWords { style with link? := some next } rest
    else
      match lookNamed? name with
      | some look => Style.ofWords { style with said := (look, true) :: style.said } rest
      | none => do Style.ofWords { style with color? := some (← colorOf word) } rest

/-- The words for a look that a style puts on or off. -/
def Style.lookWords (style : Style) (look : String) : List (List Char) :=
  match style.said.lookup look with
  | some true => [look.toList]
  | some false => ["not".toList, look.toList]
  | none => []

/-- The words of a style in their order. -/
def Style.words (style : Style) : List (List Char) :=
  (looks.flatMap fun look => style.lookWords look.1) ++ style.color?.toList ++
    (style.background?.toList.flatMap fun color => ["on".toList, color]) ++
    (style.link?.toList.flatMap fun link => ["link".toList, link])

/-- **The style that a text describes** word by word, by `Style.ofWords`. -/
def Style.ofDescription (text : List Char) : Except StyleFault Style :=
  Style.ofWords {} ((splitWhere isBlank text).filter (!·.isEmpty))

/-- **The name that all names of a style have in common**: the words of the style. What names no
style is only put into lower case. -/
def styleName (text : List Char) : Except StyleFault (List Char) :=
  match Style.ofDescription text with
  | .ok style => .ok (if style.words.isEmpty then "none".toList else [' '].intercalate style.words)
  | .error .unknown => .ok (lowerChars (trim text))
  | .error fault => .error fault

end TreeSift.Screen
