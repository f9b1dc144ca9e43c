/-! # Tags

A `Tag` says what kind of value a node has. `Tag.ofContent` finds the tag of a scalar by the form of
its text: `yes` and `Off` are truth values, `010` and `1:30` are integers, `~` is nothing, and what
has none of these forms is a text. -/

namespace TreeSift.Yaml

/-- **The kind of a node**, by which `Tag.scalarValue` and `Build.emptyOf?` know what to make of it.
-/
inductive Tag where
  /-- Nothing. -/
  | null
  /-- A truth value. -/
  | bool
  /-- An integer. -/
  | int
  /-- A floating-point number. -/
  | float
  /-- A date, or a date with a time. -/
  | timestamp
  /-- The key that merges mappings. -/
  | merge
  /-- The key of the value that stands for a mapping. -/
  | value
  /-- A text. -/
  | text
  /-- Bytes. -/
  | binary
  /-- A list. -/
  | list
  /-- A mapping. -/
  | mapping
  /-- A set, written as a mapping. -/
  | set
  /-- A list of pairs, each written as a mapping with one entry. -/
  | pairs
  /-- A mapping with an order, which is a list of pairs as well. -/
  | orderedMapping
  /-- Any other kind. -/
  | other (uri : String)
  deriving DecidableEq, Repr

namespace Tag

/-- What the names of the known tags start with. -/
def knownStart : String := "tag:yaml.org,2002:"

/-- The known tags by the rest of their names. -/
def knownNames : List (String × Tag) :=
  [("null", .null), ("bool", .bool), ("int", .int), ("float", .float), ("timestamp", .timestamp),
    ("merge", .merge), ("value", .value), ("str", .text), ("binary", .binary), ("seq", .list),
    ("map", .mapping), ("set", .set), ("pairs", .pairs), ("omap", .orderedMapping)]

/-- The tag of a name: one of `knownNames` behind `knownStart`, or an unknown one. -/
def ofUri (uri : String) : Tag :=
  match knownNames.find? fun entry => knownStart ++ entry.1 == uri with
  | some (_, tag) => tag
  | none => .other uri

/-- The short name of a tag. -/
def shortName (tag : Tag) : String :=
  match knownNames.find? fun entry => entry.2 == tag with
  | some (name, _) => "!!" ++ name
  | none => "!"

/-! ## Forms of scalars -/

/-- The words for truth values. -/
def boolWords : List (String × Bool) :=
  [("yes", true), ("Yes", true), ("YES", true), ("no", false), ("No", false), ("NO", false),
    ("true", true), ("True", true), ("TRUE", true), ("false", false), ("False", false),
    ("FALSE", false), ("on", true), ("On", true), ("ON", true), ("off", false), ("Off", false),
    ("OFF", false)]

/-- The words for nothing. -/
def nullWords : List String :=
  ["", "~", "null", "Null", "NULL"]

/-- A text without its sign. -/
def dropSign : List Char → List Char
  | '-' :: rest => rest
  | '+' :: rest => rest
  | cs => cs

/-- Whether a character is a decimal digit or an underscore. -/
def isDigitOrBar (c : Char) : Bool :=
  c.isDigit || c == '_'

/-- Whether a text has characters and all of them are of a class. -/
def allOf (p : Char → Bool) (cs : List Char) : Bool :=
  !cs.isEmpty && cs.all p

/-- Whether a text is a run of parts below sixty, each after a colon, up to an end that `p`
accepts. There is at least one part. -/
def sixties (p : List Char → Bool) : List Char → Bool
  | ':' :: a :: b :: rest =>
    (a.isDigit && (p (b :: rest) || sixties p (b :: rest))) ||
      ('0' ≤ a && a ≤ '5' && b.isDigit && (p rest || sixties p rest))
  | [':', a] => a.isDigit && p []
  | _ => false

/-- Whether a text has the form of an integer without its sign. -/
def isUnsignedInt : List Char → Bool
  | '0' :: 'b' :: rest => allOf (fun c => c == '0' || c == '1' || c == '_') rest
  | '0' :: 'x' :: rest =>
    allOf (fun c => c.isDigit || ('a' ≤ c && c ≤ 'f') || ('A' ≤ c && c ≤ 'F') || c == '_') rest
  | '0' :: rest => rest.all fun c => ('0' ≤ c && c ≤ '7') || c == '_'
  | c :: rest =>
    c.isDigit &&
      (let after := rest.dropWhile isDigitOrBar
       after.isEmpty || sixties List.isEmpty after)
  | [] => false

/-- Whether a text has the form of an integer. -/
def isInt (cs : List Char) : Bool :=
  isUnsignedInt (dropSign cs)

/-- Whether a text is an exponent with its sign, or empty. -/
def isExponent : List Char → Bool
  | [] => true
  | c :: sign :: digits =>
    (c == 'e' || c == 'E') && (sign == '-' || sign == '+') && allOf Char.isDigit digits
  | _ => false

/-- Whether a text has the form of a floating-point number. -/
def isFloat (cs : List Char) : Bool :=
  let unsigned := dropSign cs
  let signed := unsigned.length < cs.length
  match unsigned with
  | '.' :: rest =>
    unsigned == ".inf".toList || unsigned == ".Inf".toList || unsigned == ".INF".toList ||
      (!signed &&
        (unsigned == ".nan".toList || unsigned == ".NaN".toList || unsigned == ".NAN".toList ||
          ((rest.head?.any Char.isDigit) && isExponent (rest.dropWhile isDigitOrBar))))
  | c :: rest =>
    c.isDigit &&
      (match rest.dropWhile isDigitOrBar with
       | '.' :: fraction => isExponent (fraction.dropWhile isDigitOrBar)
       | after => sixties (fun t => t.head? == some '.' && (t.drop 1).all isDigitOrBar) after)
  | [] => false

/-- A text after one digit and an optional second one. -/
def dropOneOrTwo : List Char → Option (List Char)
  | a :: b :: rest => if a.isDigit then some (if b.isDigit then rest else b :: rest) else none
  | [a] => if a.isDigit then some [] else none
  | [] => none

/-- A text after two digits. -/
def dropTwo : List Char → Option (List Char)
  | a :: b :: rest => if a.isDigit && b.isDigit then some rest else none
  | _ => none

/-- A text after a given character. -/
def dropOnly (c : Char) : List Char → Option (List Char)
  | d :: rest => if c = d then some rest else none
  | [] => none

/-- Whether a text is a zone of a time, or empty. -/
def isZone (cs : List Char) : Bool :=
  match cs.dropWhile fun c => c == ' ' || c == '\t' with
  | [] => cs.isEmpty
  | ['Z'] => true
  | sign :: rest =>
    (sign == '-' || sign == '+') &&
      (match dropOneOrTwo rest with
       | none => false
       | some [] => true
       | some rest => ((dropOnly ':' rest).bind dropTwo) == some [])

/-- A text after a time of day without its fraction. -/
def dropTime (cs : List Char) : Option (List Char) := do
  let rest ← dropOneOrTwo cs
  let rest ← dropOnly ':' rest
  let rest ← dropTwo rest
  let rest ← dropOnly ':' rest
  dropTwo rest

/-- Whether a text is a time of day with a fraction and a zone, which may both be missing. -/
def isTime (cs : List Char) : Bool :=
  match dropTime cs with
  | none => false
  | some ('.' :: rest) => isZone (rest.dropWhile Char.isDigit)
  | some rest => isZone rest

/-- What follows a year. -/
def afterYear (cs : List Char) : Option (List Char) := do
  let rest ← dropTwo cs
  let rest ← dropTwo rest
  dropOnly '-' rest

/-- Whether a text is the end of a date in full: two digits each for month and day. -/
def isFullDay (cs : List Char) : Bool :=
  (do dropTwo (← dropOnly '-' (← dropTwo cs))) == some []

/-- What follows month and day, of one or two digits each. -/
def afterDay (cs : List Char) : Option (List Char) := do
  let rest ← dropOneOrTwo cs
  let rest ← dropOnly '-' rest
  dropOneOrTwo rest

/-- Whether a text has the form of a date, or of a date with a time. -/
def isTimestamp (cs : List Char) : Bool :=
  match afterYear cs with
  | none => false
  | some rest =>
    isFullDay rest ||
      (match afterDay rest with
       | some (c :: time) =>
         if c == 'T' || c == 't' then isTime time
         else (c == ' ' || c == '\t') && isTime (time.dropWhile fun d => d == ' ' || d == '\t')
       | _ => false)

/-- A text without a line feed at its end, unless this is all of it. -/
def withoutLastBreak (text : List Char) : List Char :=
  if text.getLast? = some '\n' ∧ text ≠ ['\n'] then text.dropLast else text

/-- The tag of the indicators that are scalars of a kind of their own, but have no values. -/
def indicator : Tag :=
  .other (knownStart ++ "yaml")

/-- **The tag of a scalar by its text.** A line feed at its end does not change the form that
`isInt`, `isFloat` and `isTimestamp` look for. -/
def ofContent (content : String) : Tag :=
  let cs := withoutLastBreak content.toList
  let word := String.ofList cs
  if (boolWords.lookup word).isSome then .bool
  else if nullWords.contains word then .null
  else if word == "<<" then .merge
  else if word == "=" then .value
  else if ["!", "&", "*"].contains word then indicator
  else if isFloat cs then .float
  else if isInt cs then .int
  else if isTimestamp cs then .timestamp
  else .text

end Tag

end TreeSift.Yaml
