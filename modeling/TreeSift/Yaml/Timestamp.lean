import TreeSift.Document.Timestamp
import TreeSift.Yaml.Chars

/-! # Reading dates and times

`readTimestamp?` reads a date with a year of four digits and a month and a day of one or two, alone or
with a time after a `T` or after blanks. The time may have a fraction of a second and a zone, which is
`Z` or an offset in hours and minutes.

Which texts are taken for timestamps without a tag is a narrower matter: see `Tag.isTimestamp`. -/

namespace TreeSift.Yaml

open TreeSift.Document (Day TimeOfDay Timestamp)
open TreeSift.Text (digitsValue)

/-- A number of `least` to `most` digits, and the text after it. -/
def takeNumber? (least most : Nat) (text : List Char) : Option (Nat × List Char) :=
  let digits := (text.takeWhile Char.isDigit).take most
  if digits.length < least then none else some (digitsValue 10 digits, text.drop digits.length)

/-- The text after a given character. -/
def takeChar? (c : Char) : List Char → Option (List Char)
  | d :: rest => if c = d then some rest else none
  | [] => none

/-- The millionths that the digits behind a point write. Further digits do not count. -/
def microsOf (digits : List Char) : Nat :=
  let kept := digits.take 6
  digitsValue 10 kept * Nat.pow 10 (6 - kept.length)

/-- The offset at the end of a timestamp: none at all, `Z` for universal time, or a sign with hours,
to which minutes may be added behind a colon. -/
def readOffset? (text : List Char) : Option (Option Int) :=
  match text.dropWhile isGap with
  | [] => if text.isEmpty then some none else none
  | ['Z'] => some (some 0)
  | sign :: rest => do
    if sign ≠ '+' ∧ sign ≠ '-' then none
    let (hours, rest) ← takeNumber? 1 2 rest
    let (minutes, rest) ←
      match rest with
      | ':' :: rest => takeNumber? 2 2 rest
      | rest => some (0, rest)
    if rest ≠ [] then none
    let offset := Int.ofNat (60 * hours + minutes)
    return some (if sign = '-' then -offset else offset)

/-- The time of day at the end of a timestamp. -/
def readTime? (text : List Char) : Option TimeOfDay := do
  let (hour, rest) ← takeNumber? 1 2 text
  let (minute, rest) ← takeNumber? 2 2 (← takeChar? ':' rest)
  let (second, rest) ← takeNumber? 2 2 (← takeChar? ':' rest)
  let (fraction, rest) :=
    match rest with
    | '.' :: rest => (rest.takeWhile Char.isDigit, rest.dropWhile Char.isDigit)
    | rest => ([], rest)
  return ⟨hour, minute, second, microsOf fraction, ← readOffset? rest⟩

/-- **The timestamp that a text writes**, with the time of `readTime?` if there is more than a date.
Its numbers may be out of their ranges. -/
def readTimestamp? (text : List Char) : Option Timestamp := do
  let (year, rest) ← takeNumber? 4 4 text
  let (month, rest) ← takeNumber? 1 2 (← takeChar? '-' rest)
  let (day, rest) ← takeNumber? 1 2 (← takeChar? '-' rest)
  let date : Day := ⟨year, month, day⟩
  match rest with
  | [] => return ⟨date, none⟩
  | c :: time =>
    if c = 'T' ∨ c = 't' then return ⟨date, some (← readTime? time)⟩
    else if isGap c then return ⟨date, some (← readTime? (time.dropWhile isGap))⟩
    else none

end TreeSift.Yaml
