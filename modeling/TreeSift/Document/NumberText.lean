import TreeSift.Document.Binary64
import TreeSift.Text.Integer

/-! # Floating-point numbers in text

`Binary64.read?` reads a number as it is written: with blanks around it and a sign, in decimal digits
of any script with a point and an exponent, or as one of the words `inf`, `infinity` and `nan`. -/

namespace TreeSift.Document.Binary64

open TreeSift.Text (decimalValue? isIntegerBlank)

/-- A text without the blanks around it, those of `isIntegerBlank`. -/
def trimBlanks (text : List Char) : List Char :=
  ((text.dropWhile isIntegerBlank).reverse.dropWhile isIntegerBlank).reverse

/-- A sign and the text after it, for `read?` and `readPower?`. A text without a sign is positive.
-/
def splitSign : List Char → Bool × List Char
  | '-' :: rest => (true, rest)
  | '+' :: rest => (false, rest)
  | text => (false, text)

/-- Whether a character is a decimal digit of some script, one with a `decimalValue?`. -/
def isDigit (c : Char) : Bool :=
  (decimalValue? c).isSome

/-- The number that decimal digits of any script write, by their `decimalValue?`. -/
def digitsNumber (digits : List Char) : Nat :=
  digits.foldl (fun n c => n * 10 + (decimalValue? c).getD 0) 0

/-- The power of ten after the digits of a number: none, or an `e` and digits with a sign. -/
def readPower? : List Char → Option Int
  | [] => some 0
  | c :: rest =>
    let (negative, digits) := splitSign rest
    if (c = 'e' ∨ c = 'E') ∧ digits ≠ [] ∧ digits.all isDigit then
      let power := Int.ofNat (digitsNumber digits)
      some (if negative then -power else power)
    else none

/-- The number that digits with a point and a power of ten write, rounded by `ofDecimal`. There is a
digit on one side of the point at least. -/
def readDecimal? (negative : Bool) (text : List Char) : Option Binary64 := do
  let whole := text.takeWhile isDigit
  let (fraction, rest) :=
    match text.dropWhile isDigit with
    | '.' :: rest => (rest.takeWhile isDigit, rest.dropWhile isDigit)
    | rest => ([], rest)
  if whole.isEmpty && fraction.isEmpty then none
  let power ← readPower? rest
  return ofDecimal negative (digitsNumber (whole ++ fraction)) (power - fraction.length)

/-- **The number that a text writes**: a word, or else what `readDecimal?` finds behind the sign. -/
def read? (text : List Char) : Option Binary64 :=
  let (negative, unsigned) := splitSign (trimBlanks text)
  let word := String.ofList (unsigned.map Char.toLower)
  if word = "inf" ∨ word = "infinity" then some (.infinite negative)
  else if word = "nan" then some .nan
  else readDecimal? negative unsigned

end TreeSift.Document.Binary64
