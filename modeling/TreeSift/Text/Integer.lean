import TreeSift.Text.Blank
import TreeSift.Text.Digits
import TreeSift.Text.Quoted
import TreeSift.Text.Word

/-! # Integers in text

`readInteger` reads an integer in a base: with blanks around it and a sign, in digits of any script,
with single underscores between digits, and for the bases 2, 8 and 16 with the mark of the base in
front. `writeInteger` writes one in decimal. Decimal digits are limited in number both ways, so that
neither takes long. -/

namespace TreeSift.Text

/-- The most decimal digits of an integer that is read or written. -/
def digitLimit : Nat :=
  4300

/-- Why a text is no integer. -/
inductive IntegerFault where
  /-- It is not written like one. -/
  | malformed
  /-- It has too many decimal digits. -/
  | tooLong (digits : Nat)
  deriving DecidableEq, Repr

/-- What is said of integers beyond the limit, given what is known about them. -/
def tooLongMessage (known : String) : String :=
  "Exceeds the limit (" ++ toString digitLimit ++ " digits) for integer string conversion" ++
    known ++ "; use sys.set_int_max_str_digits() to increase the limit"

/-- What is said of an integer with too many digits. -/
def tooManyDigitsMessage (digits : Nat) : String :=
  tooLongMessage (": value has " ++ toString digits ++ " digits")

/-- The most characters of a text that is no integer, quotes included, that are shown. -/
def shownWidth : Nat := 200

/-- The wording for a text that is no integer in a base. -/
def IntegerFault.message (base : Nat) (text : String) : IntegerFault → String
  | .malformed =>
    "invalid literal for int() with base " ++ toString base ++ ": " ++
      String.ofList ((quoted text).toList.take shownWidth)
  | .tooLong digits => tooManyDigitsMessage digits

/-! ## Reading -/

/-- Whether a character may stand around an integer: a blank, but no information separator. -/
def isIntegerBlank (c : Char) : Bool :=
  isBlank c && !(0x1c ≤ c.toNat && c.toNat ≤ 0x1f)

/-- The value of a digit: a decimal digit of any script, or a letter for the digits above nine. -/
def digitValue? (c : Char) : Option Nat :=
  match decimalValue? c with
  | some d => some d
  | none => if isHexDigit c then some (hexValue c) else none

/-- Whether a character is a digit of a base. -/
def isDigitOf (base : Nat) (c : Char) : Bool :=
  (digitValue? c).any (· < base)

/-- The letter that marks a base after a zero. -/
def baseMark? : Nat → Option Char
  | 2 => some 'b'
  | 8 => some 'o'
  | 16 => some 'x'
  | _ => none

/-- A text without the mark of a base, which an underscore may follow. -/
def dropBaseMark (base : Nat) : List Char → List Char
  | '0' :: c :: cs =>
    if baseMark? base = some c.toLower then
      if cs.head? = some '_' then cs.tail else cs
    else '0' :: c :: cs
  | cs => cs

/-- Whether every underscore of a text stands between two digits, given that there is nothing else;
`afterDigit` says whether a digit comes before the text. -/
def separatesDigits (afterDigit : Bool) : List Char → Bool
  | [] => afterDigit
  | '_' :: cs => afterDigit && separatesDigits false cs
  | _ :: cs => separatesDigits true cs

/-- The number that digits of a base write, with underscores between them. -/
def digitsNumber (base : Nat) (digits : List Char) : Nat :=
  digits.foldl (fun n c => if c = '_' then n else n * base + (digitValue? c).getD 0) 0

/-- The number without a sign that a text writes. The digits are counted before what stands behind
them is looked at. -/
def readNatural (base : Nat) (text : List Char) : Except IntegerFault Nat :=
  let text := dropBaseMark base text
  let isInside (c : Char) : Bool := isDigitOf base c || c == '_'
  let digits := text.takeWhile isInside
  let count := (digits.filter (· != '_')).length
  if !separatesDigits false digits then .error .malformed
  else if base = 10 ∧ digitLimit < count then .error (.tooLong count)
  else if (text.dropWhile isInside).all isIntegerBlank then .ok (digitsNumber base digits)
  else .error .malformed

/-- **Reads the integer that a text writes in a base.** -/
def readInteger (base : Nat) (text : List Char) : Except IntegerFault Int :=
  match text.dropWhile isIntegerBlank with
  | '-' :: digits => (readNatural base digits).map fun n => -(n : Int)
  | '+' :: digits => (readNatural base digits).map Int.ofNat
  | digits => (readNatural base digits).map Int.ofNat

/-! ## Writing -/

/-- The wording for an integer that is too long to be written. -/
def unwritableMessage : String :=
  tooLongMessage ""

/-- Whether an integer is short enough to be written. -/
def isWritable (n : Int) : Bool :=
  n.natAbs < Nat.pow 10 digitLimit

end TreeSift.Text
