import TreeSift.Text.WordTable
import TreeSift.Text.IdentifierTable

/-! # Word, digit and identifier characters

Classes of characters over the tables of letters, digits, numerals and identifier characters. -/

namespace TreeSift.Text

/-- Whether a character is a letter. -/
def isLetter (c : Char) : Bool :=
  letters.contains c.toNat

/-- Whether a character is a decimal digit. -/
def isDecimalDigit (c : Char) : Bool :=
  decimalDigits.contains c.toNat

/-- The value of a decimal digit: the digits come in runs of ten from zero on. -/
def decimalValue? (c : Char) : Option Nat :=
  (decimalDigits.offset? c.toNat).map (· % 10)

/-- Whether a character belongs to words: a letter, a numeral or the underscore. -/
def isWordChar (c : Char) : Bool :=
  c == '_' || letters.contains c.toNat || decimalDigits.contains c.toNat ||
    numerals.contains c.toNat

/-- Whether a text is an identifier: an identifier starter and then identifier characters. -/
def isIdentifier : List Char → Bool
  | [] => false
  | c :: cs =>
    identifierStart.contains c.toNat && cs.all fun d => identifierContinue.contains d.toNat

end TreeSift.Text
