import TreeSift.Text.CharacterName.EastAsia
import TreeSift.Text.CharacterName.Further
import TreeSift.Text.CharacterName.LivingScripts
import TreeSift.Text.CharacterName.OldScripts
import TreeSift.Text.CharacterName.Pictures
import TreeSift.Text.CharacterName.Symbols
import TreeSift.Text.CodeRanges
import TreeSift.Text.Digits
import TreeSift.Text.Split

/-! # Characters by name

`characterNamed?` finds the character that has a name in Unicode 14. Most names stand in tables;
those of Hangul syllables are put together from the names of their letters, and those of ideographs
end with their code point. In the names from tables the case of letters does not matter. -/

namespace TreeSift.Text

/-- A word of a name. -/
abbrev NameWord := List Char

/-- The words of a name. -/
def nameWords (name : List Char) : List NameWord :=
  splitWhere (· == ' ') name

/-! ## Tables -/

/-- The words of a name in a table, given those of the name before it. -/
def sharedWords (previous : List NameWord) : List Char → List NameWord
  | [] => []
  | count :: text => previous.take (digitsValue 10 [count]) ++ nameWords text

/-- The code point of a name among names of consecutive code points, and the words of the name
looked at last. -/
def searchNames (wanted : List NameWord) (code : Nat) (previous : List NameWord) :
    List (List Char) → Option Nat × List NameWord
  | [] => (none, previous)
  | entry :: entries =>
    let words := sharedWords previous entry
    if words = wanted then (some code, words) else searchNames wanted (code + 1) words entries

/-- The code point of a name in the rows of a table. -/
def searchRows (wanted : List NameWord) (previous : List NameWord) : List String → Option Nat
  | [] => none
  | row :: rows =>
    let code := digitsValue 16 (row.toList.takeWhile (· ≠ ' '))
    let entries := splitWhere (· == ';') ((row.toList.dropWhile (· ≠ ' ')).drop 1)
    match searchNames wanted code previous entries with
    | (some found, _) => some found
    | (none, last) => searchRows wanted last rows

/-- The tables of names. -/
def nameTables : List (List String) :=
  [livingScriptNames, symbolNames, furtherNames, eastAsianNames, oldScriptNames, pictureNames]

/-! ## Ideographs -/

/-- The unified ideographs. -/
def unifiedIdeographs : CodeRanges :=
  ⟨[(0x3400, 0x4dbf), (0x4e00, 0x9fff), (0x20000, 0x2a6df), (0x2a700, 0x2b738),
    (0x2b740, 0x2b81d), (0x2b820, 0x2cea1), (0x2ceb0, 0x2ebe0), (0x30000, 0x3134a)]⟩

/-- What the names of unified ideographs start with. -/
def unifiedStart : List Char := "CJK UNIFIED IDEOGRAPH-".toList

/-- What the names of other characters start with that end with a code point. -/
def codedNames : List (List Char × CodeRanges) :=
  [("CJK COMPATIBILITY IDEOGRAPH-".toList,
      ⟨[(0xf900, 0xfa6d), (0xfa70, 0xfad9), (0x2f800, 0x2fa1d)]⟩),
    ("KHITAN SMALL SCRIPT CHARACTER-".toList, ⟨[(0x18b00, 0x18cd5)]⟩),
    ("NUSHU CHARACTER-".toList, ⟨[(0x1b170, 0x1b2fb)]⟩)]

/-- The code point that the end of a name writes in four or five digits, if it lies in a set. -/
def codeAtEnd? (codes : CodeRanges) (digits : List Char) : Option Nat :=
  let code := digitsValue 16 digits
  if (digits.length = 4 ∨ digits.length = 5) ∧
      digits.all (fun c => c.isDigit || ('A' ≤ c && c ≤ 'F')) ∧ codes.contains code then
    some code
  else none

/-- The character with a name that ends with its code point. -/
def codedCharacter? (name : List Char) : Option Nat :=
  codedNames.findSome? fun (start, codes) =>
    let digits := name.drop start.length
    if start.isPrefixOf name ∧ digits.head? ≠ some '0' then codeAtEnd? codes digits else none

/-! ## Hangul syllables -/

/-- What the names of Hangul syllables start with. -/
def syllableStart : List Char := "HANGUL SYLLABLE ".toList

/-- The names of the first letters of syllables. -/
def firstLetters : List String :=
  ["G", "GG", "N", "D", "DD", "R", "M", "B", "BB", "S", "SS", "", "J", "JJ", "C", "K", "T", "P",
    "H"]

/-- The names of the vowels of syllables. -/
def vowels : List String :=
  ["A", "AE", "YA", "YAE", "EO", "E", "YEO", "YE", "O", "WA", "WAE", "OE", "YO", "U", "WEO", "WE",
    "WI", "YU", "EU", "YI", "I"]

/-- The names of the last letters of syllables. -/
def lastLetters : List String :=
  ["", "G", "GG", "GS", "N", "NJ", "NH", "D", "L", "LG", "LM", "LB", "LS", "LT", "LP", "LH", "M",
    "B", "BS", "S", "SS", "NG", "J", "C", "K", "T", "P", "H"]

/-- The longest of some letters that a text begins with, by its place, and the rest of the text. -/
def longestLetter? (letters : List String) (text : List Char) : Option (Nat × List Char) :=
  let found := letters.zipIdx.filter fun letter => letter.1.toList.isPrefixOf text
  (found.foldl (fun best letter =>
    match best with
    | some (previous : String × Nat) =>
      if previous.1.length < letter.1.length then some letter else best
    | none => some letter) none).map fun letter => (letter.2, text.drop letter.1.length)

/-- The syllable whose letters have names that make up a text. -/
def syllable? (text : List Char) : Option Nat := do
  let (first, text) ← longestLetter? firstLetters text
  let (vowel, text) ← longestLetter? vowels text
  let (last, text) ← longestLetter? lastLetters text
  if text.isEmpty then return 0xac00 + (first * 21 + vowel) * 28 + last else none

/-! ## All names -/

/-- **The code point of the character with a name.** -/
def characterNamed? (name : List Char) : Option Nat :=
  if syllableStart.isPrefixOf name then syllable? (name.drop syllableStart.length)
  else if unifiedStart.isPrefixOf name then
    codeAtEnd? unifiedIdeographs (name.drop unifiedStart.length)
  else
    let name := name.map Char.toUpper
    (codedCharacter? name).or
      (nameTables.findSome? fun rows => searchRows (nameWords name) [] rows)

end TreeSift.Text
