import TreeSift.Text.CodeRanges

/-! # Blank characters

A character is blank when Unicode gives it the property White_Space, and so are the four
information separators U+001C to U+001F. `trim` removes blanks at both ends of a text, and
`isBlankText` says that nothing else is there. -/

namespace TreeSift.Text

/-- The blank code points. -/
def blanks : CodeRanges :=
  ⟨[(0x9, 0xd), (0x1c, 0x20), (0x85, 0x85), (0xa0, 0xa0), (0x1680, 0x1680), (0x2000, 0x200a),
    (0x2028, 0x2029), (0x202f, 0x202f), (0x205f, 0x205f), (0x3000, 0x3000)]⟩

/-- Whether a character is blank. -/
def isBlank (c : Char) : Bool :=
  blanks.contains c.toNat

/-- The text without the blanks at its start. -/
def trimStart (cs : List Char) : List Char :=
  cs.dropWhile isBlank

/-- The text without the blanks at its end. -/
def trimEnd (cs : List Char) : List Char :=
  (trimStart cs.reverse).reverse

/-- **The text without the blanks at both ends.** -/
def trim (cs : List Char) : List Char :=
  trimEnd (trimStart cs)

/-- `trim` on strings. -/
def trimText (s : String) : String :=
  String.ofList (trim s.toList)

/-- Whether a text holds blanks only. -/
def isBlankText (s : String) : Bool :=
  s.toList.all isBlank

end TreeSift.Text
