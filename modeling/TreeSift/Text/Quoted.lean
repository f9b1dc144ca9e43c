import TreeSift.Text.Digits
import TreeSift.Text.PrintTable

/-! # Quoted text

`quoted` shows a text between quotes with everything escaped that could be mistaken. The quote is
a single one, unless the text holds a single quote and no double quote. Backslash, the quote, tab,
line feed and carriage return are escaped by name, other characters that are not printable by the
shortest of `\xNN`, `\uNNNN` and `\UNNNNNNNN`. `quotedBytes` shows bytes like characters of ASCII,
and those outside of ASCII by `\xNN`. -/

namespace TreeSift.Text

/-- A character that is not printable, by its code point. -/
def escapedCode (c : Char) : List Char :=
  let code := c.toNat
  if code ≤ 0xff then '\\' :: 'x' :: hexDigits 2 code
  else if code ≤ 0xffff then '\\' :: 'u' :: hexDigits 4 code
  else '\\' :: 'U' :: hexDigits 8 code

/-- One character as it stands between the quotes `quote`. -/
def quotedChar (quote c : Char) : List Char :=
  if c = quote ∨ c = '\\' then ['\\', c]
  else if c = '\t' then ['\\', 't']
  else if c = '\n' then ['\\', 'n']
  else if c = '\r' then ['\\', 'r']
  else if printable.contains c.toNat then [c]
  else escapedCode c

/-- The quote that a text is shown with. -/
def quoteFor (cs : List Char) : Char :=
  if '\'' ∈ cs ∧ '"' ∉ cs then '"' else '\''

/-- **A text between quotes**, on one line and without ambiguity. -/
def quoted (s : String) : String :=
  let cs := s.toList
  let quote := quoteFor cs
  String.ofList (quote :: cs.flatMap (quotedChar quote) ++ [quote])

/-- One byte as it stands between the quotes `quote`. -/
def quotedByte (quote : Char) (byte : UInt8) : List Char :=
  let c := Char.ofNat byte.toNat
  if c.toNat ≤ 0x7f then quotedChar quote c else escapedCode c

/-- **Bytes between quotes**, behind a mark of their own. -/
def quotedBytes (bytes : List UInt8) : String :=
  let quote := quoteFor (bytes.map fun byte => Char.ofNat byte.toNat)
  String.ofList ('b' :: quote :: bytes.flatMap (quotedByte quote) ++ [quote])

end TreeSift.Text
