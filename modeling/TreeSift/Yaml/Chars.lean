/-! # Characters of YAML

Which characters a YAML text may hold, which of them break lines or separate words, and what the
start of a text says about where a scalar or a line ends. -/

namespace TreeSift.Yaml

/-- Whether a character may stand in a text at all. -/
def isAllowed (c : Char) : Bool :=
  c == '\t' || c == '\n' || c == '\r' || (' ' ≤ c && c ≤ '~') || c == '\x85' ||
    ('\xa0' ≤ c && c ≤ '\ud7ff') || ('\ue000' ≤ c && c ≤ '\ufffd') || 0x10000 ≤ c.toNat

/-- Whether a character ends a line. -/
def isBreak (c : Char) : Bool :=
  c == '\n' || c == '\r' || c == '\x85' || c == '\u2028' || c == '\u2029'

/-- Whether a character is a space or a tab. -/
def isGap (c : Char) : Bool :=
  c == ' ' || c == '\t'

/-- Whether a line ends here. -/
def atLineEnd : List Char → Bool
  | [] => true
  | c :: _ => isBreak c

/-- Whether a line ends here, or a space comes. -/
def atSpace : List Char → Bool
  | [] => true
  | c :: _ => isBreak c || c == ' '

/-- Whether a line ends here, or a space or a tab comes. -/
def atBlank : List Char → Bool
  | [] => true
  | c :: _ => isBreak c || isGap c

/-- The line break that comes next, and the text after it. The ends of lines that only control
characters mark are all the same. -/
def takeBreak? : List Char → Option (Char × List Char)
  | '\r' :: '\n' :: rest => some ('\n', rest)
  | c :: rest =>
    if c == '\n' || c == '\r' || c == '\x85' then some ('\n', rest)
    else if isBreak c then some (c, rest)
    else none
  | [] => none

/-- The text from the end of the line on. -/
def dropLine (text : List Char) : List Char :=
  text.dropWhile fun c => !isBreak c

/-- Whether the mark of a document comes next: three hyphens or three dots that stand alone. -/
def atDocumentMark : List Char → Bool
  | '-' :: '-' :: '-' :: rest => atBlank rest
  | '.' :: '.' :: '.' :: rest => atBlank rest
  | _ => false

/-- Whether a character may stand in the name of an anchor, a tag handle or a directive. -/
def isNameChar (c : Char) : Bool :=
  c.isAlphanum || c == '-' || c == '_'

/-- The characters beside letters and digits that a tag may hold. -/
def tagPunctuation : List Char :=
  "-;/?:@&=+$,_.!~*'()[]%".toList

/-- The characters that separate items and entries between brackets. -/
def flowIndicators : List Char :=
  [',', '[', ']', '\x7b', '\x7d']

/-- A line break takes something off the text. -/
theorem length_lt_of_takeBreak? {text rest : List Char} {c : Char}
    (h : takeBreak? text = some (c, rest)) : rest.length < text.length := by
  unfold takeBreak? at h
  split at h
  · simp only [Option.some.injEq, Prod.mk.injEq] at h
    simp only [← h.2, List.length_cons]
    omega
  · split at h
    · simp only [Option.some.injEq, Prod.mk.injEq] at h
      simp [← h.2]
    · split at h
      · simp only [Option.some.injEq, Prod.mk.injEq] at h
        simp [← h.2]
      · cases h
  · cases h

end TreeSift.Yaml
