import TreeSift.Json.Reader
import TreeSift.Json.Writer
import TreeSift.Proofs.Text.Digits

/-! # Strings in JSON are read back

Every character is escaped in such a way that one step of the reader gives it back
(`stringBody_writeChar`), so that a string in quotes is read back whatever it holds
(`stringBody_flatMap_writeChar`). -/

namespace TreeSift.Json

open TreeSift.Text (isHexDigit digitsValue hexDigits digitsValue_hexDigits length_hexDigits
  isHexDigit_of_mem_hexDigits)

variable {c : Char} {rest left : List Char} {opening code : Nat}

/-! ## Numeric escapes -/

/-- Four hexadecimal digits are taken by `hexUnit?` as their `digitsValue`. -/
theorem hexUnit?_append {digits : List Char} (hlength : digits.length = 4)
    (h : ∀ d ∈ digits, isHexDigit d = true) (rest : List Char) :
    hexUnit? (digits ++ rest) = some (digitsValue 16 digits, rest) := by
  match digits, hlength with
  | [a, b, c, d], _ =>
    have hall : [a, b, c, d].all isHexDigit = true := List.all_eq_true.2 h
    rw [List.cons_append, List.cons_append, List.cons_append, List.cons_append, List.nil_append,
      hexUnit?, if_pos hall]

/-- The digits of a number below `0x10000` are taken as the number. -/
theorem hexUnit?_hexDigits (h : code < 0x10000) (rest : List Char) :
    hexUnit? (hexDigits 4 code ++ rest) = some (code, rest) := by
  rw [hexUnit?_append (length_hexDigits (by omega) h) (fun _ => isHexDigit_of_mem_hexDigits),
    digitsValue_hexDigits]

/-- A numeric escape that is no first half of a pair is the character with its number, `unitChar
code`. -/
theorem unicodeEscape_hexDigits (h : code < 0x10000) (hhigh : isHighSurrogate code = false)
    (hrest : rest ≠ []) : unicodeEscape (hexDigits 4 code ++ rest) = .ok (unitChar code, rest) := by
  have hlength : ¬(hexDigits 4 code ++ rest).length ≤ 4 := by
    have := List.length_pos_iff.2 hrest
    rw [List.length_append, length_hexDigits (by omega) h]
    omega
  rw [unicodeEscape, if_neg hlength, hexUnit?_hexDigits h]
  simp only [hhigh, Bool.false_and, Bool.false_eq_true, if_false]
  split <;> rfl

/-- The two halves of a pair make one character by `joinSurrogates`. -/
theorem unicodeEscape_pair {high low : Nat} (hhigh : isHighSurrogate high = true)
    (hlow : isLowSurrogate low = true) (hrest : rest ≠ []) :
    unicodeEscape (hexDigits 4 high ++ numericEscape low ++ rest) =
      .ok (joinSurrogates high low, rest) := by
  have hhigh' : high < 0x10000 := by
    simp only [isHighSurrogate, Bool.and_eq_true, decide_eq_true_eq] at hhigh
    omega
  have hlow' : low < 0x10000 := by
    simp only [isLowSurrogate, Bool.and_eq_true, decide_eq_true_eq] at hlow
    omega
  have hleft : 4 < (hexDigits 4 low ++ rest).length := by
    have := List.length_pos_iff.2 hrest
    rw [List.length_append, length_hexDigits (by omega) hlow']
    omega
  have hlength : ¬(hexDigits 4 high ++ numericEscape low ++ rest).length ≤ 4 := by
    simp only [numericEscape, List.length_append, List.length_cons] at hleft ⊢
    omega
  rw [unicodeEscape, if_neg hlength, List.append_assoc, hexUnit?_hexDigits hhigh']
  simp only [numericEscape, List.cons_append, hhigh, hleft, decide_true, Bool.and_self, if_true,
    hexUnit?_hexDigits hlow', hlow]

/-- The character with the number of a character is the character: `unitChar` undoes `toNat`. -/
theorem unitChar_toNat (c : Char) : unitChar c.toNat = c := by
  have hvalid : c.toNat.isValidChar := c.valid
  have hnone : (isHighSurrogate c.toNat || isLowSurrogate c.toNat) = false := by
    simp only [isHighSurrogate, isLowSurrogate, Bool.or_eq_false_iff, Bool.and_eq_false_iff,
      decide_eq_false_iff_not]
    rcases hvalid with h | h <;> omega
  rw [unitChar, hnone, if_neg Bool.false_ne_true, Char.ofNat_toNat]

/-- No character is a half of a pair: `isHighSurrogate` fails on each `toNat`. -/
theorem isHighSurrogate_toNat (c : Char) : isHighSurrogate c.toNat = false := by
  have hvalid : c.toNat.isValidChar := c.valid
  simp only [isHighSurrogate, Bool.and_eq_false_iff, decide_eq_false_iff_not]
  rcases hvalid with h | h <;> omega

/-- The halves that a character from U+10000 on is split into make the character. -/
theorem joinSurrogates_split (h : 0x10000 ≤ c.toNat) :
    joinSurrogates (0xd800 + (c.toNat - 0x10000) / 0x400)
      (0xdc00 + (c.toNat - 0x10000) % 0x400) = c := by
  have hcode : 0x10000 + (0xd800 + (c.toNat - 0x10000) / 0x400 - 0xd800) * 0x400 +
      (0xdc00 + (c.toNat - 0x10000) % 0x400 - 0xdc00) = c.toNat := by omega
  rw [joinSurrogates, hcode, Char.ofNat_toNat]

/-- The first half of a character from U+10000 on satisfies `isHighSurrogate`. -/
theorem isHighSurrogate_split (h : ¬c.toNat < 0x10000) :
    isHighSurrogate (0xd800 + (c.toNat - 0x10000) / 0x400) = true := by
  have hvalid : c.toNat.isValidChar := c.valid
  have hbound : c.toNat < 0x110000 := by rcases hvalid with h | h <;> omega
  simp only [isHighSurrogate, Bool.and_eq_true, decide_eq_true_eq]
  omega

/-- The second half of a character satisfies `isLowSurrogate`. -/
theorem isLowSurrogate_split (c : Char) :
    isLowSurrogate (0xdc00 + (c.toNat - 0x10000) % 0x400) = true := by
  simp only [isLowSurrogate, Bool.and_eq_true, decide_eq_true_eq]
  omega

/-! ## Characters -/

/-- An escape that is read gives the next character of `stringBody`. -/
theorem stringBody_escape {text : List Char} (h : escape opening text = .ok (c, rest)) :
    stringBody opening ('\\' :: text) =
      (stringBody opening rest).map fun (cs, left) => (c :: cs, left) := by
  rw [stringBody]
  split
  · next herror => rw [h] at herror; cases herror
  · next found left hok =>
    rw [h] at hok
    cases hok
    rfl

/-- A letter after a backslash gives the character that `letterEscape?` says. -/
theorem stringBody_letter {d : Char} (hletter : letterEscape? d = some c) (hd : d ≠ 'u') :
    stringBody opening ('\\' :: d :: rest) =
      (stringBody opening rest).map fun (cs, left) => (c :: cs, left) := by
  have hescape : escape opening (d :: rest) = .ok (c, rest) := by
    rw [escape]
    · rw [hletter]
    · exact hd
  exact stringBody_escape hescape

/-- A `numericEscape` gives its character to `stringBody`. -/
theorem stringBody_numericEscape (h : unicodeEscape (hexDigits 4 code ++ rest) = .ok (c, left)) :
    stringBody opening (numericEscape code ++ rest) =
      (stringBody opening left).map fun (cs, left) => (c :: cs, left) := by
  have hescape : escape opening ('u' :: (hexDigits 4 code ++ rest)) = .ok (c, left) := by
    rw [escape, h]
  exact stringBody_escape hescape

/-- A character beside quotes, backslashes and control characters is read by `stringBody` as it is.
-/
theorem stringBody_of_plain (hquote : c ≠ '"') (hslash : c ≠ '\\') (h : ' ' ≤ c) :
    stringBody opening (c :: rest) =
      (stringBody opening rest).map fun (cs, left) => (c :: cs, left) := by
  rw [stringBody]
  · exact if_neg (Char.not_lt.2 h)
  · exact hquote
  · exact hslash

/-- **A character that is written is read back**, if something follows it: `stringBody` undoes
`writeChar`. -/
theorem stringBody_writeChar (c : Char) (hrest : rest ≠ []) :
    stringBody opening (writeChar c ++ rest) =
      (stringBody opening rest).map fun (cs, left) => (c :: cs, left) := by
  unfold writeChar
  split_ifs with hmark hfeed hreturn htab hback hform hprintable hbasic
  · rcases hmark with rfl | rfl <;> exact stringBody_letter (by decide) (by decide)
  · exact hfeed ▸ stringBody_letter (by decide) (by decide)
  · exact hreturn ▸ stringBody_letter (by decide) (by decide)
  · exact htab ▸ stringBody_letter (by decide) (by decide)
  · exact hback ▸ stringBody_letter (by decide) (by decide)
  · exact hform ▸ stringBody_letter (by decide) (by decide)
  · exact stringBody_of_plain (fun h => hmark (.inl h)) (fun h => hmark (.inr h)) hprintable.1
  · have hread := unicodeEscape_hexDigits hbasic (isHighSurrogate_toNat c) hrest
    rw [unitChar_toNat] at hread
    exact stringBody_numericEscape hread
  · have hread := unicodeEscape_pair (isHighSurrogate_split hbasic) (isLowSurrogate_split c) hrest
    rw [joinSurrogates_split (Nat.le_of_not_lt hbasic), List.append_assoc] at hread
    rw [List.append_assoc]
    exact stringBody_numericEscape hread

/-- **A text that is written is read back** up to the quote after it: `stringBody` undoes `flatMap
writeChar`. -/
theorem stringBody_flatMap_writeChar (opening : Nat) (text rest : List Char) :
    stringBody opening (text.flatMap writeChar ++ '"' :: rest) = .ok (text, rest) := by
  induction text with
  | nil => rw [List.flatMap_nil, List.nil_append, stringBody]
  | cons c text ih =>
      rw [List.flatMap_cons, List.append_assoc, stringBody_writeChar c (by simp), ih]
      rfl

end TreeSift.Json
