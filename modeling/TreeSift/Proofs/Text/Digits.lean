import Mathlib.Data.List.Induction
import Mathlib.Data.Nat.Digits.Defs
import TreeSift.Text.Digits

/-! # Hexadecimal digits are read back

`digitsValue` undoes `hexDigits` (`digitsValue_hexDigits`): what is written are hexadecimal digits
(`isHexDigit_of_mem_hexDigits`), as many as there is room for (`length_hexDigits`). The case of the
letters does not matter (`digitsValue_map_toUpper`). -/

namespace TreeSift.Text

variable {n width : Nat} {c : Char}

/-- The digit `d.digitChar` of a number below sixteen is a hexadecimal one. -/
theorem isHexDigit_digitChar {d : Nat} (h : d < 16) : isHexDigit d.digitChar = true := by
  have hall : ∀ d : Fin 16, isHexDigit d.val.digitChar = true := by decide
  exact hall ⟨d, h⟩

/-- The `hexValue` of the digit of a number below sixteen is the number. -/
theorem hexValue_digitChar {d : Nat} (h : d < 16) : hexValue d.digitChar = d := by
  have hall : ∀ d : Fin 16, hexValue d.val.digitChar = d.val := by decide
  exact hall ⟨d, h⟩

/-- Hexadecimal digits are characters of ASCII: their codes are less than `0x80`. -/
theorem toNat_lt_of_isHexDigit (h : isHexDigit c = true) : c.toNat < 0x80 := by
  simp only [isHexDigit, Char.isDigit, Bool.or_eq_true, Bool.and_eq_true, decide_eq_true_eq,
    Char.le_def, UInt32.le_iff_toNat_le] at h
  have : c.toNat = c.val.toNat := rfl
  simp at h
  omega

/-- A hexadecimal digit is one in upper case as well, of the same `hexValue`. -/
theorem isHexDigit_toUpper (h : isHexDigit c = true) :
    isHexDigit c.toUpper = true ∧ hexValue c.toUpper = hexValue c := by
  have hall : ∀ code : Fin 0x80, isHexDigit (Char.ofNat code) = true →
      isHexDigit (Char.ofNat code).toUpper = true ∧
        hexValue (Char.ofNat code).toUpper = hexValue (Char.ofNat code) := by decide
  have hc := hall ⟨c.toNat, toNat_lt_of_isHexDigit h⟩
  rw [Char.ofNat_toNat] at hc
  exact hc h

/-- Zeros in front of digits do not change their `digitsValue`. -/
theorem digitsValue_replicate_append (base count : Nat) (digits : List Char) :
    digitsValue base (List.replicate count '0' ++ digits) = digitsValue base digits := by
  induction count with
  | zero => rfl
  | succ count ih =>
      have hzero : hexValue '0' = 0 := by decide
      simpa [digitsValue, List.replicate_succ, hzero] using ih

/-- The digits that `Nat.toDigits 16` writes are hexadecimal ones. -/
theorem isHexDigit_of_mem_toDigits (hc : c ∈ Nat.toDigits 16 n) : isHexDigit c = true := by
  induction n using Nat.strongRecOn with
  | ind n ih =>
      rw [Nat.toDigits_eq_if (by omega)] at hc
      split at hc
      · next hn =>
        rw [List.mem_singleton.1 hc]
        exact isHexDigit_digitChar hn
      · rcases List.mem_append.1 hc with hc | hc
        · exact ih (n / 16) (by omega) hc
        · rw [List.mem_singleton.1 hc]
          exact isHexDigit_digitChar (Nat.mod_lt _ (by omega))

/-- What `Nat.toDigits 16` writes has the number as its `digitsValue`. -/
theorem digitsValue_toDigits (n : Nat) : digitsValue 16 (Nat.toDigits 16 n) = n := by
  induction n using Nat.strongRecOn with
  | ind n ih =>
      rw [Nat.toDigits_eq_if (by omega)]
      split
      · next hn => simpa [digitsValue] using hexValue_digitChar hn
      · rw [digitsValue_concat, ih (n / 16) (by omega), hexValue_digitChar (Nat.mod_lt _ (by omega))]
        omega

/-- **Hexadecimal digits are read back** as the number that they write: `digitsValue` undoes
`hexDigits`. -/
theorem digitsValue_hexDigits (width n : Nat) : digitsValue 16 (hexDigits width n) = n := by
  rw [hexDigits, digitsValue_replicate_append, digitsValue_toDigits]

/-- Only hexadecimal digits are written by `hexDigits`. -/
theorem isHexDigit_of_mem_hexDigits (hc : c ∈ hexDigits width n) : isHexDigit c = true := by
  rcases List.mem_append.1 hc with hc | hc
  · rw [List.eq_of_mem_replicate hc]
    decide
  · exact isHexDigit_of_mem_toDigits hc

/-- A number less than `16 ^ width` has as many `hexDigits` as there is room for. -/
theorem length_hexDigits (hwidth : 0 < width) (h : n < 16 ^ width) :
    (hexDigits width n).length = width := by
  have hle := Nat.toDigits_length 16 n width hwidth h
  rw [hexDigits, List.length_append, List.length_replicate]
  omega

/-- Digits in upper case write the same number: `digitsValue` does not tell cases apart. -/
theorem digitsValue_map_toUpper {digits : List Char} (h : ∀ c ∈ digits, isHexDigit c = true) :
    digitsValue 16 (digits.map Char.toUpper) = digitsValue 16 digits := by
  induction digits using List.reverseRecOn with
  | nil => rfl
  | append_singleton digits c ih =>
      have hc := (isHexDigit_toUpper (h c (by simp))).2
      rw [List.map_append, List.map_singleton, digitsValue_concat, digitsValue_concat, hc,
        ih fun d hd => h d (List.mem_append_left _ hd)]

end TreeSift.Text
