import TreeSift.Proofs.Text.Digits
import TreeSift.Text.LineEnds

/-! # Plain characters

A text of line feeds and of printable characters of ASCII is the same whichever line ends are told
apart. -/

namespace TreeSift.Text

/-- The character is a line feed, or printable and of ASCII, so that neither `unifyLineEnds` nor a
reader treats it in a way of its own. -/
def isPlainChar (c : Char) : Bool :=
  c == '\n' || (' ' ≤ c && c ≤ '~')

/-- Hexadecimal digits satisfy `isPlainChar`. -/
theorem isPlainChar_of_isHexDigit {c : Char} (h : isHexDigit c = true) : isPlainChar c = true := by
  have hall : ∀ code : Fin 0x80, isHexDigit (Char.ofNat code) = true →
      isPlainChar (Char.ofNat code) = true := by decide
  have hc := hall ⟨c.toNat, toNat_lt_of_isHexDigit h⟩
  rw [Char.ofNat_toNat] at hc
  exact hc h

/-- A text of characters that satisfy `isPlainChar` has no other line ends: `unifyLineEnds` leaves
it as it is. -/
theorem unifyLineEnds_of_all {text : String} (h : text.toList.all isPlainChar = true) :
    unifyLineEnds text = text := by
  have hmem : '\r' ∉ text.toList := fun hmem => by
    have := List.all_eq_true.1 h _ hmem
    exact absurd this (by decide)
  rw [unifyLineEnds, unifyEnds_of_not_mem hmem, String.ofList_toList]

end TreeSift.Text
