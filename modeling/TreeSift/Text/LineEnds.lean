/-! # Line ends

A line ends with a line feed, a carriage return, or both in this order. `unifyLineEnds` makes all of
them line feeds. -/

namespace TreeSift.Text

/-- A text in which every line ends with a line feed. -/
def unifyEnds : List Char → List Char
  | '\r' :: '\n' :: cs => '\n' :: unifyEnds cs
  | '\r' :: cs => '\n' :: unifyEnds cs
  | c :: cs => c :: unifyEnds cs
  | [] => []

/-- `unifyEnds` on strings. -/
def unifyLineEnds (text : String) : String :=
  String.ofList (unifyEnds text.toList)

/-- A text without carriage returns is left as it is. -/
theorem unifyEnds_of_not_mem {cs : List Char} (h : '\r' ∉ cs) : unifyEnds cs = cs := by
  induction cs with
  | nil => rfl
  | cons c cs ih =>
    have hc : c ≠ '\r' := fun hc => h (by simp [hc])
    have hcs : '\r' ∉ cs := fun hcs => h (by simp [hcs])
    unfold unifyEnds
    split <;> simp_all

end TreeSift.Text
