/-! # Sets of code points

`CodeRanges` is a finite set of code points, written as closed ranges in ascending order. The
character classes of this library (`letters`, `printable`, `blanks`, …) are values of it. -/

namespace TreeSift.Text

/-- **A set of code points**, as closed ranges in ascending order. -/
structure CodeRanges where
  /-- First and last code point of each range. -/
  ranges : List (Nat × Nat)

namespace CodeRanges

/-- Whether a code point lies in one of the ranges: since they ascend, only the first range that
does not end before it can hold it. -/
def contains (s : CodeRanges) (code : Nat) : Bool :=
  match s.ranges.find? (fun r => code ≤ r.2) with
  | some r => r.1 ≤ code
  | none => false

/-- A code point that the set contains lies in a range of it. -/
theorem exists_range_of_contains {s : CodeRanges} {code : Nat} (h : s.contains code = true) :
    ∃ r ∈ s.ranges, r.1 ≤ code ∧ code ≤ r.2 := by
  unfold contains at h
  split at h
  · next r hr =>
    exact ⟨r, List.mem_of_find?_eq_some hr, by simpa using h, by simpa using List.find?_some hr⟩
  · cases h

/-- The distance of a code point from the start of its range. -/
def offset? (s : CodeRanges) (code : Nat) : Option Nat :=
  match s.ranges.find? (fun r => code ≤ r.2) with
  | some r => if r.1 ≤ code then some (code - r.1) else none
  | none => none

end CodeRanges

end TreeSift.Text
