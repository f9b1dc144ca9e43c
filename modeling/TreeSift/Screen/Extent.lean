/-! # Extents of screens

An `Extent` is the number of columns that a screen has, of which there are `leastColumns` or more:
enough for every piece of a fixed width that is put on it. -/

namespace TreeSift.Screen

/-- The fewest columns of a screen. A panel of counts with up to thirteen digits fits into them. -/
def leastColumns : Nat := 40

/-- **The columns of a screen**, not fewer than `leastColumns`. -/
structure Extent where
  /-- The number of columns. -/
  columns : Nat
  /-- There are enough of them. -/
  least_le : leastColumns ≤ columns
  deriving DecidableEq, Repr

/-- The columns of a screen of which nothing is known, for `Config.Sources`. -/
def Extent.usual : Extent where
  columns := 80
  least_le := by decide

/-- The columns of a screen that a number asks for, if there is one and it is not below
`leastColumns`; else the `usual` ones. -/
def Extent.ofColumns? (columns? : Option Nat) : Extent :=
  match columns? with
  | none => .usual
  | some columns => if h : leastColumns ≤ columns then ⟨columns, h⟩ else .usual

end TreeSift.Screen
