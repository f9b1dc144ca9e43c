/-! # Positions in a text

A position in a text is the number of characters before it. Lines and columns are counted from one,
and a line feed ends a line. -/

namespace TreeSift.Text

/-- The line of a position: one more than the line feeds before it. -/
def lineOf (source : List Char) (position : Nat) : Nat :=
  (source.take position).count '\n' + 1

/-- The column of a position: one more than the characters since the last line feed. -/
def columnOf (source : List Char) (position : Nat) : Nat :=
  ((source.take position).reverse.takeWhile (· != '\n')).length + 1

end TreeSift.Text
