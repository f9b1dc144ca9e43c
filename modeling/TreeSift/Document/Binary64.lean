/-! # Binary floating point

A `Binary64` is a number of the 64-bit binary format: a sign, a mantissa of at most 53 bits and an
exponent. `ofDecimal` rounds a decimal to the nearest number, `shortestDigits` finds the fewest
decimal digits that round back to a number, and `text` writes these out. `add` and `mul` round the
exact result.

All of it is arithmetic on natural numbers. -/

namespace TreeSift.Document

/-- **A number of the 64-bit binary format**, such as `ofFraction` gives. -/
inductive Binary64 where
  /-- No number. -/
  | nan
  /-- A number beyond all finite ones. -/
  | infinite (negative : Bool)
  /-- The number `mantissa * 2 ^ exponent` with its sign. The mantissa has 53 bits, or the exponent
  is the least one. -/
  | finite (negative : Bool) (mantissa : Nat) (exponent : Int)
  deriving DecidableEq, Repr

namespace Binary64

/-- The least exponent of a number `finite`. -/
def leastExponent : Int := -1074

/-- The greatest exponent of a number `finite`. -/
def greatestExponent : Int := 971

/-- The least mantissa that has all its bits, of which `ofFraction` makes use. -/
def fullMantissa : Nat := Nat.pow 2 52

/-- A quotient rounded to the nearest number, a half to the even neighbour, as `ofFraction` rounds.
-/
def roundQuotient (numerator denominator : Nat) : Nat :=
  let quotient := numerator / denominator
  let twice := 2 * (numerator % denominator)
  if twice < denominator ∨ (twice = denominator ∧ quotient % 2 = 0) then quotient
  else quotient + 1

/-- A fraction multiplied by a power of a base, as `(numerator, denominator)`: the base goes to the
side where its exponent is positive. -/
def scale (base : Nat) (numerator denominator : Nat) (exponent : Int) : Nat × Nat :=
  if exponent < 0 then (numerator, denominator * base.pow exponent.natAbs)
  else (numerator * base.pow exponent.toNat, denominator)

/-- The power of two that a positive fraction lies at or just above, for `ofFraction`. -/
def floorLog2 (numerator denominator : Nat) : Int :=
  let guess : Int := Int.ofNat numerator.log2 - Int.ofNat denominator.log2
  let (n, d) := scale 2 numerator denominator (-guess)
  -- the numbers of bits tell the power up to one
  if n < d then guess - 1 else guess

/-- **The number nearest to a fraction.** Of two that are equally near it is the one with the even
mantissa, by `roundQuotient`. -/
def ofFraction (negative : Bool) (numerator denominator : Nat) : Binary64 :=
  if numerator = 0 then .finite negative 0 leastExponent
  else
    let exponent := max leastExponent (floorLog2 numerator denominator - 52)
    let (n, d) := scale 2 numerator denominator (-exponent)
    let mantissa := roundQuotient n d
    -- rounding up may give one bit too many
    let (mantissa, exponent) :=
      if mantissa = 2 * fullMantissa then (fullMantissa, exponent + 1) else (mantissa, exponent)
    if exponent > greatestExponent then .infinite negative
    else .finite negative mantissa exponent

/-- How many decimal digits a number has, as `Nat.toDigits` writes it. -/
def digitCount (n : Nat) : Nat :=
  (Nat.toDigits 10 n).length

/-- **The number nearest to `digits * 10 ^ exponent`.** A decimal that is far beyond the format, or
far below it, is decided by its magnitude. -/
def ofDecimal (negative : Bool) (digits : Nat) (exponent : Int) : Binary64 :=
  let magnitude : Int := exponent + Int.ofNat (digitCount digits)
  if digits = 0 ∨ magnitude < -400 then .finite negative 0 leastExponent
  else if magnitude > 400 then .infinite negative
  else
    let (n, d) := scale 10 digits 1 exponent
    ofFraction negative n d

/-- The number of places before the point of a positive fraction: the least `p` such that `10 ^ p`
lies above it. Below one it counts the zeros after the point, negatively. -/
def decimalPlaces (numerator denominator : Nat) : Int :=
  if denominator ≤ numerator then Int.ofNat (digitCount (numerator / denominator))
  else
    let zeros : Int := Int.ofNat (digitCount (denominator / numerator)) - 1
    let (n, d) := scale 10 numerator denominator zeros
    if n = d then 1 - zeros else -zeros

/-- The ends of the interval of numbers that round to `mantissa * 2 ^ exponent`, in quarters of the
unit of the mantissa. Below a power of two the neighbour is nearer. -/
def roundingInterval (mantissa : Nat) (exponent : Int) : Nat × Nat :=
  let below := if mantissa = fullMantissa ∧ leastExponent < exponent then 1 else 2
  (4 * mantissa - below, 4 * mantissa + 2)

/-- A neighbour of a number on a decimal grid, if it is within `roundingInterval`: its distance from
the number in multiples of a common unit, and its digits. -/
def gridPoint? (mantissa : Nat) (exponent place : Int) (point : Nat) : Option (Nat × Nat) :=
  let (low, high) := roundingInterval mantissa exponent
  -- Both sides of `point * 10 ^ place` against quarters of `2 ^ exponent`, as natural numbers.
  let (decimal, unit₁) := scale 10 (point * 4) 1 place
  let (unit, unit₂) := scale 2 unit₁ 1 exponent
  let decimal := decimal * unit₂
  let inside :=
    if mantissa % 2 = 0 then low * unit ≤ decimal ∧ decimal ≤ high * unit
    else low * unit < decimal ∧ decimal < high * unit
  let value := 4 * mantissa * unit
  if inside then some ((decimal - value) + (value - decimal), point) else none

/-- The digits that stand for a number on the grid of one decimal place: of its two neighbours that
are a `gridPoint?` the nearer one, and on a tie the even one. -/
def nearestOnGrid? (mantissa : Nat) (exponent place : Int) : Option Nat :=
  let (n, d) := scale 2 mantissa 1 exponent
  let (n, d) := scale 10 n d (-place)
  let floor := n / d
  let pointAt := gridPoint? mantissa exponent place
  match pointAt floor, pointAt (floor + 1) with
  | none, none => none
  | some (_, low), none => some low
  | none, some (_, high) => some high
  | some (below, low), some (above, high) =>
    if below < above ∨ (below = above ∧ low % 2 = 0) then some low else some high

/-- The first grid, from coarse to fine, on which `nearestOnGrid?` has digits for a number. -/
def firstGrid (mantissa : Nat) (exponent : Int) : Nat → Int → Nat × Int
  | 0, place => (mantissa, place)
  | more + 1, place =>
    match nearestOnGrid? mantissa exponent place with
    | some digits => (digits, place)
    | none => firstGrid mantissa exponent more (place - 1)

/-- **The fewest digits that round back to a positive number**, and the place of the last one: the
number is close to `digits * 10 ^ place`. Seventeen digits are always enough. -/
def shortestDigits (mantissa : Nat) (exponent : Int) : Nat × Int :=
  let (n, d) := scale 2 mantissa 1 exponent
  firstGrid mantissa exponent 17 (decimalPlaces n d - 1)

/-- Digits without the zeros at their end, and how many zeros these were, for `layOut`. -/
def dropTrailingZeros (digits : List Char) : List Char × Nat :=
  let kept := (digits.reverse.dropWhile (· == '0')).reverse
  (kept, digits.length - kept.length)

/-- Digits with a point after `places` of them: positional from four zeros after the point up to
sixteen places before it, with an exponent of at least two digits elsewhere. -/
def layOut (digits : List Char) (places : Int) : String :=
  let count : Int := digits.length
  if -4 < places ∧ places ≤ 16 then
    if places ≤ 0 then String.ofList ("0.".toList ++ List.replicate places.natAbs '0' ++ digits)
    else if count ≤ places then
      String.ofList (digits ++ List.replicate (places - count).toNat '0' ++ ".0".toList)
    else
      String.ofList (digits.take places.toNat ++ ['.'] ++ digits.drop places.toNat)
  else
    let power := places - 1
    let fraction := if digits.length ≤ 1 then [] else '.' :: digits.drop 1
    let sign := if power < 0 then '-' else '+'
    let exponent := Nat.toDigits 10 power.natAbs
    let padding := List.replicate (2 - exponent.length) '0'
    String.ofList (digits.take 1 ++ fraction ++ ['e', sign] ++ padding ++ exponent)

/-- **The text of a number**: its `shortestDigits`, laid out by `layOut`. -/
def text : Binary64 → String
  | .nan => "nan"
  | .infinite false => "inf"
  | .infinite true => "-inf"
  | .finite negative mantissa exponent =>
    let sign := if negative then "-" else ""
    if mantissa = 0 then sign ++ "0.0"
    else
      let (digits, place) := shortestDigits mantissa exponent
      let (kept, zeros) := dropTrailingZeros (Nat.toDigits 10 digits)
      sign ++ layOut kept (place + zeros + kept.length)

/-- The integer that a number equals, if there is one, which makes them one key in `Scalar.keyForm`.
-/
def integer? : Binary64 → Option Int
  | .finite negative mantissa exponent =>
    let (n, d) := scale 2 mantissa 1 exponent
    if n % d = 0 then some (if negative then -Int.ofNat (n / d) else Int.ofNat (n / d)) else none
  | _ => none

/-! ## Arithmetic -/

/-- The number with the other sign; that of `nan` is `nan`. -/
def neg : Binary64 → Binary64
  | .nan => .nan
  | .infinite negative => .infinite !negative
  | .finite negative mantissa exponent => .finite (!negative) mantissa exponent

/-- The number nearest to `mantissa * 2 ^ exponent`. -/
def ofScaled (negative : Bool) (mantissa : Nat) (exponent : Int) : Binary64 :=
  let (n, d) := scale 2 mantissa 1 exponent
  ofFraction negative n d

/-- The number nearest to a natural number, by `ofFraction`. -/
def ofNat (n : Nat) : Binary64 :=
  ofFraction false n 1

/-- **The number nearest to a product.** Zero times an infinite number is `nan`. -/
def mul : Binary64 → Binary64 → Binary64
  | .finite s m e, .finite t n f => ofScaled (s != t) (m * n) (e + f)
  | .infinite s, .infinite t => .infinite (s != t)
  | .infinite s, .finite t m _ | .finite t m _, .infinite s =>
    if m = 0 then .nan else .infinite (s != t)
  | .nan, _ | _, .nan => .nan

/-- **The number nearest to a sum.** It is `-0.0` only if both numbers are. -/
def add : Binary64 → Binary64 → Binary64
  | .finite s m e, .finite t n f =>
    -- both numbers are multiples of the lower power of two
    let exponent := min e f
    let steps (negative : Bool) (mantissa : Nat) (power : Int) : Int :=
      let count := Int.ofNat (mantissa * Nat.pow 2 (power - exponent).toNat)
      if negative then -count else count
    let sum := steps s m e + steps t n f
    if sum = 0 then .finite (s && t) 0 leastExponent else ofScaled (sum < 0) sum.natAbs exponent
  | .infinite s, .infinite t => if s = t then .infinite s else .nan
  | .infinite s, .finite .. | .finite .., .infinite s => .infinite s
  | .nan, _ | _, .nan => .nan

/-- Whether a number is zero, with either sign, and so does not count as true in `Scalar.truth`. -/
def isZero : Binary64 → Bool
  | .finite _ mantissa _ => mantissa == 0
  | _ => false

end Binary64

end TreeSift.Document
