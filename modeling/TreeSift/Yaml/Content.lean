import TreeSift.Document.NumberText
import TreeSift.Document.Value
import TreeSift.Text.Base64
import TreeSift.Text.Case
import TreeSift.Text.Split
import TreeSift.Yaml.Refusal
import TreeSift.Yaml.Tag
import TreeSift.Yaml.Timestamp

/-! # Contents of scalars

The text of a scalar writes a value of the kind that its tag says. `Tag.scalarValue` reads it:
integers in several bases, numbers with a point, words for truth values, dates, and bytes. A tag may
be given to any text, so that more texts have a value than `Tag.ofContent` would take for one: `inf`
or `1` with the tag of a floating-point number, `2001-1-1` with that of a date. -/

namespace TreeSift.Yaml

open TreeSift.Document
open TreeSift.Document.Binary64 (splitSign)
open TreeSift.Text (lowerText readInteger)

/-- The integer that digits of a base write, by `readInteger`. -/
def integerIn (base : Nat) (text : List Char) : Except Refusal Int :=
  (readInteger base text).mapError (.notInteger base (String.ofList text))

/-- The integer that parts to the base sixty write, each in decimal digits by `integerIn`. -/
def sixtiesValue (text : List Char) : Except Refusal Int := do
  let parts ← (Text.splitWhere (· == ':') text).mapM (integerIn 10)
  return parts.foldl (fun n part => n * 60 + part) 0

/-- The integer that a scalar writes: with a sign, with underscores anywhere, in the base that a
zero and a letter or a zero alone mark, or in parts to the base sixty by `sixtiesValue`. -/
def integerValue (content : String) : Except Refusal Int := do
  let text := content.toList.filter (· != '_')
  if text.isEmpty then throw .emptyNumber
  let (negative, digits) := splitSign text
  let value ←
    match digits with
    | [] => throw .emptyNumber
    | ['0'] => pure 0
    | '0' :: 'b' :: rest => integerIn 2 rest
    | '0' :: 'x' :: rest => integerIn 16 rest
    | '0' :: _ => integerIn 8 digits
    | _ => if digits.contains ':' then sixtiesValue digits else integerIn 10 digits
  return if negative then -value else value

/-- The floating-point number that a text writes for `Binary64.read?`, which knows no marks of YAML.
-/
def floatIn (text : List Char) : Except Refusal Binary64 :=
  match Binary64.read? text with
  | some value => .ok value
  | none => .error (.notFloat (String.ofList text))

/-- The sum of `parts`, each times a power of sixty that starts at `unit`. The powers are made to
floating-point numbers, which cannot be done from `60 ^ 174` on. -/
def sixtiesSum : Nat → Binary64 → List Binary64 → Except Refusal Binary64
  | _, sum, [] => .ok sum
  | unit, sum, part :: parts =>
    match Binary64.ofNat unit with
    | .infinite _ => .error .beyondFloats
    | power => sixtiesSum (unit * 60) (sum.add (part.mul power)) parts

/-- The floating-point number that parts to the base sixty write, summed by `sixtiesSum`. Each part
is a number with a point, a sign or a power of its own. -/
def sixtiesFloat (text : List Char) : Except Refusal Binary64 := do
  let parts ← (Text.splitWhere (· == ':') text).mapM floatIn
  sixtiesSum 1 (.ofNat 0) parts.reverse

/-- The floating-point number that a scalar writes: `.inf`, `.nan`, parts to the base sixty, or what
`Binary64.read?` reads, after a sign and with underscores anywhere. -/
def floatValue (content : String) : Except Refusal Binary64 := do
  let text := (lowerText (String.ofList (content.toList.filter (· != '_')))).toList
  if text.isEmpty then throw .emptyNumber
  let (negative, digits) := splitSign text
  let value ←
    if digits = ".inf".toList then pure (.infinite false)
    else if digits = ".nan".toList then pure .nan
    else if digits.contains ':' then sixtiesFloat digits
    else floatIn digits
  return if negative then value.neg else value

/-- The truth value that a scalar writes: one of `Tag.boolWords` in any case. -/
def boolValue (content : String) : Except Refusal Bool :=
  match Tag.boolWords.lookup (lowerText content) with
  | some value => .ok value
  | none => .error (.notBoolean (lowerText content))

/-- The timestamp that a scalar writes, a line feed at its end apart. `readTimestamp?` knows its
form, and its numbers have to be in range. -/
def timestampValue (content : String) : Except Refusal Timestamp :=
  match readTimestamp? (Tag.withoutLastBreak content.toList) with
  | none => .error .notTimestamp
  | some timestamp =>
    match timestamp.problem? with
    | some problem => .error (.noSuchTime problem)
    | none => .ok timestamp

/-- The bytes that a scalar writes in base 64, by `decodeBase64?` if it is ASCII. -/
def binaryValue (content : String) : Except Refusal (List UInt8) :=
  let text := content.toList
  if text.all fun c => c.toNat < 0x80 then
    match Text.decodeBase64? text with
    | some bytes => .ok bytes
    | none => .error .malformed
  else .error .malformed

/-- Whether the values of a tag are scalars, so that `Tag.scalarValue` makes them. -/
def Tag.hasScalars : Tag → Bool
  | .null | .bool | .int | .float | .timestamp | .text | .binary => true
  | _ => false

/-- **The value of a scalar by its tag.** Tags of collections and unknown ones have none: these are
`Refusal.malformed`. -/
def Tag.scalarValue (tag : Tag) (content : String) : Except Refusal Scalar :=
  match tag with
  | .null => .ok .null
  | .bool => (boolValue content).map .bool
  | .int => (integerValue content).map .int
  | .float => (floatValue content).map .float
  | .timestamp => (timestampValue content).map .timestamp
  | .binary => (binaryValue content).map .bytes
  | .text => .ok (.text content)
  | _ => .error .malformed

end TreeSift.Yaml
