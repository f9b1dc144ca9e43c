import TreeSift.Text.Integer
import TreeSift.Text.Quoted

/-! # Refusals of YAML texts

A `Refusal` says why a YAML text has no value. -/

namespace TreeSift.Yaml

open TreeSift.Text (IntegerFault quoted)

/-- **Why a YAML text has no value.** -/
inductive Refusal where
  /-- The text is malformed, or its nodes do not make a value. -/
  | malformed
  /-- An escape gives a number beyond all characters. -/
  | codePoint (code : Nat)
  /-- A scalar that ought to be an integer is none in its base. -/
  | notInteger (base : Nat) (text : String) (fault : IntegerFault)
  /-- A scalar that ought to be a floating-point number is none. -/
  | notFloat (text : String)
  /-- A scalar that ought to be a number has no digits. -/
  | emptyNumber
  /-- A number has so many parts to the base sixty that the unit of one is beyond all floating-point
  numbers. -/
  | beyondFloats
  /-- A scalar that ought to be a truth value is none. -/
  | notBoolean (text : String)
  /-- A scalar that ought to be a date is none. -/
  | notTimestamp
  /-- A mapping ought to be a date. The value of its value key does not count. -/
  | mappingForTimestamp
  /-- A part of a date or of its time is out of its range. -/
  | noSuchTime (problem : String)
  /-- A mapping stands for the value of its value key, which is the mapping itself. -/
  | endless
  deriving DecidableEq, Repr

/-- The wording of a refusal; what is malformed is not described. -/
def Refusal.message : Refusal → String
  | .malformed => ""
  | .codePoint code =>
    if code < 0x80000000 then "chr() arg not in range(0x110000)"
    else "Python int too large to convert to C int"
  | .notInteger base text fault => fault.message base text
  | .notFloat text => "could not convert string to float: " ++ quoted text
  | .emptyNumber => "string index out of range"
  | .beyondFloats => "int too large to convert to float"
  | .notBoolean text => quoted text
  | .notTimestamp => "'NoneType' object has no attribute 'groupdict'"
  | .mappingForTimestamp => "expected string or bytes-like object, got 'list'"
  | .noSuchTime problem => problem
  | .endless => "maximum recursion depth exceeded"

end TreeSift.Yaml
