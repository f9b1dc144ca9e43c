import TreeSift.Document.Value
import TreeSift.Text.Integer

/-! # What keeps values from being written

A value that holds itself cannot be written, nor can one that is nested too deeply, nor an integer
with too many digits. A format may have no form for some kinds of values. -/

namespace TreeSift.Document

/-- **What keeps a value from being written**, by `Json.writeFault?` or `Yaml.writeFault?`. -/
inductive WriteFault where
  /-- The value is nested too deeply, or holds itself. -/
  | tooDeep
  /-- An integer has too many digits. -/
  | integerTooLong
  /-- The format has no form for a kind of values. -/
  | noForm (kindName : String)
  /-- The format has no form for a kind of keys. -/
  | noKeyForm (kindName : String)
  deriving DecidableEq, Repr

/-- The wording of a `WriteFault`. -/
def WriteFault.message : WriteFault → String
  | .tooDeep => "maximum recursion depth exceeded"
  | .integerTooLong => Text.unwritableMessage
  | .noForm kindName => "Object of type " ++ kindName ++ " is not JSON serializable"
  | .noKeyForm kindName => "keys must be str, int, float, bool or None, not " ++ kindName

/-- What keeps the digits of a scalar from being written: an integer that is not `Text.isWritable`.
-/
def Scalar.digitFault? : Scalar → Option WriteFault
  | .int value => if Text.isWritable value then none else some .integerTooLong
  | _ => none

end TreeSift.Document
