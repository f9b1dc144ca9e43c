import TreeSift.Pattern.Basic
import TreeSift.Scan.Scanner
import TreeSift.Screen.Frame

/-! # Outcomes of commands

A command ends with an exit code and has printed a text, unless it breaks off: `Breakdown` says what
can make it do so. What a command prints comes in pieces, and a piece whose markup is at fault
breaks it off. -/

namespace TreeSift.Command

open TreeSift.Screen (Extent Lines MarkupFault paragraph)

/-- **How a command has ended**, as `run` tells it. -/
structure Outcome where
  /-- The exit code. -/
  exitCode : Nat
  /-- The text that was printed. -/
  output : String := ""
  deriving DecidableEq, Repr

/-- **What makes a command break off** before it ends. Some of these are reported all the same, by
`Breakdown.report?`. -/
inductive Breakdown where
  /-- A text cannot be shown. -/
  | markup (fault : MarkupFault)
  /-- A pattern cannot be compiled, but is not malformed. -/
  | pattern (error : PatternError)
  /-- A scan ends without a result. -/
  | scan (failure : ScanFailure)
  /-- A setting that ought to hold patterns has no parts. -/
  | notPatterns (kindName : String)
  /-- A part of a setting that ought to be a pattern is no text. -/
  | notText (kindName : String)
  /-- A part of a setting that ought to be a pattern is in bytes, so many without blanks. -/
  | inBytes (length : Nat)

/-- The least number of bytes that could hold a marked pattern, for `Breakdown.message`. -/
def leastMarkedLength : Nat := 7

/-- The wording of a `Breakdown`. -/
def Breakdown.message : Breakdown → String
  | .markup fault => fault.message
  | .pattern error => error.message
  | .scan failure => failure.message
  | .notPatterns kindName => "'" ++ kindName ++ "' object is not iterable"
  | .notText kindName => "'" ++ kindName ++ "' object has no attribute 'strip'"
  | .inBytes length =>
    if length < leastMarkedLength then "a bytes-like object is required, not 'str'"
    else "startswith first arg must be bytes or a tuple of bytes, not str"

namespace Outcome

/-- What is said of a command line that `Request.ofArguments?` can make nothing of. -/
def unusable : Outcome where
  exitCode := 2

/-- **A command that prints pieces** and ends with an exit code. A piece that cannot be shown breaks
it off with its `MarkupFault`. -/
def printing (exitCode : Nat) (pieces : List (Except MarkupFault Lines)) :
    Except Breakdown Outcome :=
  match pieces.mapM id with
  | .error fault => .error (.markup fault)
  | .ok shown => .ok { exitCode, output := String.join (shown.map Lines.text) }

/-- A command that prints texts as they are, without the markup that `printing` reads. -/
def plain (texts : List String) : Outcome where
  exitCode := 0
  output := String.join (texts.map (· ++ "\n"))

/-- **A command that fails with a message**, which `paragraph` wraps and reads as markup. -/
def failing (screen : Extent) (message : String) : Except Breakdown Outcome :=
  printing 1 [paragraph screen ("[bold red]Error:[/bold red] " ++ message)]

end Outcome

end TreeSift.Command
