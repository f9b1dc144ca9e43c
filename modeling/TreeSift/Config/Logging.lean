import TreeSift.Config.Setting
import TreeSift.Regex.Basic

/-! # Settings of the log

The settings for the log are checked before anything is done: the level has to be a text, and a form
of log lines that is given has to have a field. -/

namespace TreeSift.Config

open TreeSift.Document
open TreeSift.Text (quoted upper)

/-- **What is wrong with the settings for the log**, as `loggingFault?` finds it. -/
inductive LoggingFault where
  /-- The level is no text. -/
  | levelNotText (kindName : String)
  /-- The level is in bytes. -/
  | levelInBytes
  /-- The form of log lines is no text. -/
  | formatNotText (kindName : String)
  /-- The form of log lines is in bytes. -/
  | formatInBytes
  /-- The form of log lines has no field. -/
  | formatWithoutField (format : String)
  /-- The level is the name of a form of log lines. -/
  | unknownLevel (level : String)
  /-- The level is the name of the table of styles. -/
  | levelIsStyles
  deriving DecidableEq, Repr

/-- A style of forms of log lines: its indicator, its name and its shortest form, for the message of
`LoggingFault.levelIsStyles`. -/
structure FormatStyle where
  /-- The indicator. -/
  indicator : String
  /-- The name. -/
  name : String
  /-- The shortest form. -/
  form : String

/-- The styles of forms of log lines, as `LoggingFault.message` lists them. -/
def formatStyles : List FormatStyle :=
  [⟨"%", "PercentStyle", "%(levelname)s:%(name)s:%(message)s"⟩,
    ⟨"\x7b", "StrFormatStyle", "\x7blevelname\x7d:\x7bname\x7d:\x7bmessage\x7d"⟩,
    ⟨"$", "StringTemplateStyle", "$\x7blevelname\x7d:$\x7bname\x7d:$\x7bmessage\x7d"⟩]

/-- A style as `LoggingFault.message` shows it. -/
def FormatStyle.shown (style : FormatStyle) : String :=
  quoted style.indicator ++ ": (<class 'logging." ++ style.name ++ "'>, " ++ quoted style.form ++
    ")"

/-- The wording of a `LoggingFault`. -/
def LoggingFault.message : LoggingFault → String
  | .levelNotText kindName => "'" ++ kindName ++ "' object has no attribute 'upper'"
  | .levelInBytes => "attribute name must be string, not 'bytes'"
  | .formatInBytes => "cannot use a string pattern on a bytes-like object"
  | .formatNotText kindName => "expected string or bytes-like object, got '" ++ kindName ++ "'"
  | .formatWithoutField format => "Invalid format '" ++ format ++ "' for '%' style"
  | .unknownLevel level => "Unknown level: " ++ quoted level
  | .levelIsStyles =>
    "Level not an integer or a valid string: \x7b" ++
      ", ".intercalate (formatStyles.map FormatStyle.shown) ++ "\x7d"

/-- A form of log lines that has a field somewhere, as the source of a regular expression for
`hasField`. -/
def fieldSource : String :=
  "[\\s\\S]*%\\(\\w+\\)[#0+ -]*(\\*|\\d+)?(\\.(\\*|\\d+))?[diouxefgcrsa%][\\s\\S]*"

/-- Whether a form of log lines has a field: the expression of `fieldSource` matches all of it. -/
def hasField (format : String) : Bool :=
  match Regex.compile fieldSource with
  | .ok regex => (regex.matchesAll true format).toOption.getD false
  | .error _ => false

/-- The shortest form of log lines. Its name `BASIC_FORMAT` is one that a level can have by mistake.
-/
def basicFormat : String :=
  "%(levelname)s:%(name)s:%(message)s"

/-- What is wrong with a form of log lines. One that does not count as true by `Value.truth` is not
looked at. -/
def formatFault? (format : Value) : Option LoggingFault :=
  if !format.truth then none
  else
    match format with
    | .scalar (.text text) => if hasField text then none else some (.formatWithoutField text)
    | .scalar (.bytes _) => some .formatInBytes
    | other => some (.formatNotText other.kindName)

/-- What is wrong with the text of a level, in upper case by `upper`. Names of no level stand for
the usual one. -/
def levelFault? (level : String) : Option LoggingFault :=
  match String.ofList (level.toList.flatMap upper) with
  | "BASIC_FORMAT" => some (.unknownLevel basicFormat)
  | "_STYLES" => some .levelIsStyles
  | _ => none

/-- **What is wrong with the settings for the log**, if anything is: the level has to be a text, and
`formatFault?` comes before `levelFault?`. -/
def loggingFault? (configuration : Configuration) : Option LoggingFault :=
  match configuration.value .level with
  | .scalar (.text level) => (formatFault? (configuration.value .format)).or (levelFault? level)
  | .scalar (.bytes _) => some .levelInBytes
  | other => some (.levelNotText other.kindName)

end TreeSift.Config
