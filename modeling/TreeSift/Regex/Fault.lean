import TreeSift.Text.Position
import TreeSift.Text.Quoted

/-! # Faults in regular expressions

`Problem` lists what can be wrong with the source of a regular expression, and `Problem.message`
words it. A `Fault` is a problem with the position where it was met; `Fault.message` adds the
position, and line and column if the source has several lines. -/

namespace TreeSift.Regex

open TreeSift.Text (lineOf columnOf)

/-- **What can be wrong with the source of a regular expression**, worded by `Problem.message`. -/
inductive Problem where
  /-- A backslash ends the source. -/
  | escapeAtEnd
  /-- An escape that means nothing. -/
  | badEscape (escape : String)
  /-- A numeric escape with too few digits. -/
  | incompleteEscape (escape : String)
  /-- An octal escape above `\377`. -/
  | octalTooLarge (escape : String)
  /-- `\N` without a brace. -/
  | missingBrace
  /-- `\N` with a name that no character has. -/
  | undefinedCharacter (name : String)
  /-- A name that should be there is empty. -/
  | missingName (what : String)
  /-- A name that is not ended. -/
  | unterminatedName (terminator : Char)
  /-- A group that does not exist. -/
  | invalidReference (index : Nat)
  /-- A group that is not closed yet. -/
  | openGroup
  /-- A group that is defined in the same look-behind. -/
  | sameLookBehind
  /-- A name that no group has. -/
  | unknownName (name : String)
  /-- A name that cannot be one. -/
  | badName (name : String)
  /-- A second group with the same name. -/
  | redefinedName (name : String) (index earlier : Nat)
  /-- Group zero. -/
  | badGroupNumber
  /-- A conditional with more than two branches. -/
  | conditionalBranches
  /-- A set that is not closed. -/
  | unterminatedSet
  /-- A range whose ends are no characters in order. -/
  | badRange (first last : String)
  /-- Bounds of a repetition that exclude each other. -/
  | repeatBounds
  /-- A repetition of nothing. -/
  | nothingToRepeat
  /-- A repetition of a repetition. -/
  | multipleRepeat
  /-- An extension that ends too early. -/
  | unexpectedEnd
  /-- An extension that does not exist. -/
  | unknownExtension (text : String)
  /-- A comment that is not closed. -/
  | unterminatedComment
  /-- A group that is not closed. -/
  | unterminatedGroup
  /-- A closing parenthesis without an opening one. -/
  | unbalanced
  /-- A letter that is no flag. -/
  | unknownFlag
  /-- A flag should stand here. -/
  | missingFlag
  /-- Flags to turn on should go on or end here. -/
  | missingFlagEnd
  /-- Flags to turn off should end here. -/
  | missingColon
  /-- Flags for the whole expression that stand inside of it. -/
  | flagsNotAtStart
  /-- The locale flag. -/
  | localeFlag
  /-- Two flags that choose the classes of characters. -/
  | clashingClassFlags
  /-- A flag for the classes of characters that is turned off. -/
  | classFlagOff
  /-- A flag of the whole expression that is turned on for a part. -/
  | globalFlagOn
  /-- A flag of the whole expression that is turned off for a part. -/
  | globalFlagOff
  /-- A flag that is turned on and off at once. -/
  | flagOnAndOff
  /-- A look-behind whose width varies. -/
  | variableLookBehind
  /-- A repetition where the template flag refuses it. -/
  | templateRepeat (operator : String)
  deriving DecidableEq, Repr

/-- The wording of a `Problem`. -/
def Problem.message : Problem → String
  | .escapeAtEnd => "bad escape (end of pattern)"
  | .badEscape escape => "bad escape " ++ escape
  | .incompleteEscape escape => "incomplete escape " ++ escape
  | .octalTooLarge escape =>
    "octal escape value " ++ escape ++ " outside of range 0-0o377"
  | .missingBrace => "missing \x7b"
  | .undefinedCharacter name => "undefined character name " ++ Text.quoted name
  | .missingName what => "missing " ++ what
  | .unterminatedName terminator =>
    "missing " ++ String.singleton terminator ++ ", unterminated name"
  | .invalidReference index => "invalid group reference " ++ toString index
  | .openGroup => "cannot refer to an open group"
  | .sameLookBehind => "cannot refer to group defined in the same lookbehind subpattern"
  | .unknownName name => "unknown group name " ++ Text.quoted name
  | .badName name => "bad character in group name " ++ Text.quoted name
  | .redefinedName name index earlier =>
    "redefinition of group name " ++ Text.quoted name ++ " as group " ++ toString index ++
      "; was group " ++ toString earlier
  | .badGroupNumber => "bad group number"
  | .conditionalBranches => "conditional backref with more than two branches"
  | .unterminatedSet => "unterminated character set"
  | .badRange first last => "bad character range " ++ first ++ "-" ++ last
  | .repeatBounds => "min repeat greater than max repeat"
  | .nothingToRepeat => "nothing to repeat"
  | .multipleRepeat => "multiple repeat"
  | .unexpectedEnd => "unexpected end of pattern"
  | .unknownExtension text => "unknown extension " ++ text
  | .unterminatedComment => "missing ), unterminated comment"
  | .unterminatedGroup => "missing ), unterminated subpattern"
  | .unbalanced => "unbalanced parenthesis"
  | .unknownFlag => "unknown flag"
  | .missingFlag => "missing flag"
  | .missingFlagEnd => "missing -, : or )"
  | .missingColon => "missing :"
  | .flagsNotAtStart => "global flags not at the start of the expression"
  | .localeFlag => "bad inline flags: cannot use 'L' flag with a str pattern"
  | .clashingClassFlags => "bad inline flags: flags 'a', 'u' and 'L' are incompatible"
  | .classFlagOff => "bad inline flags: cannot turn off flags 'a', 'u' and 'L'"
  | .globalFlagOn => "bad inline flags: cannot turn on global flag"
  | .globalFlagOff => "bad inline flags: cannot turn off global flag"
  | .flagOnAndOff => "bad inline flags: flag turned on and off"
  | .variableLookBehind => "look-behind requires fixed-width pattern"
  | .templateRepeat operator => "internal: unsupported template operator " ++ operator

/-- A `Problem`, and the position in the source where it was met, if it has one. -/
structure Fault where
  /-- What is wrong. -/
  problem : Problem
  /-- The number of characters before the position. -/
  position? : Option Nat
  deriving DecidableEq, Repr

/-- **The wording of a fault in a source text**, with its line and column if the text has several
lines. -/
def Fault.message (fault : Fault) (source : String) : String :=
  match fault.position? with
  | none => fault.problem.message
  | some position =>
    let text := source.toList
    let place := fault.problem.message ++ " at position " ++ toString position
    if '\n' ∈ text then
      place ++ " (line " ++ toString (lineOf text position) ++ ", column " ++
        toString (columnOf text position) ++ ")"
    else place

/-- **Why a regular expression is refused.** Only `malformed` is what the syntax provides for; the
others come from numbers and flags that no expression can have. -/
inductive Refusal where
  /-- The source is malformed. -/
  | malformed (fault : Fault)
  /-- The code of an escape `\U` is `codeLimit` or more. -/
  | codeTooLarge
  /-- A bound of a repetition is `repetitionLimit` or more. -/
  | repetitionTooLarge
  /-- A bound of a repetition has too many digits. -/
  | boundTooLong (digits : Nat)
  /-- Flags for the whole expression choose both the classes of ASCII and those of Unicode. -/
  | clashingFlags
  deriving DecidableEq, Repr

end TreeSift.Regex
