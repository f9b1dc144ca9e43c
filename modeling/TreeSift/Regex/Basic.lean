import TreeSift.Regex.Match
import TreeSift.Regex.Reader

/-! # Regular expressions

A `Regex` is an expression that has been read from its source with the flags and group widths that
belong to it. `Regex.compile` reads one, and `Regex.matchesAll` says whether it covers a whole
text. -/

namespace TreeSift

open TreeSift.Regex

/-- **A compiled regular expression**, as `compile` makes it. -/
structure Regex where
  /-- The expression. -/
  node : Node
  /-- The flags in force where it starts. -/
  flags : Flags
  /-- The widths of its groups. -/
  groups : List Width

/-- A match in which a group ends before it begins, as `Trail.isCrossed` finds it. -/
structure CrossedGroup where
  /-- The group. -/
  group : Nat
  deriving DecidableEq, Repr

/-- The wording for a match with a crossed group. -/
def CrossedGroup.message (_ : CrossedGroup) : String :=
  "The span of capturing group is wrong, please report a bug for the re module."

namespace Regex

/-- Compiles the source of a regular expression, or says by a `Refusal` why it is refused. -/
def compile (source : String) : Except Refusal Regex := do
  let chars := source.toList
  let cursor ←
    match Cursor.ofSource chars with
    | .ok cursor => pure cursor
    | .error fault => throw (.malformed fault)
  let ((node, flags, groups), _) ← (readAll chars.length).run { cursor, flags := {} }
  return { node, flags, groups }

/-- **Whether an expression covers a whole text**, by `Matcher.ofNode`. No text is shorter than the
least width; a match of which a group is crossed is an error. -/
def matchesAll (regex : Regex) (ignoreCase : Bool) (text : String) : Except CrossedGroup Bool :=
  let chars := text.toList.toArray
  let subject : Subject := ⟨chars, regex.groups⟩
  let flags := { regex.flags with ignoreCase := regex.flags.ignoreCase || ignoreCase }
  let atEnd : Next := fun position trail =>
    if position = chars.size then .matched (trail.moveTo position) else .failed trail
  if chars.size < (regex.node.width subject.width).min then .ok false
  else
    match (Matcher.ofNode subject { flags } regex.node).run atEnd 0 { reached := 0 } with
    | .failed _ => .ok false
    | .matched trail =>
      match (List.range' 1 (regex.groups.length - 1)).find? trail.isCrossed with
      | some group => .error ⟨group⟩
      | none => .ok true

end Regex

end TreeSift
