/-! # Syntax of regular expressions

`Node` is a parsed regular expression. Flags that a group turns on or off stand in the tree as
`scope` nodes; those in force where the expression starts are kept beside it (`Flags`).

`Node.width` bounds the number of characters that an expression can cover, as look-behind needs
it. -/

namespace TreeSift.Regex

/-- The flags that change what an expression means, for `CharTest.covered` and `Anchor.holds` above
all. -/
structure Flags where
  /-- Letters match in either case. -/
  ignoreCase : Bool := false
  /-- The line anchors hold at every line. -/
  multiline : Bool := false
  /-- A dot matches the line feed too. -/
  dotAll : Bool := false
  /-- Blanks and comments in the source are skipped. -/
  verbose : Bool := false
  /-- The classes of digits, blanks and word characters are those of ASCII. -/
  ascii : Bool := false
  /-- The classes of digits, blanks and word characters are those of Unicode. -/
  unicode : Bool := false
  /-- Repetition is refused. -/
  template : Bool := false
  deriving DecidableEq, Repr

namespace Flags

/-- Whether two sets of flags share one. -/
def overlap (f g : Flags) : Bool :=
  f.ignoreCase && g.ignoreCase || f.multiline && g.multiline || f.dotAll && g.dotAll ||
    f.verbose && g.verbose || f.ascii && g.ascii || f.unicode && g.unicode ||
    f.template && g.template

/-- The flags of both sets. -/
def union (f g : Flags) : Flags where
  ignoreCase := f.ignoreCase || g.ignoreCase
  multiline := f.multiline || g.multiline
  dotAll := f.dotAll || g.dotAll
  verbose := f.verbose || g.verbose
  ascii := f.ascii || g.ascii
  unicode := f.unicode || g.unicode
  template := f.template || g.template

/-- The flags of the first set that the second one lacks. -/
def remove (f g : Flags) : Flags where
  ignoreCase := f.ignoreCase && !g.ignoreCase
  multiline := f.multiline && !g.multiline
  dotAll := f.dotAll && !g.dotAll
  verbose := f.verbose && !g.verbose
  ascii := f.ascii && !g.ascii
  unicode := f.unicode && !g.unicode
  template := f.template && !g.template

/-- The flags inside a group that adds some and drops others. Choosing the classes of ASCII or of
Unicode undoes an earlier choice. -/
def enter (f add drop : Flags) : Flags :=
  let base := if add.ascii || add.unicode then { f with ascii := false, unicode := false } else f
  (base.union add).remove drop

end Flags

/-- The named classes of characters. -/
inductive Category where
  /-- Decimal digits. -/
  | digit
  /-- Blanks. -/
  | space
  /-- Letters, numerals and the underscore. -/
  | word
  deriving DecidableEq, Repr

/-- One member of a character set. -/
inductive SetItem where
  /-- One code point. -/
  | code (code : Nat)
  /-- All code points between two, these included. -/
  | range (first last : Nat)
  /-- A class, or what lies outside of it. -/
  | category (category : Category) (negated : Bool)
  deriving DecidableEq, Repr

/-- What covers exactly one character. -/
inductive CharTest where
  /-- One code point. -/
  | code (code : Nat)
  /-- Any code point but one. -/
  | notCode (code : Nat)
  /-- Any character, the line feed only where flags allow it. -/
  | any
  /-- A character that some item holds, or that none holds. -/
  | set (negated : Bool) (items : List SetItem)
  deriving DecidableEq, Repr

/-- Conditions on a position. -/
inductive Anchor where
  /-- `^`: the start of the text, or of a line. -/
  | lineStart
  /-- `$`: the end of the text, before a final line feed, or the end of a line. -/
  | lineEnd
  /-- `\A`: the start of the text. -/
  | textStart
  /-- `\Z`: the end of the text. -/
  | textEnd
  /-- `\b`: a word character on exactly one side. -/
  | wordBoundary
  /-- `\B`: word characters on both sides or on none. -/
  | notWordBoundary
  deriving DecidableEq, Repr

/-- Which number of iterations a repetition tries first. -/
inductive Greed where
  /-- As many as possible. -/
  | greedy
  /-- As few as possible. -/
  | reluctant
  /-- As many as possible, and never fewer. -/
  | possessive
  deriving DecidableEq, Repr

/-- **Regular expressions** as the reader makes them, for `Matcher.ofNode` to try. -/
inductive Node where
  /-- Covers nothing. -/
  | empty
  /-- Matches nowhere. -/
  | fail
  /-- Covers one character. -/
  | one (test : CharTest)
  /-- Covers nothing, at certain positions. -/
  | anchor (anchor : Anchor)
  /-- One expression after another. -/
  | seq (first rest : Node)
  /-- Either of two expressions, the left one preferred. A choice on the right goes on with more
  alternatives. -/
  | alt (left right : Node)
  /-- An expression several times over; without `max`, any number of times. -/
  | loop (greed : Greed) (min : Nat) (max : Option Nat) (body : Node)
  /-- A numbered group. -/
  | group (index : Nat) (body : Node)
  /-- An expression under changed flags. -/
  | scope (add drop : Flags) (body : Node)
  /-- What follows the position does match, or does not. -/
  | lookAhead (negated : Bool) (body : Node)
  /-- What precedes the position does match, or does not. -/
  | lookBehind (negated : Bool) (body : Node)
  /-- An expression of which only the first match counts. -/
  | atomic (body : Node)
  /-- The text that a group has covered. -/
  | backref (index : Nat)
  /-- One expression if a group has matched, and another one if not. -/
  | ifGroup (index : Nat) (yes no : Node)
  deriving Repr

namespace Node

/-- Expressions one after the other. -/
def ofList : List Node → Node
  | [] => .empty
  | [n] => n
  | n :: ns => .seq n (ofList ns)

/-- Whether an expression covers nothing, and is not written with any part. -/
def isEmpty : Node → Bool
  | .empty => true
  | _ => false

/-- Whether an expression is a choice. -/
def isChoice : Node → Bool
  | .alt .. => true
  | _ => false

/-- A choice between expressions, from left to right. A choice that is itself the last one of them
stays one alternative. -/
def oneOf : List Node → Node
  | [] => .fail
  | [n] => if n.isChoice then .scope {} {} n else n
  | n :: ns => .alt n (oneOf ns)

/-- Whether two expressions without parts are equal. -/
def sameLeaf : Node → Node → Bool
  | .one s, .one t => s == t
  | .anchor a, .anchor b => a == b
  | .backref i, .backref j => i == j
  | .fail, .fail => true
  | _, _ => false

end Node

/-- The number of iterations, and of characters, from which on there is no bound. -/
def repetitionLimit : Nat :=
  4294967295

/-- The least and the greatest number of characters that an expression covers, as `Node.width` finds
them. -/
structure Width where
  /-- The least number of characters. -/
  min : Nat
  /-- The greatest number of characters; `repetitionLimit` means that there is none. -/
  max : Nat
  deriving DecidableEq, Repr

namespace Width

/-- A width with both bounds cut at the limit. -/
def clip (min max : Nat) : Width :=
  ⟨Nat.min min (repetitionLimit - 1), Nat.min max repetitionLimit⟩

/-- The width of two expressions in a row. -/
def add (v w : Width) : Width :=
  clip (v.min + w.min) (v.max + w.max)

/-- The width of a choice. -/
def join (v w : Width) : Width :=
  ⟨Nat.min v.min w.min, Nat.max v.max w.max⟩

/-- Whether every match has the same number of characters. -/
def isFixed (w : Width) : Bool :=
  w.min == w.max

end Width

/-- **How many characters an expression covers**, given the widths of the groups that a `backref`
repeats. -/
def Node.width (groups : Nat → Width) : Node → Width
  | .empty | .fail | .anchor _ | .lookAhead _ _ | .lookBehind _ _ => ⟨0, 0⟩
  | .one _ => ⟨1, 1⟩
  | .seq first rest => (first.width groups).add (rest.width groups)
  | .alt left right => (left.width groups).join (right.width groups)
  | .loop _ min max body =>
    let w := body.width groups
    .clip (w.min * min) (w.max * max.getD repetitionLimit)
  | .group _ body | .scope _ _ body | .atomic body => body.width groups
  | .backref index => groups index
  | .ifGroup _ yes no => (yes.width groups).join (no.width groups)

end TreeSift.Regex
