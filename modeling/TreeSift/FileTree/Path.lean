import TreeSift.Text.Split

/-! # Paths

A `Path` is a path text in normal form: its root and its parts, without empty parts and without
single dots. Double dots are kept, since what they mean depends on links. `Path.text` writes a path
out, and `Path.join` appends to one. -/

namespace TreeSift

open TreeSift.Text (splitWhere)

/-- **A path in normal form**: a root and the parts that `isKept` accepts. -/
structure Path where
  /-- The slashes at the start: none, one, or exactly two. -/
  root : String
  /-- The parts between slashes. -/
  parts : List String
  deriving DecidableEq, Repr

namespace Path

/-- The root of a path text. Exactly two slashes are a root of their own, `//`. -/
def rootOf : List Char → String
  | '/' :: '/' :: '/' :: _ => "/"
  | '/' :: '/' :: _ => "//"
  | '/' :: _ => "/"
  | _ => ""

/-- A part is kept in normal form: it is neither empty nor `.`. A part `..` is kept, as links may be
in front of it. -/
def isKept (part : List Char) : Bool :=
  part != [] && part != ['.']

/-- The parts of a path text between slashes that `isKept` accepts. -/
def partsOf (text : List Char) : List String :=
  ((splitWhere (· == '/') text).filter isKept).map String.ofList

/-- **The path that a text writes**: its `rootOf` and its `partsOf`. -/
def ofText (text : String) : Path :=
  ⟨rootOf text.toList, partsOf text.toList⟩

/-- The text of a path; the path without root and parts is a single dot, `.`. -/
def text (path : Path) : String :=
  let text := path.root ++ "/".intercalate path.parts
  if text.isEmpty then "." else text

/-- A path below another one, unless the text has a root of its own, which `rootOf` finds. -/
def join (path : Path) (text : String) : Path :=
  let other := ofText text
  if other.root.isEmpty then ⟨path.root, path.parts ++ other.parts⟩ else other

/-- The path of the entry `name` of a directory. -/
def child (path : Path) (name : String) : Path :=
  ⟨path.root, path.parts ++ [name]⟩

/-- The path without its last part; the path of a root is its own `parent`. -/
def parent (path : Path) : Path :=
  ⟨path.root, path.parts.dropLast⟩

/-- The last part of a path, or `""` if it has none. -/
def name (path : Path) : String :=
  path.parts.getLast?.getD ""

/-- The last part from its last dot on, unless the dot begins or ends it: what `Format.ofSuffix?`
asks for. -/
def suffix (path : Path) : String :=
  let chars := path.name.toList
  let afterDot := (chars.reverse.takeWhile (· != '.')).reverse
  let beforeDot := chars.take (chars.length - afterDot.length - 1)
  if afterDot.length = chars.length ∨ beforeDot.isEmpty ∨ afterDot.isEmpty then ""
  else String.ofList ('.' :: afterDot)

/-- The same path from the root of the file tree, `/`, where relative paths start. -/
def absolute (path : Path) : Path :=
  if path.root.isEmpty then ⟨"/", path.parts⟩ else path

/-- The parts of a path that come after those of `base`, if it starts with these and has the same
root. -/
def partsAfter? (path base : Path) : Option (List String) :=
  if path.root = base.root ∧ base.parts.isPrefixOf path.parts then
    some (path.parts.drop base.parts.length)
  else none

end Path

/-- A name below a relative path, of which `""` is the base directory. -/
def joinRelative (parent name : String) : String :=
  if parent.isEmpty then name else parent ++ "/" ++ name

end TreeSift
