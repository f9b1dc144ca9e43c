import TreeSift.Yaml.Refusal

/-! # Tokens of YAML

The tokens that a YAML text is made of: indicators, marks of documents, scalars, and the starts and
ends of collections that indentation alone shows. -/

namespace TreeSift.Yaml

/-- A line that says something about the document after it. -/
inductive Directive where
  /-- The version of the format. -/
  | version (major : Nat)
  /-- A handle that stands for the start of tags. -/
  | handle (name start : String)
  /-- Any other directive. -/
  | other
  deriving DecidableEq, Repr

/-- **A token.** -/
inductive Token where
  /-- A directive. -/
  | directive (directive : Directive)
  /-- The mark of the start of a document. -/
  | documentStart
  /-- The mark of the end of a document. -/
  | documentEnd
  /-- A list by indentation starts. -/
  | blockListStart
  /-- A mapping by indentation starts. -/
  | blockMappingStart
  /-- A list or mapping by indentation ends. -/
  | blockEnd
  /-- A list in brackets starts. -/
  | flowListStart
  /-- A list in brackets ends. -/
  | flowListEnd
  /-- A mapping in braces starts. -/
  | flowMappingStart
  /-- A mapping in braces ends. -/
  | flowMappingEnd
  /-- A comma between items or entries. -/
  | comma
  /-- A hyphen before an item. -/
  | item
  /-- A key follows. -/
  | key
  /-- A value follows. -/
  | value
  /-- A name that stands for a node. -/
  | alias (name : String)
  /-- A name for the node that follows. -/
  | anchor (name : String)
  /-- A tag, with its handle unless it is written in full. -/
  | tag (handle? : Option String) (suffix : String)
  /-- A scalar. A plain one has no mark. -/
  | scalar (content : String) (plain : Bool)
  /-- The text cannot be read further. -/
  | broken (refusal : Refusal)
  deriving DecidableEq, Repr

end TreeSift.Yaml
