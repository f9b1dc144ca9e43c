import TreeSift.Yaml.Collection
import TreeSift.Yaml.Content
import TreeSift.Yaml.Lexer
import TreeSift.Yaml.Merge

/-! # Reading YAML

`read` reads the value of the document in a YAML text, or says why it is refused. A text without a
document is nothing. Values are made level by level: a collection is empty at first, and gets its
parts when those that were met before it have theirs. Of several faults the one that is met first in
this order counts. -/

namespace TreeSift.Yaml

open TreeSift.Document

/-- What is known while values are made, the state of a `Build`. -/
structure BuildState where
  /-- The nodes, some of which have been merged. -/
  nodes : Array Node
  /-- The collections of nodes. -/
  collections : Collections
  /-- The nodes whose collections wait for their parts, the last one first. -/
  waiting : List NodeId := []

/-- A step that makes values, which a `Refusal` ends. -/
abbrev Build := StateT BuildState (Except Refusal)

namespace Build

/-- The node in a place. -/
def nodeAt (id : NodeId) : Build Node := do
  match (← get).nodes[id]? with
  | some node => return node
  | none => throw .malformed

/-- The text of a node that has to be a scalar. A mapping has the text of its value key, the one
with `Tag.value`. The first argument bounds the mappings on the way; there are more only if they
lead to themselves. -/
def scalarText : Nat → NodeId → Build String
  | 0, _ => throw .endless
  | bound + 1, id => do
    match (← nodeAt id).shape with
    | .scalar content => return content
    | .list _ => throw .malformed
    | .mapping entries =>
      let nodes := (← get).nodes
      match entries.find? fun entry => nodes[entry.1]?.map Node.tag == some .value with
      | some (_, value) => scalarText bound value
      | none => throw .malformed

/-- The empty collection of a tag, which `fill` gives its parts later. -/
def emptyOf? : Tag → Option Collection
  | .list => some (.list [])
  | .pairs | .orderedMapping => some (.pairs [])
  | .set => some (.set [])
  | .mapping => some (.mapping [])
  | _ => none

/-- The collection of a node, which is put among those `waiting` for their parts if it is met for
the first time. -/
def collectionPart (id : NodeId) (empty : Collection) : Build Part := do
  modify fun s =>
    if (s.collections[id]?.join).isSome then s
    else
      { s with
        collections := s.collections.set! id (some empty)
        waiting := id :: s.waiting }
  return .collection id

/-- **The part that a node makes.** The value of a scalar is found at once, by `Tag.scalarValue`,
and a collection is left to `collectionPart`. -/
def part (id : NodeId) : Build Part := do
  let node ← nodeAt id
  match emptyOf? node.tag with
  | some empty => collectionPart id empty
  | none =>
    if node.tag.hasScalars then
      let content ← scalarText ((← get).nodes.size + 1) id
      -- the form of a date is asked of the node itself, which has no text if it is a mapping
      if node.tag == .timestamp && !node.shape.isScalar then throw .mappingForTimestamp
      return .scalar (← (node.tag.scalarValue content : Except Refusal Scalar))
    else throw .malformed

/-- The scalar that a key makes; a `Part.collection` is refused as one. -/
def key (id : NodeId) : Build Scalar := do
  match ← part id with
  | .scalar value => return value
  | .collection _ => throw .malformed

/-! ## Parts of collections -/

/-- The items of a node, which has to be a list. -/
def itemsOf (id : NodeId) : Build (List NodeId) := do
  match (← nodeAt id).shape with
  | .list items => return items
  | _ => throw .malformed

/-- The entries of a node after its merge by `Merge.node`, which has to be a mapping. -/
def mergedEntries (depth : Nat) (id : NodeId) : Build (List NodeEntry) := do
  let s ← get
  let (entries, nodes) ← (Merge.mergedEntries (Merge.node depth) id).run s.nodes
  set { s with nodes }
  return entries

/-- The keys and values of entries, each `key` before its value. -/
def entryParts (entries : List NodeEntry) : Build (List (Scalar × Part)) :=
  entries.mapM fun entry => do return (← key entry.1, ← part entry.2)

/-- The pair that a node makes, which has to be a mapping with one entry. -/
def pairParts (id : NodeId) : Build (Part × Part) := do
  match (← nodeAt id).shape with
  | .mapping [entry] => return (← part entry.1, ← part entry.2)
  | _ => throw .malformed

/-- The collection of a node with its parts, given the empty one of `emptyOf?`. -/
def filled (depth : Nat) (id : NodeId) : Collection → Build Collection
  | .list _ => do return .list (← (← itemsOf id).mapM part)
  | .pairs _ => do return .pairs (← (← itemsOf id).mapM pairParts)
  | .set _ => do
    let entries ← entryParts (← mergedEntries depth id)
    return .set ((collectEntries entries).map Prod.fst)
  | .mapping _ => do return .mapping (collectEntries (← entryParts (← mergedEntries depth id)))

/-- Gives the collection of a node its parts, as `filled` finds them. -/
def fill (depth : Nat) (id : NodeId) : Build Unit := do
  match (← get).collections[id]?.join with
  | none => pure ()
  | some empty =>
    let collection ← filled depth id empty
    modify fun s => { s with collections := s.collections.set! id (some collection) }

/-- Gives all collections that wait their parts, level by level, in the order in which
`collectionPart` met them. There are no more levels than nodes. -/
def fillAll (depth : Nat) : Nat → Build Unit
  | 0 => pure ()
  | levels + 1 => do
    let s ← get
    if s.waiting.isEmpty then pure ()
    else
      set { s with waiting := [] }
      s.waiting.reverse.forM (fill depth)
      fillAll depth levels

end Build

/-- **The value that a graph makes**: `Build.part` at its root, `Build.fillAll` for what is below,
and `Collections.value` to unfold it. -/
def Graph.value (graph : Graph) : Except Refusal Value := do
  let size := graph.nodes.size
  let build : Build Part := do
    let root ← Build.part graph.root
    Build.fillAll (graph.entryCount + 1) (size + 1)
    return root
  let (root, state) ← build.run { nodes := graph.nodes, collections := Array.replicate size none }
  return state.collections.value root

/-- **The value of the document in a YAML text**: `Token.ofText`, `Graph.ofTokens` and
`Graph.value`, one after the other. -/
def read (text : String) : Except Refusal Value := do
  match ← Graph.ofTokens (Token.ofText text.toList) with
  | none => return .null
  | some graph => graph.value

end TreeSift.Yaml
