import TreeSift.Yaml.Node

/-! # Merge keys

The key `<<` brings the entries of other mappings into its own mapping, in front of the entries that
are written out, so that these win. `Merge.node` carries this out on a mapping. A mapping may bring
in itself: its merge keys are taken away before they are followed, so that this comes to an end. -/

namespace TreeSift.Yaml

/-- An entry of a mapping by the places of its key and its value, each a `NodeId`. -/
abbrev NodeEntry := NodeId × NodeId

/-- A step that changes the nodes of a graph, or refuses them with a `Refusal`. -/
abbrev Merge := StateT (Array Node) (Except Refusal)

/-- The number of all entries, which merge keys are among: a bound for `Merge.node`. -/
def Graph.entryCount (graph : Graph) : Nat :=
  graph.nodes.foldl (fun count node =>
    match node.shape with
    | .mapping entries => count + entries.length
    | _ => count) 0

namespace Merge

/-- The entries of a node, which has to be a mapping. -/
def entriesOf (id : NodeId) : Merge (List NodeEntry) := do
  match (← get)[id]?.map Node.shape with
  | some (.mapping entries) => return entries
  | _ => throw .malformed

/-- Gives a mapping other entries. -/
def setEntries (id : NodeId) (entries : List NodeEntry) : Merge Unit :=
  modify fun nodes => nodes.modify id fun node => { node with shape := .mapping entries }

/-- The entries of a mapping after its own merge by `node`. -/
def mergedEntries (node : NodeId → Merge Unit) (id : NodeId) : Merge (List NodeEntry) := do
  -- what is no mapping is refused before anything is merged
  let _ ← entriesOf id
  node id
  entriesOf id

/-- The entries that the value of a merge key brings in: the `mergedEntries` of a mapping, or those
of a list of mappings, of which the earlier ones win. -/
def broughtIn (node : NodeId → Merge Unit) (value : NodeId) : Merge (List NodeEntry) := do
  match (← get)[value]?.map Node.shape with
  | some (.list items) => return (← items.mapM (mergedEntries node)).reverse.flatten
  | _ => mergedEntries node value

/-- Follows the merge keys among the entries of a mapping that are left, given those that have been
passed, the last one first, and what has been brought in. A key that has the tag of the value that
stands for a mapping becomes a text. -/
def entries (node : NodeId → Merge Unit) (id : NodeId) (passed brought : List NodeEntry) :
    List NodeEntry → Merge Unit
  | [] => do setEntries id (brought ++ (← entriesOf id))
  | (key, value) :: left => do
    match (← get)[key]?.map Node.tag with
    | some .merge =>
      let others := passed.reverse ++ left
      setEntries id others
      let brought := brought ++ (← broughtIn node value)
      let found ← entriesOf id
      -- a mapping that brought in itself has lost its other merge keys on the way
      if found == others then entries node id passed brought left
      else setEntries id (brought ++ found)
    | some .value =>
      modify fun nodes => nodes.modify key fun node => { node with tag := .text }
      entries node id ((key, value) :: passed) brought left
    | _ => entries node id ((key, value) :: passed) brought left

/-- **Merges a mapping** by `entries`, and the mappings that it brings in before it. The first
argument bounds how deep this goes; each level takes away a merge key. -/
def node : Nat → NodeId → Merge Unit
  | 0, _ => throw .malformed
  | depth + 1, id => do entries (node depth) id [] [] (← entriesOf id)

end Merge

end TreeSift.Yaml
