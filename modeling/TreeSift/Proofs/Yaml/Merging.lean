import TreeSift.Proofs.Yaml.Nodes
import TreeSift.Yaml.Merge

/-! # Mappings without merge keys

A mapping whose keys are texts or truth values keeps its entries when it is merged
(`Merge.run_mergedEntries`). -/

namespace TreeSift.Yaml

open TreeSift.Document

variable {nodes : Array Node} {id : NodeId}

/-- The keys of the entries `ids` are texts or truth values, so that none is a merge key. -/
def HasPlainKeys (nodes : Array Node) (ids : List (NodeId × NodeId)) : Prop :=
  ∀ entry ∈ ids, ∃ scalar, IsPlainScalar scalar ∧ nodes[entry.1]? = some (scalarNode scalar)

namespace Merge

variable {tag : Tag} {ids : List (NodeId × NodeId)} {merge : NodeId → Merge Unit}

/-- A mapping has its entries, by `entriesOf`. -/
theorem run_entriesOf (h : nodes[id]? = some ⟨tag, .mapping ids⟩) :
    (entriesOf id).run nodes = .ok (ids, nodes) := by
  rw [entriesOf, run_get_bind, h]
  rfl

/-- A mapping may get the entries that it has: `setEntries` changes nothing. -/
theorem run_setEntries (h : nodes[id]? = some ⟨tag, .mapping ids⟩) :
    (setEntries id ids).run nodes = .ok ((), nodes) := by
  have hsame : nodes.modify id (fun node => { node with shape := .mapping ids }) = nodes := by
    refine Array.ext_getElem? fun other => ?_
    rw [Array.getElem?_modify]
    split
    · next heq => rw [← heq, h]; rfl
    · rfl
  exact congrArg (fun after => Except.ok ((), after)) hsame

/-- Nothing is merged where no key asks for it: `entries` passes all of them. -/
theorem run_entries (h : nodes[id]? = some ⟨tag, .mapping ids⟩) {left : List (NodeId × NodeId)}
    (hkeys : HasPlainKeys nodes left) (passed : List (NodeId × NodeId)) :
    (entries merge id passed [] left).run nodes = .ok ((), nodes) := by
  induction left generalizing passed with
  | nil =>
      rw [entries]
      exact (run_bind_of_run (run_entriesOf h)).trans (run_setEntries h)
  | cons entry left ih =>
      obtain ⟨⟨scalar, hplain, hkey⟩, hkeys⟩ := List.forall_mem_cons.1 hkeys
      rw [entries, run_get_bind, hkey]
      rcases hplain with ⟨text, rfl⟩ | ⟨b, rfl⟩
      · exact ih hkeys _
      · exact ih hkeys _

/-- A mapping has its own entries after its merge, by `mergedEntries`. -/
theorem run_mergedEntries (h : nodes[id]? = some ⟨tag, .mapping ids⟩) (hkeys : HasPlainKeys nodes ids)
    (depth : Nat) : (mergedEntries (node (depth + 1)) id).run nodes = .ok (ids, nodes) := by
  have hnode : (node (depth + 1) id).run nodes = .ok ((), nodes) := by
    rw [node]
    exact (run_bind_of_run (run_entriesOf h)).trans (run_entries h hkeys [])
  rw [mergedEntries]
  refine (run_bind_of_run (run_entriesOf h)).trans ?_
  exact (run_bind_of_run hnode).trans (run_entriesOf h)

end Merge

end TreeSift.Yaml
