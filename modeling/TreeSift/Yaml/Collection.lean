import TreeSift.Document.Value
import TreeSift.Yaml.Node

/-! # Collections

The lists, sets and mappings that the nodes of a document make. Their parts are scalars, and other
collections by the places of their nodes, so that a collection may hold itself.
`Collections.value` unfolds them into a value. -/

namespace TreeSift.Yaml

open TreeSift.Document

/-- A part of a `Collection`, which names other collections and does not hold them. -/
inductive Part where
  /-- A scalar. -/
  | scalar (value : Scalar)
  /-- The collection of a node. -/
  | collection (id : NodeId)

/-- **A collection**, whose parts are a `Part` each. -/
inductive Collection where
  /-- A list. -/
  | list (items : List Part)
  /-- A list of pairs. -/
  | pairs (items : List (Part × Part))
  /-- A set. -/
  | set (members : List Scalar)
  /-- A mapping. -/
  | mapping (entries : List (Scalar × Part))

/-- The collections of a document by their nodes; what has no collection has `none`. -/
abbrev Collections := Array (Option Collection)

namespace Collection

/-- The word for the kind of a collection, that of the `Value` that it makes. -/
def kindName : Collection → String
  | .list _ | .pairs _ => (Value.list []).kindName
  | .set _ => (Value.set []).kindName
  | .mapping _ => (Value.mapping []).kindName

/-- The value of a collection, given how the values of its parts are found. Pairs are a list of
`Value.pair`. -/
def value {m : Type → Type} [Monad m] (part : Part → m Value) : Collection → m Value
  | .list items => do return .list (← items.mapM part)
  | .pairs items => do
    return .list (← items.mapM fun item => do return .pair (← part item.1) (← part item.2))
  | .set members => return .set members
  | .mapping entries => do
    return .mapping (← entries.mapM fun entry => do return (entry.1, ← part entry.2))

end Collection

/-- The values of collections, as far as they are known, by their nodes as in `Collections`. -/
abbrev KnownValues := Array (Option Value)

namespace KnownValues

/-- The number of known values, which tells `settle` whether a sweep has found any. -/
def count (known : KnownValues) : Nat :=
  known.countP Option.isSome

/-- The value of a part, if it is known; that of a `Part.scalar` always is. -/
def part? (known : KnownValues) : Part → Option Value
  | .scalar value => some (.scalar value)
  | .collection id => known[id]?.join

end KnownValues

namespace Collections

/-- Finds the value of a collection if `part?` knows those of its parts. -/
def note (collections : Collections) (id : NodeId) (known : KnownValues) : KnownValues :=
  match collections[id]?.join, known[id]?.join with
  | some collection, none => known.set! id (collection.value known.part?)
  | _, _ => known

/-- Finds values of collections from the last one to the first one, each by `note`. -/
def sweep (collections : Collections) (known : KnownValues) : KnownValues :=
  (List.range collections.size).foldr collections.note known

/-- Finds values in a number of sweeps, or until a `sweep` finds none. -/
def settle (collections : Collections) : Nat → KnownValues → KnownValues
  | 0, known => known
  | sweeps + 1, known =>
    let next := collections.sweep known
    if next.count = known.count then known else collections.settle sweeps next

/-- The values of all collections that do not hold themselves, nor others that do: as many sweeps by
`settle` as there are collections. -/
def finiteValues (collections : Collections) : KnownValues :=
  collections.settle collections.size (Array.replicate collections.size none)

/-- How many levels of a value are shown that holds itself, before `Value.endless` takes its place.
-/
def endlessDepth : Nat := 4

/-- The value of a part, down to a depth where it is `Value.endless`. What `known` has needs no
depth. -/
def unfold (collections : Collections) (known : KnownValues) : Nat → Part → Value
  | depth, part =>
    match known.part? part, part with
    | some value, _ => value
    | none, .scalar value => .scalar value
    | none, .collection id =>
      match depth, collections[id]?.join with
      | _, none => .null
      | 0, some collection => .endless collection.kindName
      | depth + 1, some collection => Id.run (collection.value (collections.unfold known depth))

/-- **The value of a part**, by `unfold` to the depth of `endlessDepth`. -/
def value (collections : Collections) (part : Part) : Value :=
  collections.unfold collections.finiteValues endlessDepth part

end Collections

end TreeSift.Yaml
