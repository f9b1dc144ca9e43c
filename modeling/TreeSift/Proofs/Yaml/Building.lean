import TreeSift.Proofs.Yaml.Collections
import TreeSift.Proofs.Yaml.Merging
import TreeSift.Yaml.Reader

/-! # Collections of nodes

The graph of an outlined value is read as the value (`Graph.value_eq`). While collections get their
parts, the nodes stay as they are, and every collection either waits or has the parts that its node
names (`Building`). -/

namespace TreeSift.Yaml

open TreeSift.Document

/-! ## Parts of nodes -/

/-- The part that the node at `id` makes: a scalar, or the collection in its own place. -/
def partAt (nodes : Array Node) (id : NodeId) : Part :=
  match nodes[id]? with
  | some ⟨tag, .scalar content⟩ =>
    match tag.scalarValue content with
    | .ok scalar => .scalar scalar
    | .error _ => .collection id
  | _ => .collection id

/-- The scalar that the key at `id` makes. -/
def keyAt (nodes : Array Node) (id : NodeId) : Scalar :=
  match partAt nodes id with
  | .scalar scalar => scalar
  | .collection _ => .null

/-- The collection that the node at `id` makes, with a part for each node in it. -/
def collectionAt (nodes : Array Node) (id : NodeId) : Collection :=
  match nodes[id]? with
  | some ⟨_, .mapping ids⟩ => .mapping (ids.map fun entry => (keyAt nodes entry.1, partAt nodes entry.2))
  | some ⟨_, .list ids⟩ => .list (ids.map (partAt nodes))
  | _ => .list []

variable {nodes : Array Node} {id : NodeId} {value : Value} {scalar : Scalar}

/-- The value of the node of a scalar is the scalar: `scalarValue` undoes `scalarContent`. -/
theorem scalarValue_scalarNode (h : IsPlainScalar scalar) :
    (tagOfScalar scalar).scalarValue (String.ofList (scalarContent scalar)) = .ok scalar := by
  rcases h with ⟨text, rfl⟩ | ⟨b, rfl⟩
  · simp [tagOfScalar, scalarContent, Tag.scalarValue]
  · cases b <;> decide +kernel

/-- A node of a scalar makes the scalar: `partAt` finds it. -/
theorem partAt_scalar (h : nodes[id]? = some (scalarNode scalar)) (hplain : IsPlainScalar scalar) :
    partAt nodes id = .scalar scalar := by
  rw [partAt, h, scalarNode]
  dsimp only
  rw [scalarValue_scalarNode hplain]

/-- A key of a scalar makes the scalar: `keyAt` finds it. -/
theorem keyAt_scalar (h : nodes[id]? = some (scalarNode scalar)) (hplain : IsPlainScalar scalar) :
    keyAt nodes id = scalar := by
  rw [keyAt, partAt_scalar h hplain]

/-- A node of a list makes its collection: `partAt` and `collectionAt` of it. -/
theorem partAt_list {ids : List NodeId} (h : nodes[id]? = some ⟨.list, .list ids⟩) :
    partAt nodes id = .collection id ∧ collectionAt nodes id = .list (ids.map (partAt nodes)) := by
  constructor
  · rw [partAt, h]
  · rw [collectionAt, h]

/-- A node of a mapping makes its collection: `partAt` and `collectionAt` of it. -/
theorem partAt_mapping {ids : List (NodeId × NodeId)}
    (h : nodes[id]? = some ⟨.mapping, .mapping ids⟩) : partAt nodes id = .collection id ∧
      collectionAt nodes id =
        .mapping (ids.map fun entry => (keyAt nodes entry.1, partAt nodes entry.2)) := by
  constructor
  · rw [partAt, h]
  · rw [collectionAt, h]

/-- The collection that a node makes is its own: `partAt` gives no other place. -/
theorem eq_of_partAt_eq_collection {other : NodeId} (h : partAt nodes id = .collection other) :
    other = id := by
  unfold partAt at h
  split at h
  · split at h
    · cases h
    · cases h
      rfl
  · cases h
    rfl

/-! ## Collections that wait -/

/-- A node stands for some value that is `Outlined`. -/
def Meant (nodes : Array Node) (id : NodeId) : Prop :=
  ∃ value, Stands nodes id value ∧ Outlined value

/-- The parts of a collection: its items, or the values of its entries. -/
def Collection.parts : Collection → List Part
  | .list items => items
  | .pairs items => items.flatMap fun item => [item.1, item.2]
  | .set _ => []
  | .mapping entries => entries.map Prod.snd

/-- The collection of a part is there, as its node has been met; a scalar needs none. -/
def Present (collections : Collections) : Part → Prop
  | .scalar _ => True
  | .collection id => (collections[id]?.join).isSome

/-- A collection may become the one of the node at `id`: a list for a list, a mapping for a mapping,
whatever parts it has as yet. -/
inductive Begun (nodes : Array Node) (id : NodeId) : Collection → Prop where
  /-- A list. -/
  | list {ids : List NodeId} (h : nodes[id]? = some ⟨.list, .list ids⟩) (items : List Part) :
    Begun nodes id (.list items)
  /-- A mapping. -/
  | mapping {ids : List (NodeId × NodeId)} (h : nodes[id]? = some ⟨.mapping, .mapping ids⟩)
    (entries : List (Scalar × Part)) : Begun nodes id (.mapping entries)

/-- The node of a collection that has `Begun` is there. -/
theorem Begun.lt_size {collection : Collection} (h : Begun nodes id collection) : id < nodes.size := by
  cases h with
  | list h => exact (Array.getElem?_eq_some_iff.1 h).1
  | mapping h => exact (Array.getElem?_eq_some_iff.1 h).1

/-- **What holds while collections get their parts**, given those in `left` that are still to get
theirs before the ones that wait, and the least place where one may wait. -/
structure Building (nodes : Array Node) (left : List NodeId) (least : Nat) (s : BuildState) : Prop where
  /-- No nodes are merged. -/
  nodes_eq : s.nodes = nodes
  /-- There is a place for the collection of each node. -/
  size_eq : s.collections.size = nodes.size
  /-- What waits is far enough behind. -/
  behind : ∀ id ∈ s.waiting, least ≤ id ∧ id < nodes.size
  /-- Collections are those of nodes that stand for values. -/
  meant : ∀ id collection, s.collections[id]?.join = some collection →
    Meant nodes id ∧ Begun nodes id collection
  /-- A collection that does not wait has its parts. -/
  complete : ∀ id collection, s.collections[id]?.join = some collection →
    id ∈ left ∨ id ∈ s.waiting ∨
      collection = collectionAt nodes id ∧ ∀ part ∈ collection.parts, Present s.collections part

/-- No collection is lost from `s` to `s'`: what is `Present` stays so. -/
def Keeps (s s' : BuildState) : Prop :=
  ∀ part, Present s.collections part → Present s'.collections part

variable {s s' s'' : BuildState} {left : List NodeId} {least depth : Nat} {collections : Collections}

/-- Nothing is lost where nothing is done: `Keeps` is reflexive. -/
theorem Keeps.refl (s : BuildState) : Keeps s s :=
  fun _ h => h

/-- Nothing is lost in several steps: `Keeps` is transitive. -/
theorem Keeps.trans (h : Keeps s s') (h' : Keeps s' s'') : Keeps s s'' :=
  fun part hpart => h' part (h part hpart)

/-- The place of a collection that `set!` has set holds it. -/
theorem join_set_self (h : id < collections.size) (collection : Collection) :
    (collections.set! id (some collection))[id]?.join = some collection := by
  rw [Array.set!_eq_setIfInBounds, Array.getElem?_setIfInBounds_self_of_lt h]
  rfl

/-- Places other than the one that `set!` sets stay as they are. -/
theorem getElem?_set_of_ne {other : NodeId} (h : id ≠ other) (collection : Collection) :
    (collections.set! id (some collection))[other]? = collections[other]? := by
  rw [Array.set!_eq_setIfInBounds, Array.getElem?_setIfInBounds_ne h]

/-- What is there once a collection has been set is this one, or has been there before: `set!`
changes one place. -/
theorem eq_or_join_of_set {other : NodeId} {collection found : Collection}
    (hlt : id < collections.size)
    (h : (collections.set! id (some collection))[other]?.join = some found) :
    (other = id ∧ found = collection) ∨ (other ≠ id ∧ collections[other]?.join = some found) := by
  by_cases heq : id = other
  · subst heq
    rw [join_set_self hlt] at h
    exact .inl ⟨rfl, (Option.some.inj h).symm⟩
  · rw [getElem?_set_of_ne heq] at h
    exact .inr ⟨Ne.symm heq, h⟩

/-- No collection is lost when one is set: `Present` is kept by `set!`. -/
theorem present_set {part : Part} (h : Present collections part) (id : NodeId)
    (collection : Collection) : Present (collections.set! id (some collection)) part := by
  cases part with
  | scalar => trivial
  | collection other =>
      by_cases heq : id = other
      · subst heq
        obtain ⟨found, hfound⟩ := Option.isSome_iff_exists.1 h
        have hlt := (Array.getElem?_eq_some_iff.1 (Option.join_eq_some_iff.1 hfound)).1
        rw [Present, join_set_self hlt]
        rfl
      · rwa [Present, getElem?_set_of_ne heq]

/-- A new collection waits: `Building` is kept when an empty one is set for a node. -/
theorem Building.wait {empty : Collection} (h : Building nodes left least s) (hmeant : Meant nodes id)
    (hbegun : Begun nodes id empty) (hleast : least ≤ id) :
    Building nodes left least
      { s with collections := s.collections.set! id (some empty), waiting := id :: s.waiting } where
  nodes_eq := h.nodes_eq
  size_eq := by simpa using h.size_eq
  behind := List.forall_mem_cons.2 ⟨⟨hleast, hbegun.lt_size⟩, h.behind⟩
  meant other collection hother := by
    rcases eq_or_join_of_set (h.size_eq ▸ hbegun.lt_size) hother with ⟨rfl, rfl⟩ | ⟨-, hother⟩
    · exact ⟨hmeant, hbegun⟩
    · exact h.meant other collection hother
  complete other collection hother := by
    rcases eq_or_join_of_set (h.size_eq ▸ hbegun.lt_size) hother with ⟨rfl, -⟩ | ⟨-, hother⟩
    · exact .inr (.inl List.mem_cons_self)
    · rcases h.complete other collection hother with hleft | hwaiting | ⟨hparts, hpresent⟩
      · exact .inl hleft
      · exact .inr (.inl (List.mem_cons_of_mem _ hwaiting))
      · exact .inr (.inr ⟨hparts, fun part hpart => present_set (hpresent part hpart) id empty⟩)

namespace Build

/-- The collection of a node waits if it is new: `collectionPart` keeps `Building`. -/
theorem exists_run_collectionPart {empty : Collection} (h : Building nodes left least s)
    (hmeant : Meant nodes id) (hbegun : Begun nodes id empty) (hleast : least ≤ id) :
    ∃ s', (collectionPart id empty).run s = .ok (.collection id, s') ∧
      Building nodes left least s' ∧ Keeps s s' ∧ Present s'.collections (.collection id) := by
  have hrun : (collectionPart id empty).run s = .ok (.collection id,
      if (s.collections[id]?.join).isSome then s
      else { s with collections := s.collections.set! id (some empty), waiting := id :: s.waiting }) :=
    rfl
  by_cases hsome : (s.collections[id]?.join).isSome = true
  · rw [if_pos hsome] at hrun
    exact ⟨s, hrun, h, .refl s, hsome⟩
  · rw [if_neg hsome] at hrun
    refine ⟨_, hrun, h.wait hmeant hbegun hleast, fun part hpart =>
      present_set hpart id empty, ?_⟩
    rw [Present, join_set_self (h.size_eq ▸ hbegun.lt_size)]
    rfl

/-- The node in a place is found by `nodeAt`. -/
theorem run_nodeAt {node : Node} (h : s.nodes[id]? = some node) :
    (nodeAt id).run s = .ok (node, s) := by
  rw [nodeAt, run_get_bind, h]
  rfl

/-- A node of a scalar makes the scalar, by `part`. -/
theorem run_part_scalar (h : s.nodes[id]? = some (scalarNode scalar)) (hplain : IsPlainScalar scalar) :
    (part id).run s = .ok (.scalar scalar, s) := by
  have htext : (scalarText (s.nodes.size + 1) id).run s =
      .ok (String.ofList (scalarContent scalar), s) := by
    rw [scalarText]
    exact (run_bind_of_run (run_nodeAt h)).trans rfl
  have hempty : emptyOf? (scalarNode scalar).tag = none := by
    rcases hplain with ⟨text, rfl⟩ | ⟨b, rfl⟩ <;> rfl
  have hscalars : (scalarNode scalar).tag.hasScalars = true := by
    rcases hplain with ⟨text, rfl⟩ | ⟨b, rfl⟩ <;> rfl
  have hvalue : (scalarNode scalar).tag.scalarValue (String.ofList (scalarContent scalar)) =
    .ok scalar := scalarValue_scalarNode hplain
  have hown : ((scalarNode scalar).tag == .timestamp && !(scalarNode scalar).shape.isScalar) = false :=
    Bool.and_false _
  rw [part]
  refine (run_bind_of_run (run_nodeAt h)).trans ?_
  simp only [hempty, hscalars, if_true]
  rw [run_get_bind]
  refine (run_bind_of_run htext).trans ?_
  simp only [hown, Bool.false_eq_true, if_false, hvalue]
  rfl

/-- A key makes its scalar, by `key`. -/
theorem run_key (h : s.nodes[id]? = some (scalarNode scalar)) (hplain : IsPlainScalar scalar) :
    (key id).run s = .ok (scalar, s) := by
  rw [key]
  exact (run_bind_of_run (run_part_scalar h hplain)).trans rfl

/-- A list makes its collection, by `part`: it starts without items. -/
theorem run_part_list {ids : List NodeId} (h : s.nodes[id]? = some ⟨.list, .list ids⟩) :
    (part id).run s = (collectionPart id (.list [])).run s := by
  rw [part]
  exact (run_bind_of_run (run_nodeAt h)).trans rfl

/-- A mapping makes its collection, by `part`: it starts without entries. -/
theorem run_part_mapping {ids : List (NodeId × NodeId)}
    (h : s.nodes[id]? = some ⟨.mapping, .mapping ids⟩) :
    (part id).run s = (collectionPart id (.mapping [])).run s := by
  rw [part]
  exact (run_bind_of_run (run_nodeAt h)).trans rfl

/-- **A node of a value makes its part**: `part` gives `partAt` it and keeps `Building`. -/
theorem exists_run_part (h : Building nodes left least s) (hmeant : Meant nodes id)
    (hleast : least ≤ id) :
    ∃ s', (part id).run s = .ok (partAt nodes id, s') ∧ Building nodes left least s' ∧ Keeps s s' ∧
      Present s'.collections (partAt nodes id) := by
  obtain ⟨value, hstands, houtlined⟩ := hmeant
  have hnode := hstands
  rw [← h.nodes_eq] at hnode
  cases hnode with
  | scalar hnode =>
      have hplain := houtlined.isPlainScalar
      refine ⟨s, ?_, h, .refl s, ?_⟩
      · rw [← h.nodes_eq, partAt_scalar hnode hplain]
        exact run_part_scalar hnode hplain
      · rw [← h.nodes_eq, partAt_scalar hnode hplain]
        trivial
  | list hnode =>
      rw [run_part_list hnode]
      rw [h.nodes_eq] at hnode
      rw [(partAt_list hnode).1]
      exact exists_run_collectionPart h ⟨_, hstands, houtlined⟩ (.list hnode []) hleast
  | mapping hnode =>
      rw [run_part_mapping hnode]
      rw [h.nodes_eq] at hnode
      rw [(partAt_mapping hnode).1]
      exact exists_run_collectionPart h ⟨_, hstands, houtlined⟩ (.mapping hnode []) hleast

/-- The items of a list make their parts: `mapM part` gives `partAt` each and keeps `Building`. -/
theorem exists_run_parts {ids : List NodeId} (h : Building nodes left least s)
    (hmeant : ∀ id ∈ ids, Meant nodes id ∧ least ≤ id) :
    ∃ s', (ids.mapM part).run s = .ok (ids.map (partAt nodes), s') ∧ Building nodes left least s' ∧
      Keeps s s' ∧ ∀ part ∈ ids.map (partAt nodes), Present s'.collections part := by
  induction ids generalizing s with
  | nil => exact ⟨s, rfl, h, .refl s, nofun⟩
  | cons id ids ih =>
      rw [List.forall_mem_cons] at hmeant
      obtain ⟨s', hrun, hbuilding, hkeeps, hpresent⟩ := exists_run_part h hmeant.1.1 hmeant.1.2
      obtain ⟨s'', hrun', hbuilding', hkeeps', hpresent'⟩ := ih hbuilding hmeant.2
      refine ⟨s'', ?_, hbuilding', hkeeps.trans hkeeps', ?_⟩
      · rw [List.mapM_cons]
        refine (run_bind_of_run hrun).trans ?_
        exact (run_bind_of_run hrun').trans rfl
      · exact List.forall_mem_cons.2 ⟨hkeeps' _ hpresent, hpresent'⟩

/-- The entries of a mapping make their keys and parts: `keyAt` and `partAt` of each. -/
theorem exists_run_entryParts {ids : List (NodeId × NodeId)} (h : Building nodes left least s)
    (hkeys : HasPlainKeys nodes ids) (hmeant : ∀ entry ∈ ids, Meant nodes entry.2 ∧ least ≤ entry.2) :
    ∃ s', (entryParts ids).run s =
        .ok (ids.map fun entry => (keyAt nodes entry.1, partAt nodes entry.2), s') ∧
      Building nodes left least s' ∧ Keeps s s' ∧
      ∀ part ∈ ids.map fun entry => partAt nodes entry.2, Present s'.collections part := by
  induction ids generalizing s with
  | nil => exact ⟨s, rfl, h, .refl s, nofun⟩
  | cons entry ids ih =>
      rw [List.forall_mem_cons] at hmeant
      obtain ⟨⟨scalar, hplain, hkey⟩, hothers⟩ := List.forall_mem_cons.1 hkeys
      have hrunKey : (key entry.1).run s = .ok (keyAt nodes entry.1, s) := by
        rw [keyAt_scalar hkey hplain]
        exact run_key (by rwa [h.nodes_eq]) hplain
      obtain ⟨s', hrun, hbuilding, hkeeps, hpresent⟩ := exists_run_part h hmeant.1.1 hmeant.1.2
      obtain ⟨s'', hrun', hbuilding', hkeeps', hpresent'⟩ := ih hbuilding hothers hmeant.2
      refine ⟨s'', ?_, hbuilding', hkeeps.trans hkeeps', ?_⟩
      · rw [entryParts, List.mapM_cons]
        refine (run_bind_of_run ((run_bind_of_run hrunKey).trans (run_bind_of_run hrun))).trans ?_
        exact (run_bind_of_run hrun').trans rfl
      · exact List.forall_mem_cons.2 ⟨hkeeps' _ hpresent, hpresent'⟩

end Build

/-! ## Filling collections -/

/-- The items of a list are `Meant`, and stand behind the list. -/
theorem meant_of_list {ids : List NodeId} (h : Meant nodes id)
    (hnode : nodes[id]? = some ⟨.list, .list ids⟩) :
    ∀ other ∈ ids, Meant nodes other ∧ id < other := by
  obtain ⟨value, hstands, houtlined⟩ := h
  cases hstands with
  | scalar hscalar => cases congrArg Node.shape (Option.some.inj (hnode.symm.trans hscalar))
  | mapping hmapping => cases hnode.symm.trans hmapping
  | list hlist hlength hbehind hitems =>
      cases hnode.symm.trans hlist
      intro other hother
      obtain ⟨item, hmem⟩ := exists_mem_zip_of_mem hlength hother
      exact ⟨⟨item, hitems _ hmem, houtlined.item item (List.of_mem_zip hmem).2⟩, hbehind other hother⟩

/-- The entries of a mapping have different texts for keys, and values that are `Meant`, behind the
mapping. -/
theorem meant_of_mapping {ids : List (NodeId × NodeId)} (h : Meant nodes id)
    (hnode : nodes[id]? = some ⟨.mapping, .mapping ids⟩) :
    HasPlainKeys nodes ids ∧ (∀ entry ∈ ids, Meant nodes entry.2 ∧ id < entry.2) ∧
      ids.Pairwise fun a b => (keyAt nodes a.1).sameKey (keyAt nodes b.1) = false := by
  obtain ⟨value, hstands, houtlined⟩ := h
  cases hstands with
  | scalar hscalar => cases congrArg Node.shape (Option.some.inj (hnode.symm.trans hscalar))
  | list hlist => cases hnode.symm.trans hlist
  | @mapping _ entries _ hmapping hlength hbehind hkeys hvalues =>
      cases hnode.symm.trans hmapping
      have hplain : ∀ part ∈ ids.zip entries, IsPlainScalar part.2.1 := fun part hpart =>
        (houtlined.entry _ (List.of_mem_zip hpart).2).1
      refine ⟨fun entry hentry => ?_, fun entry hentry => ?_, ?_⟩
      · obtain ⟨other, hmem⟩ := exists_mem_zip_of_mem hlength hentry
        exact ⟨other.1, hplain _ hmem, hkeys _ hmem⟩
      · obtain ⟨other, hmem⟩ := exists_mem_zip_of_mem hlength hentry
        exact ⟨⟨other.2, hvalues _ hmem, (houtlined.entry other (List.of_mem_zip hmem).2).2⟩,
          (hbehind entry hentry).2⟩
      · have hsame := map_eq_map_of_zip (f := fun entry => keyAt nodes entry.1) (g := Prod.fst)
          hlength fun part hpart => keyAt_scalar (hkeys part hpart) (hplain part hpart)
        rw [← List.pairwise_map (f := fun entry : NodeId × NodeId => keyAt nodes entry.1)
          (R := fun a b : Scalar => a.sameKey b = false), hsame]
        exact List.pairwise_map.2 houtlined.pairwise

/-- A collection that gets its parts is complete: `Building` loses it from `left`. -/
theorem Building.fill (h : Building nodes (id :: left) least s) (hmeant : Meant nodes id)
    (hbegun : Begun nodes id (collectionAt nodes id))
    (hpresent : ∀ part ∈ (collectionAt nodes id).parts, Present s.collections part) :
    Building nodes left least
      { s with collections := s.collections.set! id (some (collectionAt nodes id)) } where
  nodes_eq := h.nodes_eq
  size_eq := by simpa using h.size_eq
  behind := h.behind
  meant other collection hother := by
    rcases eq_or_join_of_set (h.size_eq ▸ hbegun.lt_size) hother with ⟨rfl, rfl⟩ | ⟨-, hother⟩
    · exact ⟨hmeant, hbegun⟩
    · exact h.meant other collection hother
  complete other collection hother := by
    rcases eq_or_join_of_set (h.size_eq ▸ hbegun.lt_size) hother with ⟨rfl, rfl⟩ | ⟨hne, hother⟩
    · exact .inr (.inr ⟨rfl, fun part hpart => present_set (hpresent part hpart) _ _⟩)
    · rcases h.complete other collection hother with hleft | hwaiting | ⟨hparts, hpresent⟩
      · exact .inl ((List.mem_cons.1 hleft).resolve_left hne)
      · exact .inr (.inl hwaiting)
      · exact .inr (.inr ⟨hparts, fun part hpart => present_set (hpresent part hpart) id _⟩)

/-- What waits is to get its parts next, and what comes then is farther behind: `Building` with
`left` renewed. -/
theorem Building.next (h : Building nodes [] least s) :
    Building nodes s.waiting.reverse (least + 1) { s with waiting := [] } where
  nodes_eq := h.nodes_eq
  size_eq := h.size_eq
  behind := nofun
  meant := h.meant
  complete id collection hid := by
    rcases h.complete id collection hid with hmem | hwaiting | hparts
    · cases hmem
    · exact .inl (List.mem_reverse.2 hwaiting)
    · exact .inr (.inr hparts)

namespace Build

/-- A mapping of a graph has its own entries: `mergedEntries` finds none to merge. -/
theorem run_mergedEntries {ids : List (NodeId × NodeId)}
    (h : s.nodes[id]? = some ⟨.mapping, .mapping ids⟩) (hkeys : HasPlainKeys s.nodes ids) (depth : Nat) :
    (mergedEntries (depth + 1) id).run s = .ok (ids, s) := by
  rw [mergedEntries, run_get_bind, Merge.run_mergedEntries h hkeys depth]
  rfl

/-- **A collection gets its parts**: `filled` gives `collectionAt` its node and keeps `Building`. -/
theorem exists_run_filled {empty : Collection} (h : Building nodes left least s)
    (hmeant : Meant nodes id) (hbegun : Begun nodes id empty) (hleast : least ≤ id + 1) (depth : Nat) :
    ∃ s', (filled (depth + 1) id empty).run s = .ok (collectionAt nodes id, s') ∧
      Building nodes left least s' ∧ Keeps s s' ∧ Begun nodes id (collectionAt nodes id) ∧
      ∀ part ∈ (collectionAt nodes id).parts, Present s'.collections part := by
  cases hbegun with
  | list hnode items =>
      have hparts := meant_of_list hmeant hnode
      obtain ⟨s', hrun, hbuilding, hkeeps, hpresent⟩ := exists_run_parts h fun other hother =>
        ⟨(hparts other hother).1, Nat.le_trans hleast (hparts other hother).2⟩
      rw [(partAt_list hnode).2]
      refine ⟨s', ?_, hbuilding, hkeeps, .list hnode _, hpresent⟩
      rw [← h.nodes_eq] at hnode
      have hitems : (itemsOf id).run s = .ok (_, s) := (run_bind_of_run (run_nodeAt hnode)).trans rfl
      exact (run_bind_of_run hitems).trans ((run_bind_of_run hrun).trans rfl)
  | mapping hnode entries =>
      obtain ⟨hkeys, hparts, hpairwise⟩ := meant_of_mapping hmeant hnode
      obtain ⟨s', hrun, hbuilding, hkeeps, hpresent⟩ := exists_run_entryParts h hkeys
        fun entry hentry => ⟨(hparts entry hentry).1, Nat.le_trans hleast (hparts entry hentry).2⟩
      rw [(partAt_mapping hnode).2]
      refine ⟨s', ?_, hbuilding, hkeeps, .mapping hnode _, by simpa [Collection.parts] using hpresent⟩
      rw [← h.nodes_eq] at hnode hkeys
      have hmerged := run_mergedEntries hnode hkeys depth
      refine (run_bind_of_run hmerged).trans ((run_bind_of_run hrun).trans ?_)
      rw [collectEntries_of_pairwise (List.pairwise_map.2 hpairwise)]
      rfl

/-- The collection of a node that has been met gets its parts, by `fill`. -/
theorem exists_run_fill (h : Building nodes (id :: left) least s) (hleast : least ≤ id + 1)
    (depth : Nat) :
    ∃ s', (fill (depth + 1) id).run s = .ok ((), s') ∧ Building nodes left least s' ∧ Keeps s s' := by
  cases hempty : s.collections[id]?.join with
  | none =>
      refine ⟨s, ?_, { h with complete := fun other collection hother => ?_ }, .refl s⟩
      · rw [fill]
        rw [run_get_bind, hempty]
        rfl
      · rcases h.complete other collection hother with hmem | hother'
        · rcases List.mem_cons.1 hmem with rfl | hmem
          · rw [hempty] at hother
            cases hother
          · exact .inl hmem
        · exact .inr hother'
  | some empty =>
      obtain ⟨hmeant, hbegun⟩ := h.meant id empty hempty
      obtain ⟨s', hrun, hbuilding, hkeeps, hbegun', hpresent⟩ :=
        exists_run_filled h hmeant hbegun hleast depth
      refine ⟨_, ?_, hbuilding.fill hmeant hbegun' hpresent, fun part hpart =>
        present_set (hkeeps part hpart) id (collectionAt nodes id)⟩
      rw [fill, run_get_bind, hempty]
      exact (run_bind_of_run hrun).trans rfl

/-- The collections of a level get their parts: `fill` along `left`. -/
theorem exists_run_forM_fill (h : Building nodes left least s) (hleast : ∀ id ∈ left, least ≤ id + 1)
    (depth : Nat) :
    ∃ s', (left.forM (fill (depth + 1))).run s = .ok ((), s') ∧ Building nodes [] least s' ∧
      Keeps s s' := by
  induction left generalizing s with
  | nil => exact ⟨s, rfl, h, .refl s⟩
  | cons id left ih =>
      rw [List.forall_mem_cons] at hleast
      obtain ⟨s', hrun, hbuilding, hkeeps⟩ := exists_run_fill h hleast.1 depth
      obtain ⟨s'', hrun', hbuilding', hkeeps'⟩ := ih hbuilding hleast.2
      exact ⟨s'', (run_bind_of_run hrun).trans hrun', hbuilding', hkeeps.trans hkeeps'⟩

/-- **All collections get their parts** within as many levels as there are places: `fillAll` leaves
nothing waiting. -/
theorem exists_run_fillAll (h : Building nodes [] least s) {levels : Nat}
    (hlevels : nodes.size ≤ least + levels) (depth : Nat) :
    ∃ s' least', (fillAll (depth + 1) levels).run s = .ok ((), s') ∧ Building nodes [] least' s' ∧
      Keeps s s' ∧ s'.waiting = [] := by
  -- what waits on a level is behind what waited on the one before, so that in the end none is left
  induction levels generalizing s least with
  | zero =>
      refine ⟨s, least, rfl, h, .refl s, List.eq_nil_iff_forall_not_mem.2 fun id hid => ?_⟩
      obtain ⟨hle, hlt⟩ := h.behind id hid
      exact absurd (Nat.le_trans hlevels hle) (Nat.not_le.2 hlt)
  | succ levels ih =>
      cases hempty : s.waiting.isEmpty with
      | true =>
          refine ⟨s, least, ?_, h, .refl s, List.isEmpty_iff.1 hempty⟩
          rw [fillAll, run_get_bind, hempty]
          rfl
      | false =>
          obtain ⟨s', hrun, hbuilding, hkeeps⟩ := exists_run_forM_fill h.next
            (fun id hid => Nat.succ_le_succ (h.behind id (List.mem_reverse.1 hid)).1) depth
          obtain ⟨s'', least', hrun', hbuilding', hkeeps', hwaiting⟩ := ih hbuilding (by omega)
          refine ⟨s'', least', ?_, hbuilding', hkeeps.trans hkeeps', hwaiting⟩
          rw [fillAll, run_get_bind, hempty]
          refine (run_bind_of_run (rfl : (set _ : Build Unit).run s = .ok (_, _))).trans ?_
          exact (run_bind_of_run hrun).trans hrun'

end Build

/-! ## Values of graphs -/

/-- A collection that is there when nothing waits has its parts: it is `collectionAt` its node. -/
theorem Building.exists_parts (h : Building nodes [] least s) (hwaiting : s.waiting = [])
    (hpresent : Present s.collections (.collection id)) :
    s.collections[id]?.join = some (collectionAt nodes id) ∧
      ∀ part ∈ (collectionAt nodes id).parts, Present s.collections part := by
  obtain ⟨collection, hcollection⟩ := Option.isSome_iff_exists.1 hpresent
  rcases h.complete id collection hcollection with hmem | hmem | ⟨rfl, hparts⟩
  · cases hmem
  · rw [hwaiting] at hmem
    cases hmem
  · exact ⟨hcollection, hparts⟩

/-- **What is complete has the value of its node**: `Collected` from `Stands`, by induction on the
value. -/
theorem Building.collected (h : Building nodes [] least s) (hwaiting : s.waiting = [])
    (hstands : Stands nodes id value) (houtlined : Outlined value)
    (hpresent : Present s.collections (partAt nodes id)) :
    Collected s.collections (partAt nodes id) value := by
  -- on what the node stands for: the parts of a complete collection are complete as well
  induction hstands with
  | scalar hnode =>
      rw [partAt_scalar hnode houtlined.isPlainScalar]
      exact .scalar _
  | @list id items ids hnode hlength hbehind hitems ih =>
      rw [(partAt_list hnode).1] at hpresent ⊢
      obtain ⟨hcollection, hparts⟩ := h.exists_parts hwaiting hpresent
      rw [(partAt_list hnode).2] at hcollection hparts
      refine .list hcollection (by simpa using hlength) (fun other hother => ?_) fun part hpart => ?_
      · obtain ⟨item, hitem, heq⟩ := List.mem_map.1 hother
        rw [eq_of_partAt_eq_collection heq]
        exact hbehind item hitem
      · rw [List.zip_map_left, List.mem_map] at hpart
        obtain ⟨pair, hpair, rfl⟩ := hpart
        exact ih pair hpair (houtlined.item _ (List.of_mem_zip hpair).2)
          (hparts _ (List.mem_map_of_mem (List.of_mem_zip hpair).1))
  | @mapping id entries ids hnode hlength hbehind hkeys hvalues ih =>
      rw [(partAt_mapping hnode).1] at hpresent ⊢
      obtain ⟨hcollection, hparts⟩ := h.exists_parts hwaiting hpresent
      rw [(partAt_mapping hnode).2] at hcollection hparts
      refine .mapping hcollection (by simpa using hlength) (fun key other hother => ?_)
        (fun part hpart => ?_) fun part hpart => ?_
      · obtain ⟨entry, hentry, heq⟩ := List.mem_map.1 hother
        rw [eq_of_partAt_eq_collection (congrArg Prod.snd heq)]
        exact (hbehind entry hentry).2
      · rw [List.zip_map_left, List.mem_map] at hpart
        obtain ⟨pair, hpair, rfl⟩ := hpart
        exact keyAt_scalar (hkeys pair hpair) (houtlined.entry _ (List.of_mem_zip hpair).2).1
      · rw [List.zip_map_left, List.mem_map] at hpart
        obtain ⟨pair, hpair, rfl⟩ := hpart
        refine ih pair hpair (houtlined.entry _ (List.of_mem_zip hpair).2).2 (hparts _ ?_)
        exact List.mem_map.2 ⟨_, List.mem_map_of_mem (List.of_mem_zip hpair).1, rfl⟩

/-- There is nothing at a place where nothing has been met: `Array.replicate` holds `none`. -/
theorem join_replicate_none (size : Nat) (id : NodeId) :
    (Array.replicate size none : Collections)[id]?.join = none := by
  rw [Array.getElem?_replicate]
  split <;> rfl

/-- No collection has been met at first: `Building` holds with nothing left. -/
theorem building_replicate (nodes : Array Node) :
    Building nodes [] 0 { nodes, collections := Array.replicate nodes.size none } where
  nodes_eq := rfl
  size_eq := by simp
  behind := nofun
  meant id collection h := by
    rw [join_replicate_none] at h
    cases h
  complete id collection h := by
    rw [join_replicate_none] at h
    cases h

/-- **The value of the graph of an outlined value** is this value: `Graph.value` undoes `Stands`. -/
theorem Graph.value_eq (hstands : Stands nodes id value) (houtlined : Outlined value) :
    Graph.value ⟨nodes, id⟩ = .ok value := by
  obtain ⟨s, hpart, hbuilding, -, hpresent⟩ := Build.exists_run_part (building_replicate nodes)
    ⟨value, hstands, houtlined⟩ (Nat.zero_le id)
  obtain ⟨s', least, hfill, hbuilding', hkeeps, hwaiting⟩ :=
    @Build.exists_run_fillAll nodes s 0 hbuilding (nodes.size + 1) (by omega)
      (Graph.entryCount ⟨nodes, id⟩)
  have hvalue := Collections.value_eq_of_collected
    (hbuilding'.collected hwaiting hstands houtlined (hkeeps _ hpresent))
  rw [Graph.value]
  dsimp only
  rw [(run_bind_of_run hpart).trans ((run_bind_of_run hfill).trans rfl)]
  exact congrArg Except.ok hvalue

/-- **What is written of an outlined mapping is read as the mapping**: `read (write entries)` gives
it, if it has no more levels than `outlinedLevels`. -/
theorem read_write {entries : Entries} (h : Outlined (.mapping entries))
    (hlevels : (Value.mapping entries).nestsBeyond (outlinedLevels + 1) = false) :
    read (write entries) = .ok (.mapping entries) := by
  obtain ⟨nodes, hgraph, hstands⟩ := ofTokens_valueTokens h
  rw [read, ofText_write h hlevels, hgraph]
  exact Graph.value_eq hstands h

end TreeSift.Yaml
