import TreeSift.Proofs.Yaml.Outlines
import TreeSift.Yaml.Node

/-! # Nodes of values

The tokens of an outlined value make a graph in which a node stands for the value: `Stands` tells
which values the nodes of a graph stand for (`ofTokens_valueTokens`). Nodes come before their parts. -/

namespace TreeSift.Yaml

open TreeSift.Document

/-! ## Graphs of values -/

/-- The node of a scalar: its tag and its content. -/
def scalarNode (scalar : Scalar) : Node :=
  ⟨tagOfScalar scalar, .scalar (String.ofList (scalarContent scalar))⟩

/-- **A node stands for a value**, with its parts behind it. -/
inductive Stands (nodes : Array Node) : NodeId → Value → Prop where
  /-- A scalar. -/
  | scalar {id : NodeId} {scalar : Scalar} (h : nodes[id]? = some (scalarNode scalar)) :
    Stands nodes id (.scalar scalar)
  /-- A list. -/
  | list {id : NodeId} {items : List Value} {ids : List NodeId}
    (h : nodes[id]? = some ⟨.list, .list ids⟩) (hlength : ids.length = items.length)
    (hbehind : ∀ item ∈ ids, id < item)
    (hitems : ∀ part ∈ ids.zip items, Stands nodes part.1 part.2) : Stands nodes id (.list items)
  /-- A mapping. -/
  | mapping {id : NodeId} {entries : Entries} {ids : List (NodeId × NodeId)}
    (h : nodes[id]? = some ⟨.mapping, .mapping ids⟩) (hlength : ids.length = entries.length)
    (hbehind : ∀ entry ∈ ids, id < entry.1 ∧ id < entry.2)
    (hkeys : ∀ part ∈ ids.zip entries, nodes[part.1.1]? = some (scalarNode part.2.1))
    (hvalues : ∀ part ∈ ids.zip entries, Stands nodes part.1.2 part.2.2) :
    Stands nodes id (.mapping entries)

variable {nodes nodes' : Array Node} {id : NodeId} {value : Value}

/-- A node `Stands` for the same value where it and all nodes behind it are the same. -/
theorem Stands.of_forall_le (h : Stands nodes id value)
    (hsame : ∀ other, id ≤ other → ∀ node, nodes[other]? = some node → nodes'[other]? = some node) :
    Stands nodes' id value := by
  induction h with
  | scalar h => exact .scalar (hsame _ (Nat.le_refl _) _ h)
  | @list id items ids h hlength hbehind hitems ih =>
      refine .list (hsame _ (Nat.le_refl _) _ h) hlength hbehind fun part hpart =>
        ih part hpart fun other hle => hsame other (Nat.le_trans ?_ hle)
      exact Nat.le_of_lt (hbehind _ (List.of_mem_zip hpart).1)
  | @mapping id entries ids h hlength hbehind hkeys hvalues ih =>
      have hbehind' : ∀ part ∈ ids.zip entries, id < part.1.1 ∧ id < part.1.2 := fun part hpart =>
        hbehind _ (List.of_mem_zip hpart).1
      exact .mapping (hsame _ (Nat.le_refl _) _ h) hlength hbehind
        (fun part hpart => hsame _ (Nat.le_of_lt (hbehind' part hpart).1) _ (hkeys part hpart))
        fun part hpart => ih part hpart fun other hle =>
          hsame other (Nat.le_trans (Nat.le_of_lt (hbehind' part hpart).2) hle)

/-- Nodes have only been added: those of `nodes` are the first of `nodes'`. -/
def Extends (nodes nodes' : Array Node) : Prop :=
  nodes.size ≤ nodes'.size ∧ ∀ (id : NodeId) (node : Node), nodes[id]? = some node → nodes'[id]? = some node

/-- Nothing is added to the same nodes: `Extends` is reflexive. -/
theorem Extends.refl (nodes : Array Node) : Extends nodes nodes :=
  ⟨Nat.le_refl _, fun _ _ h => h⟩

/-- Nodes may be added one after the other: `Extends` is transitive. -/
theorem Extends.trans {nodes nodes' nodes'' : Array Node} (h : Extends nodes nodes')
    (h' : Extends nodes' nodes'') : Extends nodes nodes'' :=
  ⟨Nat.le_trans h.1 h'.1, fun id node hid => h'.2 id node (h.2 id node hid)⟩

/-- A node is added behind the others: `push` is an extension. -/
theorem extends_push (nodes : Array Node) (node : Node) : Extends nodes (nodes.push node) := by
  refine ⟨by simp, fun id other hid => ?_⟩
  obtain ⟨hlt, -⟩ := Array.getElem?_eq_some_iff.1 hid
  rw [Array.getElem?_push_lt hlt, ← hid, Array.getElem?_eq_getElem hlt]

/-- A node that got its parts after other nodes had been added: `modify` at its place. -/
theorem getElem?_modify_self {node : Node} (h : Extends (nodes.push node) nodes') (f : Node → Node) :
    (nodes'.modify nodes.size f)[nodes.size]? = some (f node) := by
  rw [Array.getElem?_modify, if_pos rfl, h.2 _ _ Array.getElem?_push_size]
  rfl

/-- Other nodes stay as they are when a node gets its parts: `modify` changes one place. -/
theorem getElem?_modify_of_ne {place id : NodeId} (h : id ≠ place) (f : Node → Node) :
    (nodes.modify place f)[id]? = nodes[id]? := by
  rw [Array.getElem?_modify, if_neg h.symm]

/-- With its parts, a node still stands behind the others: `modify` of what has been pushed is an
extension. -/
theorem extends_modify {node : Node} (h : Extends (nodes.push node) nodes') (f : Node → Node) :
    Extends nodes (nodes'.modify nodes.size f) := by
  have hextends := (extends_push nodes node).trans h
  refine ⟨by simpa using hextends.1, fun id other hid => ?_⟩
  obtain ⟨hlt, -⟩ := Array.getElem?_eq_some_iff.1 hid
  rw [getElem?_modify_of_ne (Nat.ne_of_lt hlt), hextends.2 id other hid]

/-- The parts of a node stand for what they stood for: `modify` in front of them keeps `Stands`. -/
theorem Stands.modify {place : NodeId} (h : Stands nodes id value) (hlt : place < id)
    (f : Node → Node) : Stands (nodes.modify place f) id value :=
  h.of_forall_le fun other hle node hnode => by
    rw [getElem?_modify_of_ne (Nat.ne_of_gt (Nat.lt_of_lt_of_le hlt hle)), hnode]

/-- What a node `Stands` for does not change when nodes are added. -/
theorem Stands.extends (h : Stands nodes id value) (hextends : Extends nodes nodes') :
    Stands nodes' id value :=
  h.of_forall_le fun other _ => hextends.2 other

/-! ## Single tokens -/

namespace Parse

variable {token : Token} {tokens : List Token} {handles : List (String × String)}
  {anchors : List (String × NodeId)} {s : ParseState}

/-- Reading goes on: the next token is not `.broken`, which says that the text cannot be read. -/
def GoesOn (tokens : List Token) : Prop :=
  ∀ refusal, tokens.head? ≠ some (.broken refusal)

/-- The next token is looked at by `peek`, and stays. -/
theorem run_peek (h : GoesOn s.tokens) : peek.run s = .ok (s.tokens.head?, s) := by
  obtain ⟨tokens, handles, nodes, anchors⟩ := s
  cases tokens with
  | nil => rfl
  | cons token tokens =>
      cases token with
      | broken refusal => exact absurd rfl (h refusal)
      | _ => rfl

/-- A token that comes next is taken by `accept`. -/
theorem run_accept (token : Token) (h : GoesOn (token :: tokens)) :
    (accept token).run ⟨token :: tokens, handles, nodes, anchors⟩ =
      .ok (true, ⟨tokens, handles, nodes, anchors⟩) := by
  rw [accept, run_bind_of_run (run_peek h)]
  simp
  rfl

/-- A token that does not come next is not taken by `accept`. -/
theorem run_accept_of_ne (h : GoesOn s.tokens) (hne : s.tokens.head? ≠ some token) :
    (accept token).run s = .ok (false, s) := by
  rw [accept, run_bind_of_run (run_peek h)]
  simp [hne]
  rfl

/-! ## Scalars -/

variable {fuel : Nat} {block level : Bool} {rest : List Token}

/-- A scalar that stands alone makes a node, by `node`. -/
theorem run_node_scalar (content : String) (plain : Bool) :
    (node (fuel + 2) block level).run ⟨.scalar content plain :: tokens, handles, nodes, []⟩ =
      .ok (nodes.size, ⟨tokens, handles,
        nodes.push ⟨scalarTag none content plain, .scalar content⟩, []⟩) := rfl

/-- The tag of a text is that of texts, however it is written: `scalarTag` and `styleOf`. -/
theorem scalarTag_text (text : String) :
    scalarTag none text (styleOf text == .plain) = .text := by
  by_cases hstyle : styleOf text = .plain
  · rw [hstyle]
    exact (allowsPlain_of_styleOf hstyle).1
  · have hfalse : (styleOf text == .plain) = false := by simpa using hstyle
    rw [hfalse]
    rfl

/-- The `scalarToken` of a scalar makes its `scalarNode`. -/
theorem run_node_scalarToken {scalar : Scalar} (h : IsPlainScalar scalar) :
    (node (fuel + 2) block level).run ⟨scalarToken scalar :: tokens, handles, nodes, []⟩ =
      .ok (nodes.size, ⟨tokens, handles, nodes.push (scalarNode scalar), []⟩) := by
  rcases h with ⟨text, rfl⟩ | ⟨b, rfl⟩
  · have hnode : scalarNode (.text text) = ⟨.text, .scalar text⟩ := by
      simp [scalarNode, tagOfScalar, scalarContent]
    rw [scalarToken, run_node_scalar, scalarTag_text, hnode]
  · have hnode : scalarNode (.bool b) =
        ⟨scalarTag none (String.ofList (scalarContent (.bool b))) true,
          .scalar (String.ofList (scalarContent (.bool b)))⟩ := by
      cases b <;> decide +kernel
    rw [scalarToken, run_node_scalar, hnode]
    simp

/-! ## Parts of collections -/

/-- The node of an item is the one of its value: `nodeUnless` goes on as `node`. -/
theorem run_nodeUnless {ends : List Token} {s : ParseState} {token : Token} (h : GoesOn s.tokens)
    (hhead : s.tokens.head? = some token) (hends : ends.contains token = false) :
    (nodeUnless (fuel + 1) ends block level).run s = (node fuel block level).run s := by
  have hcomes : (comes ends).run s = .ok (false, s) := by
    rw [comes, run_bind_of_run (run_peek h), hhead]
    dsimp only
    rw [hends]
    rfl
  rw [nodeUnless, run_bind_of_run hcomes]
  rfl

/-- The token of a scalar says something: reading `GoesOn` with it. -/
theorem goesOn_scalarToken (scalar : Scalar) (tokens : List Token) :
    GoesOn (scalarToken scalar :: tokens) := by
  intro refusal h
  cases scalar <;> cases Option.some.inj h

/-- The items of a list of texts make nodes, by `levelItems`. -/
theorem exists_run_levelItems (texts : List String) (hfuel : texts.length + 4 ≤ fuel)
    (hrest : GoesOn rest) (hitem : rest.head? ≠ some .item) :
    ∃ ids nodes', (levelItems fuel).run ⟨itemTokens (texts.map .ofText) ++ rest, handles, nodes, []⟩ =
        .ok (ids, ⟨rest, handles, nodes', []⟩) ∧ Extends nodes nodes' ∧
      ids.length = texts.length ∧ (∀ id ∈ ids, nodes.size ≤ id) ∧
      ∀ part ∈ ids.zip (texts.map .ofText), Stands nodes' part.1 part.2 := by
  induction texts generalizing fuel nodes with
  | nil =>
      obtain ⟨fuel, rfl⟩ := Nat.exists_eq_add_of_le' (show 1 ≤ fuel by omega)
      have haccept : (accept .item).run ⟨rest, handles, nodes, []⟩ = _ := run_accept_of_ne hrest hitem
      refine ⟨[], nodes, ?_, .refl nodes, rfl, nofun, nofun⟩
      rw [levelItems]
      exact run_bind_of_run haccept
  | cons text texts ih =>
      rw [List.length_cons] at hfuel
      obtain ⟨fuel, rfl⟩ := Nat.exists_eq_add_of_le' (show 4 ≤ fuel by omega)
      -- the node of the first item is there before those of the others are added
      obtain ⟨ids, nodes', hrun, hextends, hlength, hbehind, hstands⟩ :=
        @ih (nodes.push (scalarNode (.text text))) (fuel + 3) (by omega)
      have hpush := extends_push nodes (scalarNode (.text text))
      have hgoes := goesOn_scalarToken (.text text) (itemTokens (texts.map .ofText) ++ rest)
      have haccept : (accept .item).run ⟨.item :: scalarToken (.text text) ::
          (itemTokens (texts.map .ofText) ++ rest), handles, nodes, []⟩ = _ :=
        run_accept .item nofun
      have hunless : (nodeUnless (fuel + 3) [.item, .key, .value, .blockEnd] true false).run
          ⟨scalarToken (.text text) :: (itemTokens (texts.map .ofText) ++ rest), handles, nodes, []⟩ = _ :=
        (run_nodeUnless hgoes rfl rfl).trans (run_node_scalarToken (.inl ⟨text, rfl⟩))
      refine ⟨nodes.size :: ids, nodes', ?_, hpush.trans hextends, by simp [hlength], ?_, ?_⟩
      · rw [levelItems]
        refine (run_bind_of_run haccept).trans ?_
        refine (run_bind_of_run hunless).trans ?_
        exact (run_bind_of_run hrun).trans rfl
      · refine List.forall_mem_cons.2 ⟨Nat.le_refl _, fun id hid => ?_⟩
        exact Nat.le_trans (by simp) (hbehind id hid)
      · rw [List.map_cons, List.zip_cons_cons]
        refine List.forall_mem_cons.2 ⟨?_, hstands⟩
        exact .scalar (hextends.2 _ _ Array.getElem?_push_size)

/-! ## Collections -/

/-- A collection gets its place in front of its parts: it is pushed empty, and modified behind them.
-/
theorem run_collection {α : Type} {parts : Parse α} {shape : α → Shape} {tag : Tag} {empty : Shape}
    {a : α} (h : parts.run ⟨tokens, handles, nodes.push ⟨tag, empty⟩, []⟩ =
      .ok (a, ⟨rest, handles, nodes', []⟩)) :
    (do fill (← add none tag empty) (shape (← parts))).run ⟨tokens, handles, nodes, []⟩ =
      .ok (nodes.size, ⟨rest, handles,
        nodes'.modify nodes.size fun node => { node with shape := shape a }, []⟩) := by
  have hadd : (add none tag empty).run ⟨tokens, handles, nodes, []⟩ =
      .ok (nodes.size, ⟨tokens, handles, nodes.push ⟨tag, empty⟩, []⟩) := rfl
  refine (run_bind_of_run hadd).trans ?_
  exact (run_bind_of_run h).trans rfl

/-- **The tokens of a value make a node** that `Stands` for it, whatever follows. -/
def Makes (level : Bool) (value : Value) : Prop :=
  ∀ ⦃fuel : Nat⦄ ⦃rest : List Token⦄ ⦃handles : List (String × String)⦄ ⦃nodes : Array Node⦄,
    4 * (valueTokens value).length ≤ fuel → GoesOn rest → rest.head? ≠ some .item →
    ∃ nodes', (node fuel true level).run ⟨valueTokens value ++ rest, handles, nodes, []⟩ =
        .ok (nodes.size, ⟨rest, handles, nodes', []⟩) ∧
      Extends nodes nodes' ∧ Stands nodes' nodes.size value

/-- Texts and truth values make nodes: `Makes` holds of each scalar. -/
theorem makes_scalar {scalar : Scalar} (h : IsPlainScalar scalar) : Makes level (.scalar scalar) := by
  intro fuel rest handles nodes hfuel hgoes hitem
  obtain ⟨fuel, rfl⟩ := Nat.exists_eq_add_of_le' (Nat.le_trans (show 2 ≤ 4 by omega) hfuel)
  exact ⟨_, run_node_scalarToken h, extends_push nodes _, .scalar Array.getElem?_push_size⟩

/-- Lists of texts make nodes: `Makes` holds of `.ofTexts`. -/
theorem makes_texts (texts : List String) : Makes true (.ofTexts texts) := by
  intro fuel rest handles nodes hfuel hgoes hitem
  cases texts with
  | nil =>
      obtain ⟨fuel, rfl⟩ := Nat.exists_eq_add_of_le' (Nat.le_trans (show 3 ≤ 8 by omega) hfuel)
      have hpush := Extends.refl (nodes.push ⟨.list, .list []⟩)
      refine ⟨_, rfl, extends_modify hpush _, ?_⟩
      exact .list (getElem?_modify_self hpush fun node => { node with shape := .list [] }) rfl nofun
        nofun
  | cons text texts =>
      -- without a text the list is written in brackets, otherwise in items
      have htokens : valueTokens (.ofTexts (text :: texts)) = itemTokens ((text :: texts).map .ofText) := by
        simp [Value.ofTexts, valueTokens, itemTokens]
      have hlength : ∀ texts : List String,
          (itemTokens (texts.map .ofText)).length = 2 * texts.length := by
        intro texts
        induction texts with
        | nil => rfl
        | cons text texts ih =>
            simp [itemTokens, Value.ofText, valueTokens, ih]
            omega
      rw [htokens, hlength, List.length_cons] at hfuel
      obtain ⟨fuel, rfl⟩ := Nat.exists_eq_add_of_le' (show 2 ≤ fuel by omega)
      obtain ⟨ids, nodes', hrun, hextends, hids, hbehind, hstands⟩ :=
        @exists_run_levelItems (nodes.push ⟨.list, .list []⟩) handles fuel rest (text :: texts)
          (by rw [List.length_cons]; omega) hgoes hitem
      have hbehind : ∀ id ∈ ids, nodes.size < id := fun id hid =>
        Nat.lt_of_succ_le (by simpa using hbehind id hid)
      refine ⟨_, ?_, extends_modify hextends fun node => { node with shape := .list ids },
        .list (getElem?_modify_self hextends _) ?_ hbehind ?_⟩
      · rw [htokens]
        exact run_collection hrun
      · rw [hids, List.length_map]
      · exact fun part hpart => (hstands part hpart).modify (hbehind _ (List.of_mem_zip hpart).1) _

/-- The node of a value in a mapping is the one that its `valueTokens` make. -/
theorem run_nodeUnless_valueTokens (h : Outlined value) :
    (nodeUnless (fuel + 1) [.key, .value, .blockEnd] block level).run
        ⟨valueTokens value ++ tokens, handles, nodes, anchors⟩ =
      (node fuel block level).run ⟨valueTokens value ++ tokens, handles, nodes, anchors⟩ := by
  cases h with
  | bool b => exact run_nodeUnless nofun rfl rfl
  | text text => exact run_nodeUnless nofun rfl rfl
  | texts texts => cases texts <;> exact run_nodeUnless nofun rfl rfl
  | mapping => exact run_nodeUnless nofun rfl rfl

/-- Behind an entry come a key or the end of the mapping, so that reading `GoesOn`. -/
theorem goesOn_entryTokens (entries : Entries) (rest : List Token) :
    GoesOn (entryTokens entries ++ .blockEnd :: rest) ∧
      (entryTokens entries ++ .blockEnd :: rest).head? ≠ some .item := by
  cases entries <;> simp [GoesOn, entryTokens]

/-- **Entries have got nodes**, added behind others, for their keys and for their values. -/
structure EntriesMade (nodes nodes' : Array Node) (ids : List (NodeId × NodeId)) (entries : Entries) :
    Prop where
  /-- Nodes have only been added. -/
  added : Extends nodes nodes'
  /-- No entry is left out. -/
  length : ids.length = entries.length
  /-- The nodes are behind the others. -/
  behind : ∀ entry ∈ ids, nodes.size ≤ entry.1 ∧ nodes.size ≤ entry.2
  /-- The keys have their nodes. -/
  keys : ∀ part ∈ ids.zip entries, nodes'[part.1.1]? = some (scalarNode part.2.1)
  /-- So have the values. -/
  values : ∀ part ∈ ids.zip entries, Stands nodes' part.1.2 part.2.2

/-- No entries need no nodes: `EntriesMade` at `[]`. -/
theorem EntriesMade.nil (nodes : Array Node) : EntriesMade nodes nodes [] [] :=
  ⟨.refl nodes, rfl, nofun, nofun, nofun⟩

/-- The nodes of an entry come in front of those of the others: first its key, then its value. -/
theorem EntriesMade.cons {nodes'' : Array Node} {ids : List (NodeId × NodeId)} {entries : Entries}
    {key : Scalar} (hadded : Extends (nodes.push (scalarNode key)) nodes')
    (hstands : Stands nodes' (nodes.size + 1) value) (h : EntriesMade nodes' nodes'' ids entries) :
    EntriesMade nodes nodes'' ((nodes.size, nodes.size + 1) :: ids) ((key, value) :: entries) := by
  have hbefore := (extends_push nodes (scalarNode key)).trans hadded
  have hkey := (hadded.trans h.added).2 _ _ Array.getElem?_push_size
  refine ⟨hbefore.trans h.added, by simp [h.length], List.forall_mem_cons.2 ⟨?_, fun entry hentry => ?_⟩,
    ?_, ?_⟩
  · exact ⟨Nat.le_refl _, Nat.le_succ _⟩
  · obtain ⟨hkeys, hvalues⟩ := h.behind entry hentry
    exact ⟨Nat.le_trans hbefore.1 hkeys, Nat.le_trans hbefore.1 hvalues⟩
  · rw [List.zip_cons_cons]
    exact List.forall_mem_cons.2 ⟨hkey, h.keys⟩
  · rw [List.zip_cons_cons]
    exact List.forall_mem_cons.2 ⟨hstands.extends h.added, h.values⟩

/-- A key with its value is read by `blockEntries` in front of the other entries. -/
theorem run_blockEntries_cons {key : Scalar} {id : NodeId} {ids : List (NodeId × NodeId)}
    {left : List Token} (hkey : IsPlainScalar key) (hvalue : Outlined value)
    (hrun : (node (fuel + 2) true true).run
      ⟨valueTokens value ++ left, handles, nodes.push (scalarNode key), []⟩ =
        .ok (id, ⟨left, handles, nodes', []⟩))
    (hothers : (blockEntries (fuel + 3)).run ⟨left, handles, nodes', []⟩ = .ok (ids, s)) :
    (blockEntries (fuel + 4)).run
        ⟨.key :: scalarToken key :: .value :: (valueTokens value ++ left), handles, nodes, []⟩ =
      .ok ((nodes.size, id) :: ids, s) := by
  have hname : (nodeUnless (fuel + 3) [.key, .value, .blockEnd] true true).run
      ⟨scalarToken key :: .value :: (valueTokens value ++ left), handles, nodes, []⟩ = _ :=
    (run_nodeUnless (goesOn_scalarToken key _) rfl (by cases key <;> rfl)).trans
      (run_node_scalarToken hkey)
  rw [blockEntries]
  refine (run_bind_of_run (run_accept .key (by simp [GoesOn]))).trans ?_
  refine (run_bind_of_run hname).trans ?_
  refine (run_bind_of_run (run_accept .value (by simp [GoesOn]))).trans ?_
  refine (run_bind_of_run ((run_nodeUnless_valueTokens hvalue).trans hrun)).trans ?_
  exact (run_bind_of_run hothers).trans (by simp; rfl)

/-- The entries of a mapping make nodes, by `blockEntries`: they are `EntriesMade`. -/
theorem exists_run_blockEntries (entries : List (Scalar × Value))
    (hnames : ∀ entry ∈ entries, IsPlainScalar entry.1)
    (hvalues : ∀ entry ∈ entries, Outlined entry.2 ∧ Makes true entry.2)
    (hfuel : 4 * (entryTokens entries).length + 2 ≤ fuel) :
    ∃ ids nodes', (blockEntries fuel).run
        ⟨entryTokens entries ++ .blockEnd :: rest, handles, nodes, []⟩ =
        .ok (ids, ⟨rest, handles, nodes', []⟩) ∧ EntriesMade nodes nodes' ids entries := by
  induction entries generalizing fuel nodes with
  | nil =>
      obtain ⟨fuel, rfl⟩ := Nat.exists_eq_add_of_le' (show 1 ≤ fuel by omega)
      exact ⟨[], nodes, rfl, .nil nodes⟩
  | cons entry entries ih =>
      obtain ⟨key, value⟩ := entry
      obtain ⟨houtlined, hmakes⟩ : Outlined value ∧ Makes true value := hvalues _ List.mem_cons_self
      have hlength : (entryTokens ((key, value) :: entries)).length =
          (valueTokens value).length + (entryTokens entries).length + 3 := by
        simp [entryTokens]
      rw [hlength] at hfuel
      obtain ⟨fuel, rfl⟩ := Nat.exists_eq_add_of_le' (show 4 ≤ fuel by omega)
      -- no item follows the value, so that its node ends with its tokens
      have hleft := goesOn_entryTokens entries rest
      obtain ⟨nodes', hrun, hadded, hstands⟩ := @hmakes (fuel + 2) _ handles
        (nodes.push (scalarNode key)) (by omega) hleft.1 hleft.2
      obtain ⟨ids, nodes'', hothers, hmade⟩ :=
        @ih nodes' (fuel + 3) (fun entry he => hnames entry (List.mem_cons_of_mem _ he))
          (fun entry he => hvalues entry (List.mem_cons_of_mem _ he)) (by omega)
      rw [Array.size_push] at hrun hstands
      refine ⟨_, nodes'', ?_, .cons hadded hstands hmade⟩
      have htokens : entryTokens ((key, value) :: entries) ++ .blockEnd :: rest =
          .key :: scalarToken key :: .value ::
            (valueTokens value ++ (entryTokens entries ++ .blockEnd :: rest)) := by
        simp [entryTokens]
      rw [htokens]
      exact run_blockEntries_cons (hnames _ List.mem_cons_self) houtlined hrun hothers

/-- Mappings make nodes: `Makes` holds of each whose values it holds of. -/
theorem makes_mapping {entries : Entries} (hnames : ∀ entry ∈ entries, IsPlainScalar entry.1)
    (hvalues : ∀ entry ∈ entries, Outlined entry.2 ∧ Makes true entry.2) :
    Makes level (.mapping entries) := by
  intro fuel rest handles nodes hfuel hgoes hitem
  have hlength : (valueTokens (.mapping entries)).length = (entryTokens entries).length + 2 := by
    simp [valueTokens]
  rw [hlength] at hfuel
  obtain ⟨fuel, rfl⟩ := Nat.exists_eq_add_of_le' (show 2 ≤ fuel by omega)
  obtain ⟨ids, nodes', hrun, hmade⟩ :=
    @exists_run_blockEntries (nodes.push ⟨.mapping, .mapping []⟩) handles fuel rest entries hnames
      hvalues (by omega)
  have hbehind : ∀ entry ∈ ids, nodes.size < entry.1 ∧ nodes.size < entry.2 := fun entry hentry => by
    have := hmade.behind entry hentry
    rw [Array.size_push] at this
    exact this
  refine ⟨_, ?_, extends_modify hmade.added fun node => { node with shape := .mapping ids },
    .mapping (getElem?_modify_self hmade.added _) hmade.length hbehind ?_ ?_⟩
  · have htokens : valueTokens (.mapping entries) ++ rest =
        .blockMappingStart :: (entryTokens entries ++ .blockEnd :: rest) := by
      simp [valueTokens]
    rw [htokens]
    exact run_collection hrun
  · intro part hpart
    rw [getElem?_modify_of_ne (Nat.ne_of_gt (hbehind _ (List.of_mem_zip hpart).1).1)]
    exact hmade.keys part hpart
  · exact fun part hpart =>
      (hmade.values part hpart).modify (hbehind _ (List.of_mem_zip hpart).1).2 _

/-- **Every outlined value makes a node**: `Makes` by induction on `Outlined`. -/
theorem makes_of_outlined (h : Outlined value) : Makes true value := by
  induction h with
  | bool b => exact makes_scalar (.inr ⟨b, rfl⟩)
  | text text => exact makes_scalar (.inl ⟨text, rfl⟩)
  | texts texts => exact makes_texts texts
  | mapping hne hnames hpairwise hvalues ih =>
      have hentries := Outlined.entry (.mapping hne hnames hpairwise hvalues)
      exact makes_mapping (fun entry hentry => (hentries entry hentry).1) fun entry hentry =>
        ⟨hvalues entry hentry, ih entry hentry⟩

end Parse

/-! ## Documents -/

/-- **The tokens of an outlined mapping make its graph**: `Graph.ofTokens` of `valueTokens`, whose
first node `Stands` for it. -/
theorem ofTokens_valueTokens {entries : Entries} (h : Outlined (.mapping entries)) :
    ∃ nodes, Graph.ofTokens (valueTokens (.mapping entries)) = .ok (some ⟨nodes, 0⟩) ∧
      Stands nodes 0 (.mapping entries) := by
  have hmakes : Parse.Makes false (.mapping entries) :=
    Parse.makes_mapping (fun entry hentry => (h.entry entry hentry).1) fun entry hentry =>
      ⟨(h.entry entry hentry).2, Parse.makes_of_outlined (h.entry entry hentry).2⟩
  obtain ⟨nodes, hrun, -, hstands⟩ := @hmakes (4 * (valueTokens (.mapping entries)).length + 8) []
    Parse.usualHandles #[] (by omega) nofun nofun
  refine ⟨nodes, ?_, hstands⟩
  rw [List.append_nil] at hrun
  have hdocument : Parse.document.run { tokens := valueTokens (.mapping entries) } =
      .ok (some 0, ⟨[], Parse.usualHandles, nodes, []⟩) := by
    rw [valueTokens, List.cons_append] at hrun ⊢
    rw [Parse.document, run_get_bind]
    simp only [List.isEmpty_cons, Bool.false_eq_true, if_false, Parse.startsBare, if_true]
    refine (run_bind_of_run (rfl : (modify _ : Parse Unit).run _ = .ok (_, _))).trans ?_
    exact (run_bind_of_run hrun).trans rfl
  rw [Graph.ofTokens, hdocument]
  rfl

end TreeSift.Yaml
