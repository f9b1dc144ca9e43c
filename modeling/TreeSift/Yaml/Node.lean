import TreeSift.Yaml.Tag
import TreeSift.Yaml.Token

/-! # Nodes

A document is a graph of nodes: scalars, lists and mappings with their tags, which name their parts
by place, the keys of a mapping as well. `Graph.ofTokens` builds the graph of the only document of a
text from its tokens. An alias is the place of the node with its anchor, so that a node may hold
itself. -/

namespace TreeSift.Yaml

/-- The place of a node in the `nodes` of its graph. -/
abbrev NodeId := Nat

/-- What a `Node` is made of. -/
inductive Shape where
  /-- The text of a scalar. -/
  | scalar (content : String)
  /-- The items of a list. -/
  | list (items : List NodeId)
  /-- The keys and values of a mapping. -/
  | mapping (entries : List (NodeId × NodeId))
  deriving DecidableEq, Repr, Inhabited

/-- Whether a node has a text of its own. -/
def Shape.isScalar : Shape → Bool
  | .scalar _ => true
  | .list _ | .mapping _ => false

/-- **A node of a document**: its tag, and its `Shape`. -/
structure Node where
  /-- The tag. -/
  tag : Tag
  /-- The parts. -/
  shape : Shape
  deriving DecidableEq, Repr

/-- **The nodes of a document**, which an alias lets refer to one another by `NodeId`. -/
structure Graph where
  /-- The nodes by their places. -/
  nodes : Array Node
  /-- The node of the whole document. -/
  root : NodeId

/-- What is known on the way through the tokens of a document, the state of a `Parse`. -/
structure ParseState where
  /-- The tokens that are left. -/
  tokens : List Token
  /-- What the handles of tags stand for. -/
  handles : List (String × String) := []
  /-- The nodes so far. -/
  nodes : Array Node := #[]
  /-- The nodes of anchors. -/
  anchors : List (String × NodeId) := []

/-- A step on the way through tokens, which a `Refusal` ends. -/
abbrev Parse := StateT ParseState (Except Refusal)

namespace Parse

/-- Refuses the tokens. -/
def refuse {α : Type} : Parse α :=
  throw .malformed

/-! ## Tokens -/

/-- The next token, if there is one. -/
def peek : Parse (Option Token) := do
  match (← get).tokens with
  | .broken refusal :: _ => throw refusal
  | tokens => return tokens.head?

/-- Leaves out the next token. -/
def drop : Parse Unit :=
  modify fun s => { s with tokens := s.tokens.tail }

/-- Takes a token if it comes next. -/
def accept (token : Token) : Parse Bool := do
  if (← peek) == some token then
    drop
    return true
  else return false

/-- Takes a token that has to come next. -/
def expect (token : Token) : Parse Unit := do
  if !(← accept token) then refuse

/-- Whether one of the tokens comes next. -/
def comes (tokens : List Token) : Parse Bool := do
  match ← peek with
  | some token => return tokens.contains token
  | none => return false

/-! ## Anchors and tags -/

/-- Takes an anchor if it comes next. -/
def anchor? : Parse (Option String) := do
  match ← peek with
  | some (.anchor name) =>
    drop
    return some name
  | _ => return none

/-- Takes a tag if it comes next. -/
def writtenTag? : Parse (Option (Option String × String)) := do
  match ← peek with
  | some (.tag handle? suffix) =>
    drop
    return some (handle?, suffix)
  | _ => return none

/-- A tag in full, given its handle and what follows it. The handle has to be among the `handles` of
the document. -/
def fullTag : Option String × String → Parse String
  | (none, suffix) => return suffix
  | (some handle, suffix) => do
    match (← get).handles.lookup handle with
    | some start => return start ++ suffix
    | none => refuse

/-- The anchor and the tag before a node, in either order, by `anchor?` and `writtenTag?`. The
handle of the tag is looked up when both have been taken. -/
def properties : Parse (Option String × Option String) := do
  match ← anchor? with
  | some name =>
    match ← writtenTag? with
    | some written => return (some name, some (← fullTag written))
    | none => return (some name, none)
  | none =>
    match ← writtenTag? with
    | some written =>
      let name? ← anchor?
      return (name?, some (← fullTag written))
    | none => return (none, none)

/-- The tag of a node by `Tag.ofUri`, given its written tag and the one that it has otherwise. An
exclamation mark alone asks for the latter. -/
def tagOr (uri? : Option String) (otherwise : Tag) : Tag :=
  match uri? with
  | none | some "!" => otherwise
  | some uri => .ofUri uri

/-- The tag of a scalar: `Tag.ofContent` if it is plain. One between quotes is a text unless it has
a tag. -/
def scalarTag (uri? : Option String) (content : String) (plain : Bool) : Tag :=
  if uri?.isNone && !plain then .text else tagOr uri? (.ofContent content)

/-! ## Nodes -/

/-- Adds a node, which an anchor may name. -/
def add (name? : Option String) (tag : Tag) (shape : Shape) : Parse NodeId := do
  let s ← get
  let id := s.nodes.size
  let anchors :=
    match name? with
    | some name => (name, id) :: s.anchors
    | none => s.anchors
  set { s with nodes := s.nodes.push ⟨tag, shape⟩, anchors }
  return id

/-- Gives a node its parts, which may refer to it, since `add` has given it a place before. -/
def fill (id : NodeId) (shape : Shape) : Parse NodeId := do
  modify fun s => { s with nodes := s.nodes.modify id fun node => { node with shape } }
  return id

/-- Refuses an anchor that is there already. -/
def checkAnchor (name? : Option String) : Parse Unit := do
  match name? with
  | none => pure ()
  | some name => if ((← get).anchors.lookup name).isSome then refuse

/-- The node that an alias names. -/
def aliased (name : String) : Parse NodeId := do
  match (← get).anchors.lookup name with
  | none => refuse
  | some id => return id

/-- The scalar that stands for a node that is left out. -/
def empty : Parse NodeId :=
  add none .null (.scalar "")

/-- The node of an anchor or a tag with nothing after it. -/
def missing (name? uri? : Option String) : Parse NodeId :=
  if name?.isNone && uri?.isNone then refuse
  else add name? (tagOr uri? .null) (.scalar "")

mutual

/-- The node that comes next. Collections by indentation are allowed if `block` holds, and a list
that is not indented deeper than the mapping around it if `level` holds. The first argument bounds
the calls; each token needs four at most. -/
def node : Nat → Bool → Bool → Parse NodeId
  | 0, _, _ => refuse
  | fuel + 1, block, level => do
    match ← peek with
    | some (.alias name) =>
      drop
      aliased name
    | _ =>
      let (name?, uri?) ← properties
      -- the token after the anchor has to be there before the anchor is checked
      let _ ← peek
      checkAnchor name?
      nodeBody fuel block level name? uri?

/-- The node after its anchor and tag, which `properties` has taken. -/
def nodeBody : Nat → Bool → Bool → Option String → Option String → Parse NodeId
  | 0, _, _, _, _ => refuse
  | fuel + 1, block, level, name?, uri? => do
    match ← peek with
    | some (.scalar content plain) =>
      drop
      add name? (scalarTag uri? content plain) (.scalar content)
    | some .item =>
      -- hyphens in the column of the mapping around make a list without tokens of its own
      if level then
        let id ← add name? (tagOr uri? .list) (.list [])
        fill id (.list (← levelItems fuel))
      else missing name? uri?
    | some .flowListStart =>
      drop
      let id ← add name? (tagOr uri? .list) (.list [])
      fill id (.list (← flowItems fuel true))
    | some .flowMappingStart =>
      drop
      let id ← add name? (tagOr uri? .mapping) (.mapping [])
      fill id (.mapping (← flowEntries fuel true))
    | some .blockListStart =>
      if block then
        drop
        let id ← add name? (tagOr uri? .list) (.list [])
        fill id (.list (← blockItems fuel))
      else missing name? uri?
    | some .blockMappingStart =>
      if block then
        drop
        let id ← add name? (tagOr uri? .mapping) (.mapping [])
        fill id (.mapping (← blockEntries fuel))
      else missing name? uri?
    | _ => missing name? uri?

/-- A node, or the `empty` one if one of the tokens comes next. -/
def nodeUnless : Nat → List Token → Bool → Bool → Parse NodeId
  | 0, _, _, _ => refuse
  | fuel + 1, tokens, block, level => do
    if ← comes tokens then empty else node fuel block level

/-- The items of a list by indentation, each by `nodeUnless`, and its end. -/
def blockItems : Nat → Parse (List NodeId)
  | 0 => refuse
  | fuel + 1 => do
    if ← accept .item then
      let first ← nodeUnless fuel [.item, .blockEnd] true false
      return first :: (← blockItems fuel)
    else
      expect .blockEnd
      return []

/-- The items of a list that has no indentation of its own, which no token ends as it does in
`blockItems`. -/
def levelItems : Nat → Parse (List NodeId)
  | 0 => refuse
  | fuel + 1 => do
    if ← accept .item then
      let first ← nodeUnless fuel [.item, .key, .value, .blockEnd] true false
      return first :: (← levelItems fuel)
    else return []

/-- The entries of a mapping by indentation, each by `nodeUnless`, and its end. -/
def blockEntries : Nat → Parse (List (NodeId × NodeId))
  | 0 => refuse
  | fuel + 1 => do
    let ends : List Token := [.key, .value, .blockEnd]
    if ← accept .key then
      let key ← nodeUnless fuel ends true true
      let value ← if ← accept .value then nodeUnless fuel ends true true else empty
      return (key, value) :: (← blockEntries fuel)
    else
      expect .blockEnd
      return []

/-- The items of a list in brackets, and its end. A key makes an item of its own, a mapping with
one entry. -/
def flowItems : Nat → Bool → Parse (List NodeId)
  | 0, _ => refuse
  | fuel + 1, first => do
    if ← accept .flowListEnd then return []
    else
      if !first then expect .comma
      if ← accept .flowListEnd then return []
      else
        let ends : List Token := [.comma, .flowListEnd]
        let item ←
          if ← accept .key then do
            let key ← nodeUnless fuel (.value :: ends) false false
            let value ←
              if ← accept .value then nodeUnless fuel ends false false else empty
            add none .mapping (.mapping [(key, value)])
          else node fuel false false
        return item :: (← flowItems fuel false)

/-- The entries of a mapping in braces, and its end. -/
def flowEntries : Nat → Bool → Parse (List (NodeId × NodeId))
  | 0, _ => refuse
  | fuel + 1, first => do
    if ← accept .flowMappingEnd then return []
    else
      if !first then expect .comma
      if ← accept .flowMappingEnd then return []
      else
        let ends : List Token := [.comma, .flowMappingEnd]
        let entry ←
          if ← accept .key then do
            let key ← nodeUnless fuel (.value :: ends) false false
            let value ←
              if ← accept .value then nodeUnless fuel ends false false else empty
            pure (key, value)
          else do
            let key ← node fuel false false
            pure (key, ← empty)
        return entry :: (← flowEntries fuel false)

end

/-! ## Documents -/

/-- Leaves out marks of the end of a document. -/
def dropEnds : List Token → List Token
  | .documentEnd :: tokens => dropEnds tokens
  | tokens => tokens

/-- Whether one of the directives gives a version. -/
def hasVersion (directives : List Directive) : Bool :=
  directives.any fun directive => directive matches .version _

/-- Whether a directive defines a handle. -/
def definesHandle (name : String) : Directive → Bool
  | .handle defined _ => defined == name
  | _ => false

/-- Takes the directives before a document, given the ones already taken. There may be one version,
which has to be of the first generation, and one meaning for each handle, as `definesHandle` tells.
-/
def directives : List Token → List Directive → Parse (List Directive)
  | .directive d :: tokens, taken => do
    drop
    match d with
    | .version major => if hasVersion taken || major != 1 then refuse
    | .handle name _ =>
      if taken.any (definesHandle name) then refuse
    | .other => pure ()
    directives tokens (d :: taken)
  | _, taken => return taken

/-- The handles that are there without a directive. -/
def usualHandles : List (String × String) :=
  [("!", "!"), ("!!", Tag.knownStart)]

/-- The handles that directives define, before the `usualHandles`. -/
def handlesOf (directives : List Directive) : List (String × String) :=
  (directives.filterMap fun directive =>
    match directive with
    | .handle name start => some (name, start)
    | _ => none) ++ usualHandles

/-- Whether a document starts without a mark. -/
def startsBare : List Token → Bool
  | [] => false
  | .directive _ :: _ => false
  | .documentStart :: _ => false
  | _ => true

/-- The node of a document that starts with a mark. -/
def markedDocument (fuel : Nat) : Parse NodeId := do
  let taken ← directives (← get).tokens []
  modify fun s => { s with handles := handlesOf taken }
  expect .documentStart
  match ← peek with
  | none | some .documentStart | some .documentEnd | some (.directive _) => empty
  | _ => node fuel true false

/-- The node of the only document, if there is one, with or without its mark as `startsBare` tells.
-/
def document : Parse (Option NodeId) := do
  let tokens := (← get).tokens
  let fuel := 4 * tokens.length + 8
  if tokens.isEmpty then return none
  let built ←
    if startsBare tokens then do
      modify fun s => { s with handles := usualHandles }
      node fuel true false
    else markedDocument fuel
  modify fun s => { s with tokens := dropEnds s.tokens }
  match ← peek with
  | none => return some built
  | some _ =>
    -- whatever comes is too much, but directives are taken first
    let _ ← directives (← get).tokens []
    let _ ← peek
    refuse

end Parse

/-- **The graph that tokens write**, if they hold a `document`. They must not hold another one. -/
def Graph.ofTokens (tokens : List Token) : Except Refusal (Option Graph) := do
  let (root?, state) ← Parse.document.run { tokens }
  return root?.map fun root => ⟨state.nodes, root⟩

end TreeSift.Yaml
