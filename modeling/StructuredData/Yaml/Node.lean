import StructuredData.Yaml.Reading
import StructuredData.Yaml.Token

/-!
# YAML nodes

A document is a graph of nodes: scalars, sequences and mappings, each of the kind that its tag names
or its look shows.  Nodes are numbered as they are read, and a collection names its parts by number.
So an alias is the number of the node that its anchor names, which may also be a collection around
it.

`NodeGraph.ofSource` reads a text that holds at most one document.
-/

namespace StructuredData

namespace Yaml

/-- The number of a node. -/
abbrev NodeId := Nat

/-- What is written at a node. -/
inductive Content
  | scalar (text : Text)
  | sequence (items : List NodeId)
  | mapping (entries : List (NodeId × NodeId))
deriving DecidableEq

/-- A node: what it is read as, and what is written there. -/
structure Node where
  kind : Kind
  content : Content
deriving DecidableEq

/-- Nodes by number, and the node at the root. -/
structure NodeGraph where
  nodes : Array Node
  root : NodeId

/-- The tag handles of a document. -/
abbrev Handles := List (Text × Text)

/-- The tokens that are left, the anchors read so far, and the nodes met so far. -/
structure Progress where
  tokens : List Token
  anchors : List (Text × NodeId)
  nodes : Array Node

/-- What is the same for all of a document: its tag handles, the fault with which its tokens end,
and how deep its nodes may nest. -/
structure Surroundings where
  handles : Handles
  fault : TokenFault
  deepest : Nat

/-- Reading a part of a document. -/
abbrev Reading := ReaderT Surroundings (StateT Progress (Except Fault))

namespace Reading

/-- The text is no YAML. -/
def fail {α : Type} : Reading α := throw .malformed

/-- The next token, which stays. -/
def peek : Reading Token := do
  match (← get).tokens with
  | [] => throw (.token (← read).fault)
  | token :: _ => return token

/-- Passes over the next token. -/
def skip : Reading Unit := modify fun p => { p with tokens := p.tokens.drop 1 }

/-- Passes over the next token if it is the given one. -/
def accept (token : Token) : Reading Bool := do
  if (← peek) = token then skip; return true else return false

/-- Passes over the given token, which must come next. -/
def expect (token : Token) : Reading Unit := do
  if !(← accept token) then fail

/-- A node that has not been met before. -/
def newNode (node : Node) : Reading NodeId := do
  let id := (← get).nodes.size
  modify fun p => { p with nodes := p.nodes.push node }
  return id

/-- A node of which nothing is written. -/
def absent : Reading NodeId := newNode ⟨Kind.ofLook [], .scalar []⟩

/-- Lets an anchor, if there is one, name a node. -/
def anchor (name : Option Text) (id : NodeId) : Reading Unit :=
  modify fun p => match name with
    | some name => { p with anchors := (name, id) :: p.anchors }
    | none => p

/-- The node an alias stands for. -/
def aliased (name : Text) : Reading NodeId := do
  match (← get).anchors.find? fun a => a.1 = name with
  | none => fail
  | some (_, id) => return id

/-- Checks that no node met so far has the given anchor. -/
def checkNewAnchor (name : Option Text) : Reading Unit := do
  if (← get).anchors.any fun a => some a.1 = name then fail

/-- The full tag of a handle and a suffix. -/
def fullTag (handle : Option Text) (suffix : Text) : Reading Text := do
  match handle with
  | none => return suffix
  | some handle =>
    match (← read).handles.find? fun h => h.1 = handle with
    | none => fail
    | some (_, lead) => return lead ++ suffix

/-- The anchor and the tag before a node, in either order. -/
def properties : Reading (Option Text × Option Text) := do
  match ← peek with
  | .anchor name =>
    skip
    match ← peek with
    | .tag handle suffix => skip; return (some name, ← fullTag handle suffix)
    | _ => return (some name, none)
  | .tag handle suffix =>
    skip
    match ← peek with
    | .anchor name => skip; return (some name, ← fullTag handle suffix)
    | _ => return (none, ← fullTag handle suffix)
  | _ => return (none, none)

end Reading

open Reading

/-- Where a node may stand: in a flow collection, in a block, or in a block where a sequence need
not be indented. -/
inductive Position
  | flow
  | block
  | blockOrIndentless
deriving DecidableEq

/-- The kind of a scalar.  The tag `!` asks for the look of the scalar, as no tag does for a plain
one. -/
def scalarKind (tag : Option Text) (plain : Bool) (t : Text) : Kind :=
  match tag with
  | none => if plain then Kind.ofLook t else .string
  | some tag => if tag = "!" then Kind.ofLook t else Kind.ofTag tag

/-- The kind of a collection, which is what it is without a tag or with the tag `!`. -/
def collectionKind (tag : Option Text) (untagged : Kind) : Kind :=
  match tag with
  | none => untagged
  | some tag => if tag = "!" then untagged else Kind.ofTag tag

mutual

/-- Reads a node at a depth.  The fuel is more than twice the number of tokens. -/
def readNode : Nat → Position → Nat → Reading NodeId
  | 0, _, _ => fail
  | fuel + 1, position, depth => do
    if (← read).deepest < depth then throw .tooDeep
    match ← peek with
    | .alias name => skip; aliased name
    | _ =>
      let (name, tag) ← properties
      let scalar (t : Text) (plain : Bool) : Reading NodeId := do
        checkNewAnchor name
        let id ← newNode ⟨scalarKind tag plain t, .scalar t⟩
        anchor name id
        return id
      let collection (kind : Kind) (content : Reading Content) : Reading NodeId := do
        checkNewAnchor name
        let kind := collectionKind tag kind
        let id ← newNode ⟨kind, .sequence []⟩
        anchor name id
        let content ← content
        modify fun p => { p with nodes := p.nodes.setIfInBounds id ⟨kind, content⟩ }
        return id
      let sequence (items : Reading (List NodeId)) : Reading NodeId :=
        collection .sequence do return .sequence (← items)
      let mapping (entries : Reading (List (NodeId × NodeId))) : Reading NodeId :=
        collection .mapping do return .mapping (← entries)
      let empty : Reading NodeId := do
        if name.isNone && tag.isNone then fail
        scalar [] true
      match ← peek with
      | .scalar t plain => skip; scalar t plain
      | .flowSequenceStart => sequence do skip; readFlowItems fuel true (depth + 1)
      | .flowMappingStart => mapping do skip; readFlowEntries fuel true (depth + 1)
      | .blockEntry =>
        if position = .blockOrIndentless then sequence (readIndentlessItems fuel (depth + 1))
        else empty
      | .blockSequenceStart =>
        if position = .flow then empty
        else sequence do skip; readBlockItems fuel (depth + 1)
      | .blockMappingStart =>
        if position = .flow then empty
        else mapping do skip; readBlockEntries fuel (depth + 1)
      | _ => empty

/-- Reads the items of a block sequence. -/
def readBlockItems : Nat → Nat → Reading (List NodeId)
  | 0, _ => fail
  | fuel + 1, depth => do
    if ← accept .blockEntry then
      let token ← peek
      let n ← if token = .blockEntry || token = .blockEnd then absent
        else readNode fuel .block depth
      return n :: (← readBlockItems fuel depth)
    else
      expect .blockEnd
      return []

/-- Reads the items of a sequence that is not indented. -/
def readIndentlessItems : Nat → Nat → Reading (List NodeId)
  | 0, _ => fail
  | fuel + 1, depth => do
    if ← accept .blockEntry then
      let token ← peek
      let n ←
        if token = .blockEntry || token = .key || token = .value || token = .blockEnd then absent
        else readNode fuel .block depth
      return n :: (← readIndentlessItems fuel depth)
    else return []

/-- Reads the entries of a block mapping. -/
def readBlockEntries : Nat → Nat → Reading (List (NodeId × NodeId))
  | 0, _ => fail
  | fuel + 1, depth => do
    let part : Reading NodeId := do
      let token ← peek
      if token = .key || token = .value || token = .blockEnd then absent
      else readNode fuel .blockOrIndentless depth
    if ← accept .key then
      let key ← part
      let value ← if ← accept .value then part else absent
      return (key, value) :: (← readBlockEntries fuel depth)
    else
      expect .blockEnd
      return []

/-- Reads the items of a flow sequence.  An item with a colon is a mapping of one entry. -/
def readFlowItems : Nat → Bool → Nat → Reading (List NodeId)
  | 0, _, _ => fail
  | fuel + 1, isFirst, depth => do
    if ← accept .flowSequenceEnd then return []
    if !isFirst then expect .flowEntry
    if ← accept .key then
      let ends (token : Token) : Bool := token = .flowEntry || token = .flowSequenceEnd
      let first ← peek
      let key ← if first = .value || ends first then absent else readNode fuel .flow (depth + 1)
      let value ←
        if ← accept .value then
          if ends (← peek) then absent else readNode fuel .flow (depth + 1)
        else absent
      let n ← newNode ⟨.mapping, .mapping [(key, value)]⟩
      return n :: (← readFlowItems fuel false depth)
    else if ← accept .flowSequenceEnd then return []
    else
      let n ← readNode fuel .flow depth
      return n :: (← readFlowItems fuel false depth)

/-- Reads the entries of a flow mapping. -/
def readFlowEntries : Nat → Bool → Nat → Reading (List (NodeId × NodeId))
  | 0, _, _ => fail
  | fuel + 1, isFirst, depth => do
    if ← accept .flowMappingEnd then return []
    if !isFirst then expect .flowEntry
    let ends (token : Token) : Bool := token = .flowEntry || token = .flowMappingEnd
    if ← accept .key then
      let first ← peek
      let key ← if first = .value || ends first then absent else readNode fuel .flow depth
      let value ←
        if ← accept .value then
          if ends (← peek) then absent else readNode fuel .flow depth
        else absent
      return (key, value) :: (← readFlowEntries fuel false depth)
    else if ← accept .flowMappingEnd then return []
    else
      let key ← readNode fuel .flow depth
      let value ← absent
      return (key, value) :: (← readFlowEntries fuel false depth)

end

/-! ## Documents -/

/-- The handles that every document has. -/
def standardHandles : Handles := [("!", "!"), ("!!", "tag:yaml.org,2002:")]

/-- Reads the directives before a document: at most one version, which is 1, and tag handles that
are all different. -/
def readDirectives : Nat → Bool → Handles → Reading Handles
  | 0, _, _ => fail
  | fuel + 1, hasVersion, handles => do
    match ← peek with
    | .directive (.version major) =>
      if hasVersion || major ≠ 1 then fail
      skip
      readDirectives fuel true handles
    | .directive (.tagHandle handle lead) =>
      if handles.any fun h => h.1 = handle then fail
      skip
      readDirectives fuel hasVersion ((handle, lead) :: handles)
    | .directive .other => skip; readDirectives fuel hasVersion handles
    | _ => return handles

/-- Passes over the marks that end a document. -/
def skipDocumentEnds : Nat → Reading Unit
  | 0 => fail
  | fuel + 1 => do if ← accept .documentEnd then skipDocumentEnds fuel

/-- Reads to the end of the text: no other document may start before it, nor anything else come. -/
def readTextEnd (fuel : Nat) : Reading Unit := do
  skipDocumentEnds fuel
  if ← accept .textEnd then return
  let _ ← readDirectives fuel false []
  fail

/-- Reads the content of a document after its opening mark. -/
def readContent (fuel : Nat) : Reading NodeId := do
  match ← peek with
  | .directive _ | .documentStart | .documentEnd | .textEnd => absent
  | _ => readNode fuel .block 1

/-- Reads the only document of a text, or finds that there is none. -/
def readDocument (fuel : Nat) : Reading (Option NodeId) := do
  match ← peek with
  | .textEnd => return none
  | .directive _ | .documentStart =>
    let handles ← readDirectives fuel false []
    expect .documentStart
    let id ← withReader (fun s => { s with handles := handles ++ standardHandles })
      (readContent fuel)
    readTextEnd fuel
    return some id
  | _ =>
    let id ← readNode fuel .block 1
    readTextEnd fuel
    return some id

/-- The nodes that a text writes, nested at most so deep, none if the text holds no document. -/
def NodeGraph.ofSource (deepest : Nat) (s : Source) : Except Fault (Option NodeGraph) := do
  let (row, fault) := s.tokens
  let (id, p) ←
    readDocument (3 * row.length + 3) ⟨standardHandles, fault.getD .malformed, deepest⟩
      ⟨row, [], #[]⟩
  return id.map fun id => ⟨p.nodes, id⟩

end Yaml

end StructuredData
