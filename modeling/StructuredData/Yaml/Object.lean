import StructuredData.Yaml.Data
import StructuredData.Yaml.Merge
import StructuredData.Yaml.Source

/-!
# Objects of a document

Each node of a document stands for one object: a scalar, or a collection of the objects of other
nodes.  A mapping keeps a key at its first place with its last value.

Objects are made level by level from the root on: a collection is made when everything nearer to
the root has been, and its scalars with it.  So of several faults in a document the one nearest to
the root is met, and of those at one depth the first.

`Data.ofSource` shows the objects as data down to some depth, since a collection can hold itself.

Nested nodes, mappings that are merged into one another and values under `=` are followed by calls
inside calls, of which only so many may be open at once (`Depths`).
-/

namespace StructuredData

namespace Yaml

/-- How deep nodes may nest, and how many levels of merged mappings and of values under `=` may be
followed. -/
structure Depths where
  nodes : Nat
  merges : Nat
  values : Nat

/-- A scalar as the key of a mapping.  Not a number is a key of its own at each node where it is
reckoned, and one and the same wherever its word is written. -/
structure Key where
  scalar : Scalar
  reckonedAt : Option NodeId

/-- Whether two keys are the same. -/
def Key.same (a b : Key) : Bool := a.reckonedAt = b.reckonedAt && a.scalar.same b.scalar

/-- The object of a node; the parts of a collection are known by their nodes. -/
inductive Object
  | scalar (key : Key)
  | list (items : List NodeId)
  | mapping (entries : List (Key × NodeId))
  | set (keys : List Key)
  | pairs (row : Row)

/-- Enters a value: in place where the key is there, at the end otherwise. -/
def putEntry (key : Key) (value : NodeId) : List (Key × NodeId) → List (Key × NodeId)
  | [] => [(key, value)]
  | entry :: rest =>
    if entry.1.same key then (entry.1, value) :: rest else entry :: putEntry key value rest

/-- Nodes with the objects made for them, and the collections that are not yet filled, the last one
first. -/
structure Workpiece where
  nodes : Array Node
  objects : Array (Option Object)
  unfilled : List NodeId

/-- Making the objects of a document. -/
abbrev Making := ReaderT Depths (StateT Workpiece (Except Fault))

/-- The text of a node that is read as a scalar: its own, or that of a mapping's value under `=`, at
most so many levels down. -/
def scalarText (nodes : Array Node) : Nat → NodeId → Except Fault Text
  | 0, _ => .error .tooDeep
  | depth + 1, id =>
    match contentAt nodes id with
    | .scalar t => .ok t
    | .mapping entries =>
      match entries.find? fun entry => kindAt nodes entry.1 = .value with
      | some (_, value) => scalarText nodes depth value
      | none => .error .malformed
    | .sequence _ => .error .malformed

/-- The key that the text of a node stands for. -/
def readKey (depth : Nat) (nodes : Array Node) (id : NodeId) (kind : Kind) : Except Fault Key := do
  let t ← scalarText nodes depth id
  match kind, contentAt nodes id with
  | .timestamp, .mapping _ => throw .mappingAsTimestamp
  | _, _ =>
    let s ← Scalar.read kind t
    let isReckoned := s = .number (.float .nan) && !Scalar.isNanWord t
    return ⟨s, if isReckoned then some id else none⟩

namespace Making

/-- The object made for a node. -/
def object? (id : NodeId) : Making (Option Object) := return ((← get).objects[id]?).join

/-- Records the object of a node. -/
def setObject (id : NodeId) (o : Object) : Making Unit :=
  modify fun w => { w with objects := w.objects.setIfInBounds id (some o) }

/-- Makes the object of a node unless it is made: a scalar, or a collection to be filled later. -/
def make (id : NodeId) : Making Unit := do
  if (← object? id).isSome then return
  let nodes := (← get).nodes
  match kindAt nodes id with
  | .sequence | .mapping | .set | .orderedMapping | .pairs =>
    setObject id (.list [])
    modify fun w => { w with unfilled := id :: w.unfilled }
  | .merge | .value | .unknown => throw .malformed
  | kind => setObject id (.scalar (← readKey (← read).values nodes id kind))

/-- The items of a sequence. -/
def items (id : NodeId) : Making (List NodeId) := do
  match contentAt (← get).nodes id with
  | .sequence items => return items
  | _ => throw .malformed

/-- Makes the entries of a mapping, with all that is merged into it. -/
def entries (id : NodeId) : Making (List (Key × NodeId)) := do
  let w ← get
  match contentAt w.nodes id with
  | .mapping _ =>
    let (row, nodes) ← (Merging.mergedRow (← read).merges id).run w.nodes
    set { w with nodes := nodes }
    row.foldlM (fun entries (key, value) => do
      make key
      match ← object? key with
      | some (.scalar k) =>
        make value
        return putEntry k value entries
      | _ => throw .malformed) []
  | _ => throw .malformed

/-- Makes the pairs that mappings of one entry each stand for. -/
def pairs (id : NodeId) : Making Row := do
  (← items id).mapM fun item => do
    match contentAt (← get).nodes item with
    | .mapping [(key, value)] =>
      make key
      make value
      return (key, value)
    | _ => throw .malformed

/-- Fills a collection. -/
def fill (id : NodeId) : Making Unit := do
  let o : Object ← match kindAt (← get).nodes id with
    | .mapping => pure (.mapping (← entries id))
    | .set => pure (.set ((← entries id).map (·.1)))
    | .orderedMapping | .pairs => pure (.pairs (← pairs id))
    | _ =>
      let items ← items id
      items.forM make
      pure (.list items)
  setObject id o

/-- Fills the collections level by level.  The fuel is more than the number of nodes. -/
def fillAll : Nat → Making Unit
  | 0 => return
  | fuel + 1 => do
    let w ← get
    if w.unfilled.isEmpty then return
    set { w with unfilled := [] }
    w.unfilled.reverse.forM fill
    fillAll fuel

end Making

/-- Nodes with the objects of all that can be reached from the root. -/
def NodeGraph.objects (g : NodeGraph) (depths : Depths) :
    Except Fault (Array (Option Object)) := do
  let start : Workpiece := ⟨g.nodes, Array.replicate g.nodes.size none, []⟩
  let work : Making Unit := do Making.make g.root; Making.fillAll (g.nodes.size + 1)
  let (_, w) ← (work.run depths).run start
  return w.objects

/-- The object of a node as data.  Collections more than so many levels down are shown without what
they hold. -/
def unfold (objects : Array (Option Object)) : Nat → NodeId → Data
  | depth, id =>
    match objects[id]?.join with
    | none => .scalar .null
    | some (.scalar k) => .scalar k.scalar
    | some (.set keys) => .set (keys.map (·.scalar))
    | some (.list items) =>
      match depth with
      | 0 => .list []
      | depth + 1 => .list (items.map (unfold objects depth))
    | some (.mapping entries) =>
      match depth with
      | 0 => .mapping []
      | depth + 1 => .mapping (entries.map fun e => (e.1.scalar, unfold objects depth e.2))
    | some (.pairs row) =>
      match depth with
      | 0 => .list []
      | depth + 1 =>
        .list (row.map fun e => .pair (unfold objects depth e.1) (unfold objects depth e.2))

/-- The data that a text writes, shown down to a depth; a text without a document writes null. -/
def Data.ofSource (depths : Depths) (depth : Nat) (s : Source) : Except Fault Data := do
  match ← NodeGraph.ofSource depths.nodes s with
  | none => return .scalar .null
  | some g => return unfold (← g.objects depths) depth g.root

/-- The reader that follows nodes, mappings and values so deep and shows the data down to a depth.
-/
def reader (depths : Depths) (depth : Nat) : Reader := fun (pieces, fault) =>
  Data.ofSource depths depth (.ofPieces pieces fault)

end Yaml

end StructuredData
