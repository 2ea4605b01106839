import StructuredData.Yaml.Node

/-!
# Merging mappings

An entry of a mapping whose key is `<<` stands for the entries of another mapping, or of several
mappings in a sequence, the last of them first.  Such entries come before the mapping's own ones.

Merging changes the nodes: the mapping and those merged into it hold the entries they stand for
afterwards, which shows wherever else they are used.  In a mapping that is merged into itself the
entries are those it has at that point.  A key `=` is a text from then on.
-/

namespace StructuredData

namespace Yaml

/-- The entries of a mapping, by the numbers of keys and values. -/
abbrev Row := List (NodeId × NodeId)

/-- Work on the nodes of a document. -/
abbrev Merging := StateT (Array Node) (Except Fault)

namespace Node

/-- The entries written at a node. -/
def row (n : Node) : Row :=
  match n.content with
  | .mapping entries => entries
  | _ => []

end Node

/-- The kind of a node of some nodes. -/
def kindAt (nodes : Array Node) (id : NodeId) : Kind := (nodes[id]?.map (·.kind)).getD .unknown

/-- What is written at a node of some nodes. -/
def contentAt (nodes : Array Node) (id : NodeId) : Content :=
  (nodes[id]?.map (·.content)).getD (.scalar [])

/-- The entries written at a node of some nodes. -/
def rowAt (nodes : Array Node) (id : NodeId) : Row := (nodes[id]?.map (·.row)).getD []

namespace Merging

/-- The entries of a mapping. -/
def rowOf (id : NodeId) : Merging Row := return rowAt (← get) id

/-- Gives a mapping other entries. -/
def setRow (id : NodeId) (row : Row) : Merging Unit :=
  modify fun nodes => nodes.modify id fun n => { n with content := .mapping row }

/-- Takes the first entry with the key `<<` out of a mapping: its value. -/
def takeMergeEntry (id : NodeId) : Merging (Option NodeId) := do
  let nodes ← get
  match (← rowOf id).span fun entry => kindAt nodes entry.1 ≠ .merge with
  | (_, []) => return none
  | (before, (_, value) :: after) =>
    setRow id (before ++ after)
    return some value

/-- Makes a key `=` a text. -/
def makeText (key : NodeId) : Merging Unit :=
  modify fun nodes => nodes.modify key fun n =>
    if n.kind = .value then { n with kind := .string } else n

/-- Puts entries in front of those of a mapping, whose keys are texts: all its entries. -/
def putFirst (id : NodeId) (merged : Row) : Merging Row := do
  let own ← rowOf id
  own.forM fun entry => makeText entry.1
  setRow id (merged ++ own)
  return merged ++ own

/-- The entries that the keys `<<` of a mapping stand for, after some others; the keys are taken
out.  The fuel is at least the number of such keys in the document, each of which is taken out
once.  The mappings that are merged may have such keys in their turn, so many levels down. -/
def takeMerged : Nat → Nat → NodeId → Row → Merging Row
  | 0, _, _, merged => return merged
  | fuel + 1, depth, id, merged => do
    match ← takeMergeEntry id with
    | none => return merged
    | some value =>
      let flatRow (id : NodeId) : Merging Row := do
        match depth with
        | 0 => throw .tooDeep
        | depth + 1 => putFirst id (← takeMerged fuel depth id [])
      match contentAt (← get) value with
      | .mapping _ => takeMerged fuel depth id (merged ++ (← flatRow value))
      | .sequence items =>
        let rows ← items.mapM fun item => do
          match contentAt (← get) item with
          | .mapping _ => flatRow item
          | _ => throw .malformed
        takeMerged fuel depth id (merged ++ rows.reverse.flatten)
      | .scalar _ => throw .malformed

/-- The number of keys `<<` in a document. -/
def mergeKeys (nodes : Array Node) : Nat :=
  nodes.foldl (fun n node => n + (node.row.countP fun entry => kindAt nodes entry.1 = .merge)) 0

/-- The entries of a mapping once all is merged into it, from so many levels down. -/
def mergedRow (depth : Nat) (id : NodeId) : Merging Row := do
  putFirst id (← takeMerged (mergeKeys (← get)) depth id [])

end Merging

end Yaml

end StructuredData
