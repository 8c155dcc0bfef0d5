import PacScript.Value.Slots
import PacScript.Yaml.Node

/-!
# Documents

What a document denotes, node by node. The parts of a collection are given by their nodes, so what
occurs several times is kept once, and a collection may be inside itself; `Document.values` unfolds
the values of nodes.
-/

namespace PacScript.Yaml

/-- What a node denotes. -/
inductive Shape
  /-- A value without parts. -/
  | atom (v : Value)
  /-- The number of the word `.nan`, which is the same key wherever it is written; other numbers of
  this kind are a key each. -/
  | notANumber
  | list (items : List NodeId)
  /-- A list of pairs. -/
  | pairs (entries : List (NodeId × NodeId))
  | dict (entries : List (NodeId × NodeId))
  | set (members : List NodeId)

namespace Shape

/-- Whether the value can be the key of a dictionary. -/
def isKey : Shape → Bool
  | .atom _ | .notANumber => true
  | _ => false

/-- Whether two keys of different nodes are one key. -/
def isSameKey : Shape → Shape → Bool
  | .atom v, .atom w => v.eqv w
  | .notANumber, .notANumber => true
  | _, _ => false

end Shape

/-- The shapes of the nodes of a document, at the places of the nodes, and the outermost node. -/
structure Document where
  shapes : Array Shape
  root : NodeId

namespace Document

/-- A document without content denotes nothing. -/
def empty : Document := ⟨#[], 0⟩

def shape (d : Document) (id : NodeId) : Shape := d.shapes.getD id (.atom .null)

/-- The value of a node inside the given collections; it is closed when it holds none that is around
itself, and then it is the same everywhere. -/
structure Unfolding where
  around : List NodeId
  closed : Bool
  value : Value

/-- What has been unfolded last for each node. -/
abbrev Unfolded := Array (Option Unfolding)

/-- The value of a node inside the given collections. The number of nodes bounds how deep
collections can be inside each other without being around themselves. -/
def unfold (d : Document) (around : List NodeId) (id : NodeId) : (fuel : Nat) →
    StateM Unfolded Unfolding
  | 0 => pure ⟨around, true, .null⟩
  | fuel + 1 => do
    match known? (← get) with
    | some u => pure u
    | none =>
      let part (id' : NodeId) := unfold d (id :: around) id' fuel
      let pair (e : NodeId × NodeId) : StateM Unfolded (Unfolding × Unfolding) := do
        pure (← part e.1, ← part e.2)
      let once (isList : Bool) (u : StateM Unfolded Unfolding) : StateM Unfolded Unfolding :=
        if around.contains id then pure ⟨around, false, .recurring isList⟩ else u
      let u ←
        match d.shape id with
        | .atom v => pure ⟨around, true, v⟩
        | .notANumber => pure ⟨around, true, .float .nan⟩
        | .set members => do
          let parts ← members.mapM part
          pure ⟨around, parts.all (·.closed), .ofMembers (parts.map (·.value))⟩
        | .list items => once true do
          let parts ← items.mapM part
          pure ⟨around, parts.all (·.closed), .list (parts.map (·.value))⟩
        | .pairs entries => once true do
          let parts ← entries.mapM pair
          pure ⟨around, parts.all fun e => e.1.closed && e.2.closed,
            .list (parts.map fun e => .tuple [e.1.value, e.2.value])⟩
        | .dict entries => once false do
          let parts ← entries.mapM pair
          pure ⟨around, parts.all fun e => e.1.closed && e.2.closed,
            .dict (parts.map fun e => (e.1.value, e.2.value))⟩
      modify (·.setIfInBounds id (some u))
      pure u
where
  known? (done : Unfolded) : Option Unfolding :=
    (done[id]?.join).filter fun u => u.closed || u.around == around

/-- The values of nodes. A collection inside itself is not unfolded there again. -/
def values (d : Document) (ids : List NodeId) : List Value :=
  let size := d.shapes.size
  ((ids.mapM fun id => unfold d [] id (size + 1)).run (Array.replicate size none)).1.map (·.value)

/-- The entries of a dictionary, with their keys as values. -/
def entries? (d : Document) (id : NodeId) : Option (List (Value × NodeId)) :=
  match d.shape id with
  | .dict entries => some ((d.values (entries.map (·.1))).zip (entries.map (·.2)))
  | _ => none

end Document

end PacScript.Yaml
