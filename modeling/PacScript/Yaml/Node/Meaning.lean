import PacScript.Yaml.Document
import PacScript.Yaml.Node.Composition
import PacScript.Yaml.Node.ScalarValue

/-!
# Documents from nodes

What the nodes of a document denote. A node gets its shape when something around it is looked at: a
scalar at once, while a collection stays empty and waits for its turn. So everything around a
collection comes before its parts, and of several faults the one nearest to the root is reported. A
mapping takes over the entries of the mappings that it merges, in front of its own.
-/

namespace PacScript.Yaml

/-- The shape of a collection of a type without parts, if the type is one of a collection. -/
def Tag.emptyShape? : Tag → Option Shape
  | .seq => some (.list [])
  | .omap | .pairs => some (.pairs [])
  | .map => some (.dict [])
  | .set => some (.set [])
  | _ => none

/-- The nodes, in which merging moves entries, the shapes found so far, and the collections in the
order of their turns, of which some are done. There are never more merge keys than in the
beginning. -/
structure Construction where
  nodes : Array Node
  shapes : Array (Option Shape)
  waiting : Array NodeId
  merges : Nat

abbrev Construct := StateT Construction (Except Fault)

namespace Construct

def node (id : NodeId) : Construct Node := do return (← get).nodes.getD id Node.absent

/-- Changes a node. -/
def change (id : NodeId) (f : Node → Node) : Construct Unit :=
  modify fun s => { s with nodes := s.nodes.modify id f }

def setShape (id : NodeId) (shape : Shape) : Construct Unit :=
  modify fun s => { s with shapes := s.shapes.setIfInBounds id (some shape) }

def malformed {α : Type} : Construct α := throw .malformed

/-! ## Scalars -/

/-- The text of a scalar, or of the node under the default key of a mapping. The search does not end
just when it comes to a node again, and then it takes more steps than there are nodes. -/
def scalarText (id : NodeId) : (fuel : Nat) → Construct String
  | 0 => throw .endless
  | fuel + 1 => do
    match (← node id).content with
    | .scalar text => pure text
    | .sequence _ => malformed
    | .mapping entries =>
      match ← entries.findM? fun e => return (← node e.1).tag == .value with
      | some e => scalarText e.2 fuel
      | none => malformed

/-- The shape of a node that is no collection by its tag. -/
def scalarShape (id : NodeId) : Construct Shape := do
  let n ← node id
  if n.tag.isUndefined then malformed
  else
    let text ← scalarText id ((← get).nodes.size + 1)
    if n.tag == .timestamp && n.isMapping then throw .hiddenTimestamp
    else if n.tag == .float && isNanWord text.toList then pure .notANumber
    else return .atom (← scalarValue n.tag text)

/-! ## Merging -/

/-- The value of the first merge key among entries, and the entries without it. -/
def cutMerge? (nodes : Array Node) :
    List (NodeId × NodeId) → Option (NodeId × List (NodeId × NodeId))
  | [] => none
  | (k, v) :: rest =>
    if (nodes.getD k Node.absent).tag == .merge then some (v, rest)
    else (cutMerge? nodes rest).map fun (source, rest) => (source, (k, v) :: rest)

/-- Makes a default key a text like any other, which it is for the entries of a mapping. -/
def renameDefault (id : NodeId) : Construct Unit := do
  if (← node id).tag == .value then change id fun n => { n with tag := .str }

/-- Resolves the merge keys of a mapping, given the entries merged so far. Of several mappings under
one merge key the first has the last word. Every merge key is taken away before its value is looked
at, so their number bounds the recursion, and a mapping may merge itself. -/
def merge (id : NodeId) (merged : List (NodeId × NodeId)) : (fuel : Nat) → Construct Unit
  | 0 => throw .endless
  | fuel + 1 => do
    let entriesOf (source : NodeId) : Construct (List (NodeId × NodeId)) := do
      if (← node source).isMapping then
        merge source [] fuel
        return (← node source).entries
      else malformed
    let own := (← node id).entries
    match cutMerge? (← get).nodes own with
    | none =>
      own.forM fun e => renameDefault e.1
      if !merged.isEmpty then change id fun n => { n with content := .mapping (merged ++ own) }
    | some (source, rest) =>
      change id fun n => { n with content := .mapping rest }
      let found ←
        match (← node source).content with
        | .sequence items => do pure (← items.mapM entriesOf).reverse.flatten
        | _ => entriesOf source
      merge id (merged ++ found) fuel

/-- The entries of a mapping after merging. -/
def mergedEntries (id : NodeId) : Construct (List (NodeId × NodeId)) := do
  merge id [] ((← get).merges + 1)
  return (← node id).entries

/-! ## Collections -/

/-- Gives a node its shape, if it has none. -/
def visit (id : NodeId) : Construct Unit := do
  if ((← get).shapes[id]?.join).isNone then
    match (← node id).tag.emptyShape? with
    | none => setShape id (← scalarShape id)
    | some shape =>
      setShape id shape
      modify fun s => { s with waiting := s.waiting.push id }

/-- Visits an entry of a mapping, whose key must be fit for one. -/
def visitEntry (e : NodeId × NodeId) : Construct Unit := do
  visit e.1
  if !(((← get).shapes[e.1]?.join).any Shape.isKey) then malformed
  visit e.2

/-- The only entry of a mapping, visited. -/
def visitPair (id : NodeId) : Construct (NodeId × NodeId) := do
  match (← node id).content with
  | .mapping [(k, v)] =>
    visit k
    visit v
    pure (k, v)
  | _ => malformed

/-- Every key once: at the place of its first occurrence, with the value of its last. -/
def distinct (shapes : Array (Option Shape)) (entries : List (NodeId × NodeId)) :
    List (NodeId × NodeId) :=
  let isSame (e f : NodeId × NodeId) : Bool :=
    e.1 == f.1 ||
      match shapes[e.1]?.join, shapes[f.1]?.join with
      | some s, some t => s.isSameKey t
      | _, _ => false
  entries.foldl (fun done e =>
    if done.any (isSame e) then done.map fun f => if isSame e f then (f.1, e.2) else f
    else done ++ [e]) []

/-- The entries of a mapping, all visited. -/
def visitMapping (id : NodeId) : Construct (List (NodeId × NodeId)) := do
  let entries ← mergedEntries id
  entries.forM visitEntry
  return distinct (← get).shapes entries

/-- Visits the parts of a collection, which must be of the kind that its tag asks for. -/
def fill (id : NodeId) : Construct Unit := do
  let n ← node id
  match n.tag, n.content with
  | .seq, .sequence items =>
    items.forM visit
    setShape id (.list items)
  | .omap, .sequence items => setShape id (.pairs (← items.mapM visitPair))
  | .pairs, .sequence items => setShape id (.pairs (← items.mapM visitPair))
  | .map, .mapping _ => setShape id (.dict (← visitMapping id))
  | .set, .mapping _ => setShape id (.set ((← visitMapping id).map (·.1)))
  | _, _ => malformed

/-- Fills the waiting collections from a turn on. -/
def fillFrom (turn : Nat) : (fuel : Nat) → Construct Unit
  | 0 => pure ()
  | fuel + 1 => do
    match (← get).waiting[turn]? with
    | none => pure ()
    | some id =>
      fill id
      fillFrom (turn + 1) fuel

end Construct

/-- What the nodes of a document denote. Every node waits at most once. -/
def Document.ofGraph (g : Graph) : Except Fault Document := do
  let size := g.nodes.size
  let construct : Construct Unit := do
    Construct.visit g.root
    Construct.fillFrom 0 (size + 1)
  let isMerge (e : NodeId × NodeId) : Bool := (g.nodes.getD e.1 Node.absent).tag == .merge
  let merges := (g.nodes.toList.map fun n => n.entries.countP isMerge).foldl (· + ·) 0
  let (_, s) ← construct.run ⟨g.nodes, Array.replicate size none, #[], merges⟩
  .ok ⟨s.shapes.map (·.getD (.atom .null)), g.root⟩

/-- Whether a character may occur in a document. -/
def isAllowed (c : Char) : Bool :=
  let n := c.toNat
  n == 9 || n == 10 || n == 13 || (0x20 ≤ n && n ≤ 0x7e) || n == 0x85 || (0xa0 ≤ n && n ≤ 0xfffd)
    || 0x10000 ≤ n

/-- What a document text denotes. -/
def Document.ofChars (cs : List Char) : Except Fault Document := do
  if !cs.all isAllowed then .error .malformed
  else
    match ← Graph.ofChars? cs with
    | none => .ok Document.empty
    | some g => Document.ofGraph g

end PacScript.Yaml
