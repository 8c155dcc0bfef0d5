import PacScript.Yaml.Tag

/-!
# Nodes

A document as a graph of tagged scalars, sequences and mappings. The nodes stand in a row and are
known by their places in it, so that an alias can stand for any node, even for one around it.
-/

namespace PacScript.Yaml

/-- The place of a node. -/
abbrev NodeId := Nat

/-- What a node consists of. -/
inductive Content
  | scalar (text : String)
  | sequence (items : List NodeId)
  | mapping (entries : List (NodeId × NodeId))

/-- A node of a document. -/
structure Node where
  tag : Tag
  content : Content

namespace Node

/-- The node of what is not written. -/
def absent : Node := ⟨.null, .scalar ""⟩

def isMapping (n : Node) : Bool :=
  match n.content with
  | .mapping _ => true
  | _ => false

/-- The entries of a mapping; anything else has none. -/
def entries (n : Node) : List (NodeId × NodeId) :=
  match n.content with
  | .mapping entries => entries
  | _ => []

end Node

/-- The nodes of a document, and the outermost one among them. -/
structure Graph where
  nodes : Array Node
  root : NodeId

end PacScript.Yaml
