import PacScript.Yaml.Node
import PacScript.Yaml.Token.Reading

/-!
# Nodes from tokens

The tokens of a document as a graph of nodes. An alias stands for the node that carries its anchor,
from the beginning of that node on, so a collection can be inside itself. Where the tokens end at a
fault, that fault is the answer of everything that needs another token.
-/

namespace PacScript.Yaml

/-- What is left of the tokens, the nodes so far, and what the names in the tokens stand for. -/
structure Composing where
  tokens : List Token
  fault : Option Fault
  nodes : Array Node
  anchors : List (String × NodeId)
  handles : List (String × String)

abbrev Compose := StateT Composing (Except Fault)

namespace Compose

/-- The next token, or nothing at the end of the text. -/
def peek : Compose (Option Token) := do
  let s ← get
  match s.tokens, s.fault with
  | t :: _, _ => pure (some t)
  | [], none => pure none
  | [], some fault => throw fault

/-- Passes over the next token. -/
def skip : Compose Unit := modify fun s => { s with tokens := s.tokens.drop 1 }

def malformed {α : Type} : Compose α := throw .malformed

def isDirective : Option Token → Bool
  | some (.directive _) => true
  | _ => false

def isDocumentStart : Option Token → Bool
  | some .documentStart => true
  | _ => false

def isDocumentEnd : Option Token → Bool
  | some .documentEnd => true
  | _ => false

/-- Where a block sequence goes on or ends. -/
def endsBlockItem : Option Token → Bool
  | some .blockEntry => true
  | some .blockEnd => true
  | _ => false

/-- Where a block mapping goes on or ends. -/
def endsBlockPart : Option Token → Bool
  | some .key => true
  | some .value => true
  | some .blockEnd => true
  | _ => false

/-- Where a sequence without indentation of its own goes on or ends. -/
def endsBareItem (t : Option Token) : Bool := endsBlockItem t || endsBlockPart t

/-- Where a part of a flow sequence ends. -/
def endsFlowItem : Option Token → Bool
  | some .flowEntry => true
  | some .flowSequenceEnd => true
  | _ => false

/-- Where a part of a flow mapping ends. -/
def endsFlowPart : Option Token → Bool
  | some .flowEntry => true
  | some .flowMappingEnd => true
  | _ => false

/-- Anchor and tag in front of a node, in either order. -/
def properties : Compose (Option String × Option (Option String × String)) := do
  match ← peek with
  | some (.anchor name) =>
    skip
    match ← peek with
    | some (.tag handle suffix) =>
      skip
      pure (some name, some (handle, suffix))
    | _ => pure (some name, none)
  | some (.tag handle suffix) =>
    skip
    match ← peek with
    | some (.anchor name) =>
      skip
      pure (some name, some (handle, suffix))
    | _ => pure (none, some (handle, suffix))
  | _ => pure (none, none)

/-- The full text of a tag; nothing for `!`, which leaves the type to the node's text or kind. -/
def fullTag (tag : Option (Option String × String)) : Compose (Option String) := do
  match tag with
  | none => pure none
  | some (none, suffix) => pure (if suffix == "!" then none else some suffix)
  | some (some handle, suffix) =>
    match (← get).handles.lookup handle with
    | none => malformed
    | some start =>
      let full := start ++ suffix
      pure (if full == "!" then none else some full)

/-- Every anchor is given once. -/
def checkAnchor : Option String → Compose Unit
  | none => pure ()
  | some name => do
    if ((← get).anchors.lookup name).isSome then malformed

/-- A further node, with its anchor if it has one. -/
def add (anchor : Option String) (n : Node) : Compose NodeId :=
  modifyGet fun s =>
    let id := s.nodes.size
    let anchors :=
      match anchor with
      | none => s.anchors
      | some name => (name, id) :: s.anchors
    (id, { s with nodes := s.nodes.push n, anchors })

/-- A further node of what is not written. -/
def absent : Compose NodeId := add none Node.absent

/-- A collection. Its node is there before its parts are, which may refer to it. -/
def collection (anchor : Option String) (tag : Tag) (empty : Content) (parts : Compose Content) :
    Compose NodeId := do
  let id ← add anchor ⟨tag, empty⟩
  let content ← parts
  modify fun s => { s with nodes := s.nodes.setIfInBounds id ⟨tag, content⟩ }
  pure id

def sequence (anchor : Option String) (tag : Tag) (items : Compose (List NodeId)) :
    Compose NodeId :=
  collection anchor tag (.sequence []) (.sequence <$> items)

def mapping (anchor : Option String) (tag : Tag) (entries : Compose (List (NodeId × NodeId))) :
    Compose NodeId :=
  collection anchor tag (.mapping []) (.mapping <$> entries)

def tagOr (tag : Option String) (kind : Tag) : Tag :=
  match tag with
  | none => kind
  | some full => Tag.ofText full

mutual

/-- A node. Block collections stand in blocks only, and a sequence without indentation of its own
only in a block mapping. -/
def node (inBlock bareAllowed : Bool) : (fuel : Nat) → Compose NodeId
  | 0 => malformed
  | fuel + 1 => do
    match ← peek with
    | some (.alias name) =>
      skip
      match (← get).anchors.lookup name with
      | some id => pure id
      | none => malformed
    | _ =>
      let (anchor, written) ← properties
      let tag ← fullTag written
      content inBlock bareAllowed anchor written.isSome tag fuel

/-- A node without its properties. -/
def content (inBlock bareAllowed : Bool) (anchor : Option String) (hasTag : Bool)
    (tag : Option String) : (fuel : Nat) → Compose NodeId
  | 0 => malformed
  | fuel + 1 => do
    let next ← peek
    checkAnchor anchor
    match next with
    | some (.scalar text isPlain) =>
      skip
      let implied := if isPlain || hasTag then Tag.ofPlain text else .str
      add anchor ⟨tagOr tag implied, .scalar text⟩
    | some .flowSequenceStart =>
      skip
      sequence anchor (tagOr tag .seq) (flowItems true fuel)
    | some .flowMappingStart =>
      skip
      mapping anchor (tagOr tag .map) (flowEntries true fuel)
    | _ =>
      match next, bareAllowed, inBlock with
      | some .blockEntry, true, _ => sequence anchor (tagOr tag .seq) (bareItems fuel)
      | some .blockSequenceStart, _, true =>
        skip
        sequence anchor (tagOr tag .seq) (blockItems fuel)
      | some .blockMappingStart, _, true =>
        skip
        mapping anchor (tagOr tag .map) (blockEntries fuel)
      | _, _, _ =>
        if anchor.isSome || hasTag then add anchor ⟨tagOr tag .null, .scalar ""⟩ else malformed

/-- The items of a block sequence. -/
def blockItems : (fuel : Nat) → Compose (List NodeId)
  | 0 => malformed
  | fuel + 1 => do
    match ← peek with
    | some .blockEntry =>
      skip
      let item ← if endsBlockItem (← peek) then absent else node true false fuel
      (item :: ·) <$> blockItems fuel
    | some .blockEnd =>
      skip
      pure []
    | _ => malformed

/-- The items of a sequence that is not indented further than the mapping around it. -/
def bareItems : (fuel : Nat) → Compose (List NodeId)
  | 0 => malformed
  | fuel + 1 => do
    match ← peek with
    | some .blockEntry =>
      skip
      let item ← if endsBareItem (← peek) then absent else node true false fuel
      (item :: ·) <$> bareItems fuel
    | _ => pure []

/-- A key or a value of a block mapping after its mark. -/
def blockPart : (fuel : Nat) → Compose NodeId
  | 0 => malformed
  | fuel + 1 => do
    if endsBlockPart (← peek) then absent else node true true fuel

/-- The entries of a block mapping. -/
def blockEntries : (fuel : Nat) → Compose (List (NodeId × NodeId))
  | 0 => malformed
  | fuel + 1 => do
    match ← peek with
    | some .key =>
      skip
      let k ← blockPart fuel
      let v ← blockValue fuel
      ((k, v) :: ·) <$> blockEntries fuel
    | some .blockEnd =>
      skip
      pure []
    | _ => malformed

/-- The value of an entry of a block mapping, which may be missing. -/
def blockValue : (fuel : Nat) → Compose NodeId
  | 0 => malformed
  | fuel + 1 => do
    match ← peek with
    | some .value =>
      skip
      blockPart fuel
    | _ => absent

/-- The items of a flow sequence; a key makes an item a mapping of one entry. -/
def flowItems (first : Bool) : (fuel : Nat) → Compose (List NodeId)
  | 0 => malformed
  | fuel + 1 => do
    match ← peek with
    | some .flowSequenceEnd =>
      skip
      pure []
    | t =>
      if !first then
        match t with
        | some .flowEntry => skip
        | _ => malformed
      match ← peek with
      | some .key =>
        let item ← mapping none .map do
          skip
          let next ← peek
          let isValue := match next with
            | some .value => true
            | _ => false
          let k ← if isValue || endsFlowItem next then absent else node false false fuel
          let v ← flowValue endsFlowItem fuel
          pure [(k, v)]
        (item :: ·) <$> flowItems false fuel
      | some .flowSequenceEnd =>
        skip
        pure []
      | _ =>
        let item ← node false false fuel
        (item :: ·) <$> flowItems false fuel

/-- The entries of a flow mapping; without a key an item is a key without value. -/
def flowEntries (first : Bool) : (fuel : Nat) → Compose (List (NodeId × NodeId))
  | 0 => malformed
  | fuel + 1 => do
    match ← peek with
    | some .flowMappingEnd =>
      skip
      pure []
    | t =>
      if !first then
        match t with
        | some .flowEntry => skip
        | _ => malformed
      match ← peek with
      | some .key =>
        skip
        let next ← peek
        let isValue := match next with
          | some .value => true
          | _ => false
        let k ← if isValue || endsFlowPart next then absent else node false false fuel
        let v ← flowValue endsFlowPart fuel
        ((k, v) :: ·) <$> flowEntries false fuel
      | some .flowMappingEnd =>
        skip
        pure []
      | _ =>
        let k ← node false false fuel
        ((k, ← absent) :: ·) <$> flowEntries false fuel

/-- The value of an entry in a flow collection, which may be missing. -/
def flowValue (ends : Option Token → Bool) : (fuel : Nat) → Compose NodeId
  | 0 => malformed
  | fuel + 1 => do
    match ← peek with
    | some .value =>
      skip
      if ends (← peek) then absent else node false false fuel
    | _ => absent

end

/-- Passes over the marks that end a document. -/
def skipDocumentEnds : (fuel : Nat) → Compose Unit
  | 0 => pure ()
  | fuel + 1 => do
    if isDocumentEnd (← peek) then
      skip
      skipDocumentEnds fuel

/-- The handles that every document knows. -/
def defaultHandles : List (String × String) := [("!", "!"), ("!!", Tag.standard)]

/-- The directives in front of a document: at most one version, and each handle once. -/
def directives (versionSeen : Bool) (handles : List (String × String)) : (fuel : Nat) →
    Compose Unit
  | 0 => malformed
  | fuel + 1 => do
    match ← peek with
    | some (.directive d) =>
      skip
      match d with
      | .other => directives versionSeen handles fuel
      | .version major _ =>
        if versionSeen || major != 1 then malformed else directives true handles fuel
      | .tagHandle handle start =>
        if (handles.lookup handle).isSome then malformed
        else directives versionSeen ((handle, start) :: handles) fuel
    | _ => modify fun s => { s with handles := handles ++ defaultHandles }

/-- The only document of a text, or nothing when there is none. What follows it is looked at as far
as it takes to see that it is a further document. -/
def document (fuel : Nat) : Compose (Option NodeId) := do
  let first ← peek
  if first.isNone then pure none
  else
    let root ←
      if !isDirective first && !isDocumentStart first then node true false fuel
      else do
        directives false [] fuel
        if !isDocumentStart (← peek) then malformed
        else
          skip
          let next ← peek
          if next.isNone || isDirective next || isDocumentStart next || isDocumentEnd next then
            absent
          else node true false fuel
    skipDocumentEnds fuel
    if (← peek).isNone then pure (some root)
    else
      directives false [] fuel
      let _ ← peek
      malformed

end Compose

/-- The nodes of a document text, or nothing when the text holds no document. -/
def Graph.ofChars? (cs : List Char) : Except Fault (Option Graph) := do
  let (ts, fault) := tokens cs
  let start : Composing := ⟨ts, fault, #[], [], Compose.defaultHandles⟩
  let (root?, s) ← (Compose.document (8 * ts.length + 8)).run start
  .ok (root?.map fun root => ⟨s.nodes, root⟩)

end PacScript.Yaml
