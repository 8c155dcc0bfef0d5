import PacScript.Value.Display
import PacScript.Yaml.Page
import PacScript.Yaml.Style

/-!
# Writing documents

A value as a document of block collections: mappings and sequences on lines of their own, two
columns for every level, and a sequence inside a mapping not indented further. Empty collections and
scalars follow on the same line.
-/

namespace PacScript.Yaml

namespace Printing

/-- A floating-point number with a point even before an exponent, so that it reads back as one. -/
def floatChars (x : Binary64) : List Char :=
  match x with
  | .nan => ".nan".toList
  | .infinite negative => (if negative then "-.inf" else ".inf").toList
  | .finite _ _ =>
    let cs := x.chars
    if cs.contains '.' then cs
    else cs.flatMap fun c => if c == 'e' then ".0e".toList else [c]

/-- The text of a scalar that is written plain, and the length of its short tag. -/
def plainForm? : Value → Option (List Char × Nat)
  | .null => some ("null".toList, 6)
  | .bool b => some ((if b then "true" else "false").toList, 6)
  | .int n => some ((toString n).toList, 5)
  | .float x => some (floatChars x, 7)
  | .date d => some (Instant.dateChars d, 11)
  | .instant i => some (i.isoChars ' ', 11)
  | _ => none

/-- Whether a value stands in one line. -/
def isCollection : Value → Bool
  | .list items => !items.isEmpty
  | .tuple items => !items.isEmpty
  | .dict entries => !entries.isEmpty
  | _ => false

/-- The greatest length of a key that is not marked, its short tag included. -/
def keyLength : Nat := 128

/-- Whether a key is written without a mark: short, on one line, and not empty. -/
def isSimpleKey (v : Value) : Bool :=
  match plainForm? v with
  | some (cs, tag) => cs.length + tag < keyLength
  | none =>
    if isCollection v then false
    else
      match v with
      | .list _ | .tuple _ | .dict _ => true
      | v =>
        let cs := v.plain.toList
        cs.length + 5 < keyLength && !cs.isEmpty && !Style.hasBreak cs

/-- A scalar or an empty collection. -/
def scalar (v : Value) (asKey : Bool) (indent : Nat) (p : Page) : Page :=
  match plainForm? v with
  | some (cs, _) => p.plain (!asKey) indent cs
  | none =>
    match v with
    | .list _ | .tuple _ => (p.indicator ['['] true true false).indicator [']'] false false false
    | .dict _ => (p.indicator ['\x7b'] true true false).indicator ['\x7d'] false false false
    | v =>
      let s := v.plain
      match Style.of asKey s with
      | .plain => p.plain (!asKey) indent s.toList
      | .single => p.single (!asKey) indent s.toList
      | .double => p.double (!asKey) indent s.toList

/-- The indentation of lines that continue a scalar. -/
def continuation : Option Nat → Nat
  | none => 2
  | some indent => indent + 2

/-- The indentation of a collection's parts. -/
def partsAt (outer : Option Nat) (bare : Bool) : Nat :=
  match outer with
  | none => 0
  | some indent => if bare then indent else indent + 2

mutual

/-- A value inside a collection at the given indentation; the root has none. In a mapping a sequence
that begins on the line of its key keeps the mapping's indentation. -/
def node (indent : Option Nat) (inMapping : Bool) : Value → Page → Page
  | .list items, p =>
    if items.isEmpty then scalar (.list []) false (continuation indent) p
    else sequence (partsAt indent (inMapping && !p.inIndentation)) items p
  | .tuple items, p =>
    if items.isEmpty then scalar (.tuple []) false (continuation indent) p
    else sequence (partsAt indent (inMapping && !p.inIndentation)) items p
  | .dict entries, p =>
    if entries.isEmpty then scalar (.dict []) false (continuation indent) p
    else mapping (partsAt indent false) entries p
  | v, p => scalar v false (continuation indent) p

/-- The items of a block sequence at an indentation. -/
def sequence (indent : Nat) : List Value → Page → Page
  | [], p => p
  | v :: rest, p =>
    let p := (p.indentTo indent).indicator ['-'] true false true
    sequence indent rest (node (some indent) false v p)

/-- The entries of a block mapping at an indentation. -/
def mapping (indent : Nat) : List (Value × Value) → Page → Page
  | [], p => p
  | (k, v) :: rest, p =>
    let p := p.indentTo indent
    let p :=
      if isSimpleKey k then
        (scalar k true (indent + 2) p).indicator [':'] false false false
      else
        let p := node (some indent) true k (p.indicator ['?'] true false true)
        (p.indentTo indent).indicator [':'] true false true
    mapping indent rest (node (some indent) true v p)

end

end Printing

/-- The document text of a value. -/
def print (v : Value) : String :=
  String.ofList ((Printing.node none false v Page.blank).indentTo 0).text.toList

end PacScript.Yaml
