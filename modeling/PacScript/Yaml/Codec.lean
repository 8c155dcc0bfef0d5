import PacScript.Settings.File
import PacScript.Yaml.Node.Meaning
import PacScript.Yaml.Printing

/-!
# A codec of documents

Documents in the files of a running library: UTF-8 texts, with line ends of every kind, that are
read and written by the modules of this folder. This is one codec among others. What is known of
settings files is known whatever the codec is.
-/

namespace PacScript.Yaml

/-- A text with every kind of line end as a single line feed. -/
def unifyLineEnds : List Char → List Char
  | '\r' :: '\n' :: rest => '\n' :: unifyLineEnds rest
  | '\r' :: rest => '\n' :: unifyLineEnds rest
  | c :: rest => c :: unifyLineEnds rest
  | [] => []

/-- A fault of a document as a fault of the file that holds it. -/
def Fault.inFile : Fault → LoadFault
  | .malformed => .notDocument
  | .badScalar => .other (.coercion .malformed)
  | .unknownWord => .other .noKey
  | .emptyNumber => .other .noIndex
  | .noTimestamp => .other .noMember
  | .tooLarge => .other (.coercion .tooLarge)
  | .hiddenTimestamp => .other .badCall
  | .endless => .other .endless

/-- The value of a part of a document. A mapping is unfolded by its entries, each of them
by itself. -/
def Document.part (d : Document) (id : NodeId) : Value :=
  match d.entries? id with
  | some entries => .dict ((entries.map (·.1)).zip (d.values (entries.map (·.2))))
  | none => ((d.values [id]).head?).getD .null

/-- The value of a document. The parts of its mapping are unfolded by themselves, too. -/
def Document.value (d : Document) : Value :=
  match d.entries? d.root with
  | some entries => .dict (entries.map fun e => (e.1, d.part e.2))
  | none => d.part d.root

/-- The document in the content of a file. -/
def load (content : ByteArray) : Except LoadFault Value :=
  match String.fromUTF8? content with
  | none => .error (.other .notText)
  | some text =>
    match Document.ofChars (unifyLineEnds text.toList) with
    | .error fault => .error fault.inFile
    | .ok d => .ok d.value

def codec : Codec where
  load := load
  dump v := .ok (print v).toUTF8

end PacScript.Yaml
