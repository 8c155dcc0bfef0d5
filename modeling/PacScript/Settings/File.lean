import PacScript.Settings.Basic

/-!
# Settings files

Settings are kept in a document, as a mapping under the key `pac`. A file that does not exist, an
empty document and an empty section all mean the usual settings. How documents are kept in files is
not known here (`Codec`).
-/

namespace PacScript

/-- Why there is no document in a file. -/
inductive LoadFault
  /-- What the file holds is not the text of a document. -/
  | notDocument
  /-- The file is not read to its end, or what is read has no value, for a reason of its own. -/
  | other (fault : Fault)

/-- How documents are kept in files: which one a file holds, and what is written to keep one. -/
structure Codec where
  load : ByteArray → Except LoadFault Value
  dump : Value → Except Fault ByteArray

namespace Settings

/-- The entries of a dictionary; a value that counts as false is an empty one, and any other value
is at fault. -/
def entriesOr (fault : SettingsFault) : Value → Except Fault (List (Value × Value))
  | .dict entries => .ok entries
  | v => if v.truthy then .error (.settings fault) else .ok []

/-- What a document holds under the key `pac`. -/
def section? (file : String) (document : Value) : Except Fault (List (Value × Value)) := do
  let entries ← entriesOr (.notMapping file) document
  entriesOr (.sectionNotMapping file) ((Value.lookup? (.text "pac") entries).getD .null)

variable (zones : Zones) (codec : Codec)

/-- The settings in a file, given its content if it exists, and the reports made on the way. -/
def ofFile (file : String) (content? : Option ByteArray) : List Record × Except Fault Settings :=
  match content? with
  | none => ([], .ok standard)
  | some content =>
    match codec.load content with
    | .error .notDocument => ([], .error (.settings (.unreadable file)))
    | .error (.other fault) => ([], .error fault)
    | .ok document =>
      match section? file document with
      | .error fault => ([], .error fault)
      | .ok entries => ofEntries zones entries

/-- The document in which settings are kept, given their entries. -/
def document (entries : List (Value × Value)) : Value := .dict [(.text "pac", .dict entries)]

/-- The content of the file in which settings are kept. -/
def fileContent (s : Settings) : Except Fault ByteArray := do
  codec.dump (document (← s.copyEntries))

end Settings

end PacScript
