/-!
# Cursors

A place in a document text: what is left to read and how much that is, and how far it is from the
beginning of the text and of the line. What can be wrong with a document is listed here, too.
-/

namespace PacScript.Yaml

/-- Why a document has no value. -/
inductive Fault
  /-- The text is not a document, or one of its tags has no meaning. -/
  | malformed
  /-- A number, a date or a character code that does not exist. -/
  | badScalar
  /-- A truth value that is not one of the known words. -/
  | unknownWord
  /-- A number without a single character. -/
  | emptyNumber
  /-- A point in time that is not written as one. -/
  | noTimestamp
  /-- A number too large for its type. -/
  | tooLarge
  /-- A point in time that stands under the default key of a mapping. -/
  | hiddenTimestamp
  /-- A text that is looked for under the default keys of mappings inside themselves. -/
  | endless
  deriving DecidableEq

/-- Characters that end a line. -/
def isBreak (c : Char) : Bool := c == '\n' || c == '\u0085' || c == '\u2028' || c == '\u2029'

/-- A place in a text. -/
structure Cursor where
  rest : List Char
  left : Nat
  index : Nat
  line : Nat
  column : Nat

namespace Cursor

def ofChars (cs : List Char) : Cursor := ⟨cs, cs.length, 0, 0, 0⟩

/-- The character at a distance from the cursor, or nothing beyond the end. -/
def peek? (c : Cursor) (distance : Nat) : Option Char := c.rest[distance]?

/-- The cursor after one more character. A byte order mark takes no column. -/
def next (c : Cursor) : Cursor :=
  match c.rest with
  | [] => c
  | ch :: rest =>
    let next := { c with rest, left := c.left - 1, index := c.index + 1 }
    if isBreak ch then { next with line := c.line + 1, column := 0 }
    else { next with column := if ch == '\uFEFF' then c.column else c.column + 1 }

/-- The cursor after some more characters. -/
def advance (c : Cursor) : Nat → Cursor
  | 0 => c
  | n + 1 => (c.next).advance n

/-- The characters in front of the cursor that belong to a class, and the cursor after them. -/
def takeWhile (c : Cursor) (p : Char → Bool) : List Char × Cursor :=
  let taken := c.rest.takeWhile p
  (taken, c.advance taken.length)

/-- The cursor after the characters of a class. -/
def skipWhile (c : Cursor) (p : Char → Bool) : Cursor := (c.takeWhile p).2

end Cursor

/-- Whether a line ends here. -/
def endsLine : Option Char → Bool
  | none => true
  | some c => isBreak c

/-- Whether a space or the end of a line is here. -/
def endsWord : Option Char → Bool
  | none => true
  | some c => c == ' ' || isBreak c

/-- Whether a space, a tab or the end of a line is here. -/
def endsBlank : Option Char → Bool
  | none => true
  | some c => c == ' ' || c == '\t' || isBreak c

/-- Whether the text begins with three marks that start or end a document. -/
def startsMarker (cs : List Char) : Bool :=
  (cs.take 3 == ['-', '-', '-'] || cs.take 3 == ['.', '.', '.']) && endsBlank cs[3]?

/-- A line break as a scalar keeps it: the break of a line, or a separator of its own. -/
def keptBreak (c : Char) : Char := if c == '\u0085' then '\n' else c

end PacScript.Yaml
