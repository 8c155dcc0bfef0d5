import PacScript.Text.Basic
import PacScript.Text.Quoted
import PacScript.Yaml.Cursor

/-!
# Scalars in documents

The three ways to write a scalar: plain, between quotation marks, or as a block of lines. Lines of
plain and quoted scalars are folded: a single line break becomes a space, and of several the first
is dropped. Every reader returns the scalar's text and the cursor after it.
-/

namespace PacScript.Yaml

/-- Line breaks inside a scalar as they are folded, given the first one and those that follow. -/
def foldBreaks (first : Char) (more : List Char) : List Char :=
  if first != '\n' then first :: more
  else if more.isEmpty then [' ']
  else more

/-! ## Plain scalars -/

def flowIndicators : List Char := ",?[]\x7b\x7d".toList

/-- Whether a colon followed by this character ends a plain scalar. -/
def colonEnds (inFlow : Bool) (following : Option Char) : Bool :=
  endsBlank following ||
    match following with
    | none => true
    | some c => inFlow && c != '?' && flowIndicators.contains c

/-- How many characters a plain scalar takes before a blank or an indicator. -/
def plainLength (inFlow : Bool) : List Char → Nat
  | [] => 0
  | c :: rest =>
    if c == ' ' || c == '\t' || isBreak c then 0
    else if c == ':' && colonEnds inFlow rest.head? then 0
    else if inFlow && flowIndicators.contains c then 0
    else plainLength inFlow rest + 1

/-- Spaces and line breaks in front of the next piece of a plain scalar: how many characters they
take, the breaks, and whether a document marker follows one of them. -/
def blankLines : List Char → Nat × List Char × Bool
  | [] => (0, [], false)
  | c :: rest =>
    if c == ' ' then
      let (n, breaks, marker) := blankLines rest
      (n + 1, breaks, marker)
    else if isBreak c then
      if startsMarker rest then (1, [keptBreak c], true)
      else
        let (n, breaks, marker) := blankLines rest
        (n + 1, keptBreak c :: breaks, marker)
    else (0, [], false)

/-- What stands between two pieces of a plain scalar. -/
structure PlainGap where
  text : List Char
  after : Cursor
  crossesLine : Bool

/-- The gap at the cursor; its text is empty when the scalar ends here. -/
def plainGap (c : Cursor) : PlainGap :=
  let (spaces, c) := c.takeWhile (· == ' ')
  match c.peek? 0 with
  | none => ⟨spaces, c, false⟩
  | some b =>
    if isBreak b then
      let c := c.next
      if startsMarker c.rest then ⟨[], c, true⟩
      else
        let (n, breaks, marker) := blankLines c.rest
        ⟨if marker then [] else foldBreaks (keptBreak b) breaks, c.advance n, true⟩
    else ⟨spaces, c, false⟩

/-- A plain scalar, and whether the last thing read was the end of a line. -/
structure PlainScalar where
  text : Array Char
  after : Cursor
  atLineStart : Bool

/-- The pieces of a plain scalar from the cursor on. -/
def plainPieces (inFlow : Bool) (indent : Int) : (fuel : Nat) → PlainScalar → (gap : List Char) →
    PlainScalar
  | 0, done, _ => done
  | fuel + 1, done, gap =>
    let length := plainLength inFlow done.after.rest
    if length = 0 || done.after.peek? 0 == some '#' then done
    else
      let text := done.text ++ gap ++ done.after.rest.take length
      let next := plainGap (done.after.advance length)
      let done := ⟨text, next.after, next.crossesLine⟩
      if next.text.isEmpty || next.after.peek? 0 == some '#' ||
          (!inFlow && next.after.column < indent) then done
      else plainPieces inFlow indent fuel done next.text

/-- A plain scalar in a block of the given indentation, or in a flow collection. -/
def plainScalar (inFlow : Bool) (indent : Int) (c : Cursor) : PlainScalar :=
  plainPieces inFlow (indent + 1) c.left ⟨#[], c, false⟩ []

/-! ## Quoted scalars -/

/-- Blanks and line breaks inside quotation marks: how many characters they take, and the breaks. A
document marker must not stand there. -/
def quotedBreaks : (lineStart : Bool) → List Char → Option (Nat × List Char)
  | _, [] => some (0, [])
  | lineStart, c :: rest =>
    if lineStart && startsMarker (c :: rest) then none
    else if c == ' ' || c == '\t' then
      (quotedBreaks false rest).map fun (n, breaks) => (n + 1, breaks)
    else if isBreak c then
      (quotedBreaks true rest).map fun (n, breaks) => (n + 1, keptBreak c :: breaks)
    else some (0, [])

/-- What a character after a backslash stands for. -/
def simpleEscapes : List (Char × Char) :=
  [('0', '\x00'), ('a', '\x07'), ('b', '\x08'), ('t', '\t'), ('\t', '\t'), ('n', '\n'),
   ('v', '\x0b'), ('f', '\x0c'), ('r', '\r'), ('e', '\x1b'), (' ', ' '), ('"', '"'),
   ('\\', '\\'), ('/', '/'), ('N', '\u0085'), ('_', '\u00a0'), ('L', '\u2028'), ('P', '\u2029')]

/-- How many hexadecimal digits follow an escape. -/
def codeLengths : List (Char × Nat) := [('x', 2), ('u', 4), ('U', 8)]

/-- The character of a code, or the one that stands for half of a surrogate pair. -/
def charOfCode (code : Nat) : Except Fault Char :=
  if 0x80000000 ≤ code then .error .tooLarge
  else if 0x10ffff < code then .error .badScalar
  else if Text.isHalf code then .ok (Text.charOfHalf code)
  else .ok (Char.ofNat code)

/-- What an escape stands for, given the cursor after the backslash. -/
def escape (c : Cursor) : Except Fault (List Char × Cursor) :=
  match c.rest with
  | [] => .error .malformed
  | e :: rest =>
    match simpleEscapes.lookup e, codeLengths.lookup e with
    | some ch, _ => .ok ([ch], c.next)
    | none, some length =>
      let digits := rest.take length
      if digits.length = length && digits.all Text.isHexDigit then do
        .ok ([← charOfCode (Text.ofHexDigits digits)], c.advance (length + 1))
      else .error .malformed
    | none, none =>
      if isBreak e then
        match quotedBreaks true rest with
        | some (n, breaks) => .ok (breaks, c.advance (n + 1))
        | none => .error .malformed
      else .error .malformed

/-- Blanks inside quotation marks; up to a line break they are dropped. -/
def quotedGap (c : Cursor) : Except Fault (List Char × Cursor) :=
  let (spaces, c) := c.takeWhile fun ch => ch == ' ' || ch == '\t'
  match c.rest with
  | [] => .error .malformed
  | b :: rest =>
    if isBreak b then
      match quotedBreaks true rest with
      | some (n, breaks) => .ok (foldBreaks (keptBreak b) breaks, c.advance (n + 1))
      | none => .error .malformed
    else .ok (spaces, c)

/-- What is left of a quoted scalar, up to and with the closing mark. -/
def quotedPieces (quote : Char) : (fuel : Nat) → (text : Array Char) → Cursor →
    Except Fault (List Char × Cursor)
  | 0, _, _ => .error .malformed
  | fuel + 1, text, c =>
    match c.rest with
    | [] => .error .malformed
    | ch :: rest =>
      if ch == quote then
        if quote == '\'' && rest.head? == some '\'' then
          quotedPieces quote fuel (text.push '\'') (c.advance 2)
        else .ok (text.toList, c.next)
      else if quote == '"' && ch == '\\' then do
        let (piece, c) ← escape c.next
        quotedPieces quote fuel (text ++ piece) c
      else if ch == ' ' || ch == '\t' || isBreak ch then do
        let (piece, c) ← quotedGap c
        quotedPieces quote fuel (text ++ piece) c
      else quotedPieces quote fuel (text.push ch) c.next

/-- A quoted scalar, given the cursor at its opening mark. -/
def quotedScalar (quote : Char) (c : Cursor) : Except Fault (List Char × Cursor) :=
  quotedPieces quote (c.left + 1) #[] c.next

/-! ## Block scalars -/

/-- What becomes of the line breaks at the end of a block. -/
inductive Chomping
  | strip
  | clip
  | keep
  deriving DecidableEq

def chomping? : Option Char → Option Chomping
  | some '+' => some .keep
  | some '-' => some .strip
  | _ => none

/-- A digit that gives the indentation of a block; it must not be zero. -/
def increment? (c? : Option Char) : Except Fault (Option Nat) :=
  match c? with
  | none => .ok none
  | some c =>
    if !c.isDigit then .ok none
    else if c == '0' then .error .malformed
    else .ok (some (c.toNat - 48))

/-- The indicators after the mark of a block, in either order. -/
def blockHeader (c : Cursor) : Except Fault (Chomping × Option Nat × Cursor) := do
  let (chomping, increment, c) ←
    match chomping? (c.peek? 0) with
    | some chomping =>
      let increment ← increment? (c.peek? 1)
      .ok (chomping, increment, c.advance (if increment.isSome then 2 else 1))
    | none =>
      match ← increment? (c.peek? 0) with
      | none => .ok (Chomping.clip, none, c)
      | some n =>
        match chomping? (c.peek? 1) with
        | some chomping => .ok (chomping, some n, c.advance 2)
        | none => .ok (Chomping.clip, some n, c.next)
  if endsWord (c.peek? 0) then .ok (chomping, increment, c) else .error .malformed

/-- The cursor on the next line, when only spaces and a comment are left on this one. -/
def restOfLine (c : Cursor) : Except Fault Cursor :=
  let c := c.skipWhile (· == ' ')
  let c := if c.peek? 0 == some '#' then c.skipWhile fun ch => !isBreak ch else c
  if endsLine (c.peek? 0) then .ok c.next else .error .malformed

/-- Spaces and line breaks in front of a block whose indentation is not given: how many characters
they take, the breaks, and the widest indentation among them. -/
def blockIndentation : (column : Nat) → List Char → Nat × List Char × Nat
  | _, [] => (0, [], 0)
  | column, c :: rest =>
    if c == ' ' then
      let (n, breaks, widest) := blockIndentation (column + 1) rest
      (n + 1, breaks, max (column + 1) widest)
    else if isBreak c then
      let (n, breaks, widest) := blockIndentation 0 rest
      (n + 1, keptBreak c :: breaks, widest)
    else (0, [], 0)

/-- Empty lines inside a block, and the indentation of the next line: how many characters they take,
and the breaks. -/
def blockBreaks (indent : Nat) : (column : Nat) → List Char → Nat × List Char
  | _, [] => (0, [])
  | column, c :: rest =>
    if c == ' ' && column < indent then
      let (n, breaks) := blockBreaks indent (column + 1) rest
      (n + 1, breaks)
    else if isBreak c then
      let (n, breaks) := blockBreaks indent 0 rest
      (n + 1, keptBreak c :: breaks)
    else (0, [])

/-- The lines of a block that have been read: their text, the break of the last line, and the breaks
after it. -/
structure BlockLines where
  text : Array Char
  lastBreak : List Char
  breaks : List Char
  after : Cursor

def startsBlank (c : Cursor) : Bool := c.peek? 0 == some ' ' || c.peek? 0 == some '\t'

/-- The lines of a block from the cursor on. -/
def blockLines (folded : Bool) (indent : Nat) : (fuel : Nat) → BlockLines → BlockLines
  | 0, done => done
  | fuel + 1, done =>
    let c := done.after
    if c.column != indent || c.rest.isEmpty then done
    else
      let leadsBlank := startsBlank c
      let (line, c) := c.takeWhile fun ch => !isBreak ch
      let lastBreak := (c.rest.take 1).map keptBreak
      let c := c.next
      let (n, breaks) := blockBreaks indent c.column c.rest
      let c := c.advance n
      let text := done.text ++ done.breaks ++ line
      if c.column != indent || c.rest.isEmpty then ⟨text, lastBreak, breaks, c⟩
      else if folded && lastBreak == ['\n'] && !leadsBlank && !startsBlank c then
        blockLines folded indent fuel
          ⟨if breaks.isEmpty then text.push ' ' else text, lastBreak, breaks, c⟩
      else blockLines folded indent fuel ⟨text ++ lastBreak, lastBreak, breaks, c⟩

/-- A block scalar inside a block of the given indentation, given the cursor at its mark. -/
def blockScalar (folded : Bool) (indent : Int) (c : Cursor) :
    Except Fault (List Char × Cursor) := do
  let (chomping, increment, c) ← blockHeader c.next
  let c ← restOfLine c
  let least := max 1 (indent + 1).toNat
  let (indent, breaks, c) :=
    match increment with
    | none =>
      let (n, breaks, widest) := blockIndentation c.column c.rest
      (max least widest, breaks, c.advance n)
    | some increment =>
      let indent := least + increment - 1
      let (n, breaks) := blockBreaks indent c.column c.rest
      (indent, breaks, c.advance n)
  let lines := blockLines folded indent (c.left + 1) ⟨#[], [], breaks, c⟩
  let text :=
    match chomping with
    | .strip => lines.text
    | .clip => lines.text ++ lines.lastBreak
    | .keep => lines.text ++ lines.lastBreak ++ lines.breaks
  .ok (text.toList, lines.after)

end PacScript.Yaml
