import PacScript.Number.Numeral
import PacScript.Yaml.Token.Scalar

/-!
# Directives, anchors, aliases and tags

The tokens of documents, in which the marks of the block structure, which come from indentation,
stand beside those that are written; and the marks that stand in front of a document or a node.
-/

namespace PacScript.Yaml

/-- A directive in front of a document. -/
inductive Directive
  | version (major minor : Nat)
  | tagHandle (handle tag : String)
  | other

/-- A token. A tag has a handle, or is written in full. -/
inductive Token
  | directive (d : Directive)
  | documentStart
  | documentEnd
  | blockSequenceStart
  | blockMappingStart
  | blockEnd
  | flowSequenceStart
  | flowSequenceEnd
  | flowMappingStart
  | flowMappingEnd
  | blockEntry
  | flowEntry
  | key
  | value
  | alias (name : String)
  | anchor (name : String)
  | tag (handle? : Option String) (suffix : String)
  | scalar (text : String) (isPlain : Bool)

/-- Characters of anchor names, tag handles and directive names. -/
def isNameChar (c : Char) : Bool := c.isAlphanum || c == '-' || c == '_'

/-- A non-empty name at the cursor. -/
def name (c : Cursor) : Except Fault (String × Cursor) :=
  let (cs, c) := c.takeWhile isNameChar
  if cs.isEmpty then .error .malformed else .ok (String.ofList cs, c)

/-- The name of an anchor or alias, given the cursor at its mark. -/
def anchorName (c : Cursor) : Except Fault (String × Cursor) := do
  let (name, c) ← name c.next
  let following := c.peek? 0
  let ends :=
    match following with
    | none => true
    | some ch => "?:,]\x7d%@\x60".toList.contains ch
  if endsBlank following || ends then .ok (name, c) else .error .malformed

/-! ## Tags -/

def isUriChar (c : Char) : Bool := c.isAlphanum || "-;/?:@&=+$,_.!~*'()[]%".toList.contains c

/-- Bytes written as pairs of hexadecimal digits after percent signs, and what follows them. -/
def escapedBytes : (fuel : Nat) → List Char → Except Fault (List UInt8 × Nat)
  | 0, _ => .ok ([], 0)
  | fuel + 1, '%' :: rest =>
    let digits := rest.take 2
    if digits.length = 2 && digits.all Text.isHexDigit then do
      let (more, n) ← escapedBytes fuel (rest.drop 2)
      .ok (UInt8.ofNat (Text.ofHexDigits digits) :: more, n + 3)
    else .error .malformed
  | _, _ => .ok ([], 0)

/-- The characters of a tag from the cursor on. -/
def uriPieces : (fuel : Nat) → (text : Array Char) → Cursor → Except Fault (List Char × Cursor)
  | 0, text, c => .ok (text.toList, c)
  | fuel + 1, text, c =>
    match c.peek? 0 with
    | none => .ok (text.toList, c)
    | some ch =>
      if ch == '%' then do
        let (bytes, n) ← escapedBytes c.left c.rest
        match String.fromUTF8? ⟨bytes.toArray⟩ with
        | some s => uriPieces fuel (text ++ s.toList) (c.advance n)
        | none => .error .malformed
      else if isUriChar ch then uriPieces fuel (text.push ch) c.next
      else .ok (text.toList, c)

/-- A non-empty tag text. -/
def uri (c : Cursor) : Except Fault (String × Cursor) := do
  let (cs, c) ← uriPieces c.left #[] c
  if cs.isEmpty then .error .malformed else .ok (String.ofList cs, c)

/-- A tag handle: `!`, or a name between two exclamation marks. -/
def tagHandle (c : Cursor) : Except Fault (String × Cursor) :=
  if c.peek? 0 != some '!' then .error .malformed
  else if c.peek? 1 == some ' ' then .ok ("!", c.next)
  else
    let (cs, after) := c.next.takeWhile isNameChar
    if after.peek? 0 == some '!' then .ok (String.ofList ('!' :: cs ++ ['!']), after.next)
    else .error .malformed

/-- Whether another exclamation mark follows before a space or the end of the line. -/
def hasNamedHandle (afterMark : List Char) : Bool :=
  (afterMark.takeWhile fun c => !(c == ' ' || isBreak c)).contains '!'

/-- A tag, given the cursor at its mark. -/
def tag (c : Cursor) : Except Fault (Token × Cursor) := do
  let following := c.peek? 1
  let (token, c) ←
    if following == some '<' then do
      let (suffix, c) ← uri (c.advance 2)
      if c.peek? 0 == some '>' then .ok (Token.tag none suffix, c.next) else .error .malformed
    else if endsBlank following then .ok (Token.tag none "!", c.next)
    else if hasNamedHandle (c.rest.drop 1) then do
      let (handle, c) ← tagHandle c
      let (suffix, c) ← uri c
      .ok (Token.tag (some handle) suffix, c)
    else do
      let (suffix, c) ← uri c.next
      .ok (Token.tag (some "!") suffix, c)
  if endsWord (c.peek? 0) then .ok (token, c) else .error .malformed

/-! ## Directives -/

/-- A non-empty row of digits, no longer than numerals may be. -/
def number (c : Cursor) : Except Fault (Nat × Cursor) :=
  let (cs, c) := c.takeWhile Char.isDigit
  if cs.isEmpty then .error .malformed
  else if cs.length > Numeral.digitLimit then .error .badScalar
  else .ok (Text.ofDigits cs, c)

/-- The version that a directive names. -/
def versionDirective (c : Cursor) : Except Fault (Directive × Cursor) := do
  let (major, c) ← number (c.skipWhile (· == ' '))
  if c.peek? 0 != some '.' then .error .malformed
  else
    let (minor, c) ← number c.next
    if endsWord (c.peek? 0) then .ok (.version major minor, c) else .error .malformed

/-- The handle that a directive gives to tags. -/
def handleDirective (c : Cursor) : Except Fault (Directive × Cursor) := do
  let (handle, c) ← tagHandle (c.skipWhile (· == ' '))
  if c.peek? 0 != some ' ' then .error .malformed
  else
    let (tag, c) ← uri (c.skipWhile (· == ' '))
    if endsWord (c.peek? 0) then .ok (.tagHandle handle tag, c) else .error .malformed

/-- A directive with the rest of its line, given the cursor at its mark. -/
def directive (c : Cursor) : Except Fault (Token × Cursor) := do
  let (name, c) ← name c.next
  if !endsWord (c.peek? 0) then .error .malformed
  else
    let (d, c) ←
      if name == "YAML" then versionDirective c
      else if name == "TAG" then handleDirective c
      else .ok (Directive.other, c.skipWhile fun ch => !isBreak ch)
    .ok (.directive d, ← restOfLine c)

end PacScript.Yaml
