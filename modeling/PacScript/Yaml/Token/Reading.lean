import PacScript.Yaml.Token.Property

/-!
# Reading tokens

A document text becomes a row of tokens. Indentation opens and closes block collections; a colon
makes a key of what stands before it on the same line, which is why the places of possible keys are
kept (`CandidateKey`), one for each level of flow collections. Reading stops at the first fault and
returns the tokens that were settled before it.
-/

namespace PacScript.Yaml

/-- The place of something that a colon may yet make into a key. Where a block mapping goes on, it
must become one. -/
structure CandidateKey where
  place : Nat
  required : Bool
  index : Nat
  line : Nat
  column : Nat

/-- What is known after some tokens have been read, of which the latest comes first. The flow level
counts open brackets; the indentations of open blocks are kept innermost first. -/
structure Reading where
  cursor : Cursor
  tokens : List Token
  count : Nat
  flow : Nat
  indent : Int
  indents : List Int
  allowKey : Bool
  keys : List (Nat × CandidateKey)

namespace Reading

def ofChars (cs : List Char) : Reading :=
  ⟨Cursor.ofChars cs, [], 0, 0, -1, [], true, []⟩

def push (r : Reading) (t : Token) : Reading :=
  { r with tokens := t :: r.tokens, count := r.count + 1 }

/-- Puts a token in front of the one at a place. -/
def insert (r : Reading) (place : Nat) (t : Token) : Reading :=
  { r with tokens := r.tokens.insertIdx (r.count - place) t, count := r.count + 1 }

def inFlow (r : Reading) : Bool := r.flow != 0

/-- The longest distance, in characters, between the start of a key and its colon. -/
def keySpan : Nat := 1024

/-- Forgets the candidates that are on another line or too far away. -/
def dropStale (r : Reading) : Except Fault Reading :=
  let isStale (k : CandidateKey) : Bool :=
    k.line != r.cursor.line || r.cursor.index - k.index > keySpan
  if r.keys.any fun e => isStale e.2 && e.2.required then .error .malformed
  else .ok { r with keys := r.keys.filter fun e => !isStale e.2 }

/-- Forgets the candidate of the current level. -/
def dropKey (r : Reading) : Except Fault Reading :=
  match r.keys.lookup r.flow with
  | none => .ok r
  | some k =>
    if k.required then .error .malformed
    else .ok { r with keys := r.keys.filter fun e => e.1 != r.flow }

/-- Notes that a key may start at the cursor. -/
def saveKey (r : Reading) : Except Fault Reading :=
  if !r.allowKey then .ok r
  else do
    let required := !r.inFlow && r.indent == r.cursor.column
    let r ← r.dropKey
    let c := r.cursor
    let k : CandidateKey := ⟨r.count, required, c.index, c.line, c.column⟩
    .ok { r with keys := (r.flow, k) :: r.keys }

/-- Closes the blocks that are indented further than a column. -/
def closeBlocks (r : Reading) (column : Int) : Reading :=
  let rec close (r : Reading) : List Int → Reading
    | [] => r
    | outer :: rest =>
      if column < r.indent then
        close { r.push .blockEnd with indent := outer, indents := rest } rest
      else r
  if r.inFlow then r else close r r.indents

/-- Opens a block at a column that is indented further; the token goes to the given place. -/
def openBlock (r : Reading) (column : Nat) (place : Nat) (t : Token) : Reading :=
  if r.indent < column then
    { r.insert place t with indent := column, indents := r.indent :: r.indents }
  else r

/-- The cursor at the next token. A line break outside flow collections allows a key. -/
def skipToToken (r : Reading) : Reading :=
  let rec skip (inComment : Bool) : List Char → Nat × Bool
    | [] => (0, false)
    | c :: rest =>
      if isBreak c then
        let (n, _) := skip false rest
        (n + 1, true)
      else if inComment || c == ' ' || c == '#' then
        let (n, crossed) := skip (inComment || c == '#') rest
        (n + 1, crossed)
      else (0, false)
  let c := r.cursor
  let c := if c.index = 0 && c.peek? 0 == some '\uFEFF' then c.next else c
  let (n, crossed) := skip false c.rest
  { r with cursor := c.advance n, allowKey := r.allowKey || (crossed && !r.inFlow) }

/-- Everything that is open ends here. -/
def closeAll (r : Reading) : Except Fault Reading := do
  let r ← (r.closeBlocks (-1)).dropKey
  .ok { r with allowKey := false }

def documentMarker (r : Reading) (t : Token) : Except Fault Reading := do
  let r ← r.closeAll
  .ok { r.push t with cursor := r.cursor.advance 3 }

def openFlow (r : Reading) (t : Token) : Except Fault Reading := do
  let r ← r.saveKey
  .ok { r.push t with flow := r.flow + 1, allowKey := true, cursor := r.cursor.next }

def closeFlow (r : Reading) (t : Token) : Except Fault Reading := do
  let r ← r.dropKey
  if r.flow = 0 then .error .malformed
  else .ok { r.push t with flow := r.flow - 1, allowKey := false, cursor := r.cursor.next }

def flowEntry (r : Reading) : Except Fault Reading := do
  let r ← r.dropKey
  .ok { r.push .flowEntry with allowKey := true, cursor := r.cursor.next }

def blockEntry (r : Reading) : Except Fault Reading := do
  if !r.inFlow && !r.allowKey then .error .malformed
  else
    let r :=
      if r.inFlow then r else r.openBlock r.cursor.column r.count .blockSequenceStart
    let r ← r.dropKey
    .ok { r.push .blockEntry with allowKey := true, cursor := r.cursor.next }

def key (r : Reading) : Except Fault Reading := do
  if !r.inFlow && !r.allowKey then .error .malformed
  else
    let r := if r.inFlow then r else r.openBlock r.cursor.column r.count .blockMappingStart
    let r ← r.dropKey
    .ok { r.push .key with allowKey := !r.inFlow, cursor := r.cursor.next }

/-- A colon: it makes a key of the candidate of its level, or stands after a key that was marked. -/
def value (r : Reading) : Except Fault Reading := do
  match r.keys.lookup r.flow with
  | some k =>
    let r := { r.insert k.place .key with keys := r.keys.filter fun e => e.1 != r.flow }
    let r := if r.inFlow then r else r.openBlock k.column k.place .blockMappingStart
    .ok { r.push .value with allowKey := false, cursor := r.cursor.next }
  | none =>
    if !r.inFlow && !r.allowKey then .error .malformed
    else
      let r :=
        if r.inFlow then r else r.openBlock r.cursor.column r.count .blockMappingStart
      .ok { r.push .value with allowKey := !r.inFlow, cursor := r.cursor.next }

/-- A token that may be, or begin, a key. -/
def property (r : Reading) (read : Cursor → Except Fault (Token × Cursor)) :
    Except Fault Reading := do
  let r ← r.saveKey
  let (t, cursor) ← read r.cursor
  .ok { r.push t with allowKey := false, cursor }

def quotedToken (quote : Char) (c : Cursor) : Except Fault (Token × Cursor) := do
  let (text, c) ← quotedScalar quote c
  .ok (.scalar (String.ofList text) false, c)

def block (r : Reading) (folded : Bool) : Except Fault Reading := do
  let r ← { r with allowKey := true }.dropKey
  let (text, cursor) ← blockScalar folded r.indent r.cursor
  .ok { r.push (.scalar (String.ofList text) false) with cursor }

def plain (r : Reading) : Except Fault Reading := do
  let r ← r.saveKey
  let s := plainScalar r.inFlow r.indent r.cursor
  .ok { r.push (.scalar (String.ofList s.text.toList) true) with
        allowKey := s.atLineStart, cursor := s.after }

/-- Characters that cannot begin a plain scalar, some of them unless more of it follows. -/
def indicators : List Char := "-?:,[]\x7b\x7d#&*!|>'\"%@\x60".toList

/-- Whether a plain scalar begins with this character, given the one after it. -/
def startsPlain (inFlow : Bool) (c : Char) (following : Option Char) : Bool :=
  !(endsBlank (some c) || indicators.contains c) ||
    (!endsBlank following && (c == '-' || (!inFlow && (c == '?' || c == ':'))))

/-- Reads one more token, or several; nothing is left to read when there is no result. -/
def step (r : Reading) : Except Fault (Option Reading) := do
  let r ← r.skipToToken.dropStale
  let r := r.closeBlocks r.cursor.column
  let c := r.cursor
  match c.rest with
  | [] => .ok none
  | ch :: rest =>
    let following := rest.head?
    let blankFollows := r.inFlow || endsBlank following
    if ch == '%' && c.column = 0 then
      let r ← r.closeAll
      let (t, cursor) ← directive r.cursor
      .ok (some { r.push t with cursor })
    else if ch == '-' && c.column = 0 && startsMarker c.rest then r.documentMarker .documentStart
    else if ch == '.' && c.column = 0 && startsMarker c.rest then r.documentMarker .documentEnd
    else if ch == '[' then r.openFlow .flowSequenceStart
    else if ch == '\x7b' then r.openFlow .flowMappingStart
    else if ch == ']' then r.closeFlow .flowSequenceEnd
    else if ch == '\x7d' then r.closeFlow .flowMappingEnd
    else if ch == ',' then r.flowEntry
    else if ch == '-' && endsBlank following then r.blockEntry
    else if ch == '?' && blankFollows then r.key
    else if ch == ':' && blankFollows then r.value
    else if ch == '*' then
      r.property fun c => do
        let (name, c) ← anchorName c
        .ok (.alias name, c)
    else if ch == '&' then
      r.property fun c => do
        let (name, c) ← anchorName c
        .ok (.anchor name, c)
    else if ch == '!' then r.property tag
    else if ch == '|' && !r.inFlow then r.block false
    else if ch == '>' && !r.inFlow then r.block true
    else if ch == '\'' || ch == '"' then r.property (quotedToken ch)
    else if startsPlain r.inFlow ch following then r.plain
    else .error .malformed

/-- The tokens that no later text can change: those before the first candidate, in front of which a
key may yet be put. -/
def settled (r : Reading) : List Token :=
  let keys :=
    match r.dropStale with
    | .ok r => r.keys
    | .error _ => r.keys
  r.tokens.reverse.take (keys.foldl (fun n e => min n e.2.place) r.count)

/-- Reads all tokens. Where a fault stops the reading, it comes with the tokens that were settled
before. -/
def run : (fuel : Nat) → Reading → List Token × Option Fault
  | 0, r => (r.settled, some .malformed)
  | fuel + 1, r =>
    match r.step with
    | .error fault => (r.settled, some fault)
    | .ok (some r) => run fuel r
    | .ok none =>
      match r.skipToToken.dropStale >>= closeAll with
      | .error fault => (r.settled, some fault)
      | .ok r => (r.tokens.reverse, none)

end Reading

/-- The tokens of a document text, and the fault at which they end. -/
def tokens (cs : List Char) : List Token × Option Fault :=
  (Reading.ofChars cs).run (cs.length + 1)

end PacScript.Yaml
