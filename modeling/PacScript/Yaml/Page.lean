import PacScript.Text.Basic

/-!
# Pages

A document text while it is written: the text so far, the column, and whether a blank or only
indentation stands before the next character. Lines are broken at spaces beyond `lineWidth`.
-/

namespace PacScript.Yaml

/-- A text while it is written. -/
structure Page where
  text : Array Char
  column : Nat
  afterBlank : Bool
  inIndentation : Bool

namespace Page

def blank : Page := ⟨#[], 0, true, true⟩

/-- The column beyond which a line is broken. -/
def lineWidth : Nat := 80

def put (p : Page) (cs : List Char) : Page :=
  { p with text := p.text ++ cs, column := p.column + cs.length }

def breakLine (p : Page) : Page := ⟨p.text.push '\n', 0, true, true⟩

/-- An indicator, set off by a blank where it needs one. After it only indentation may still stand
before the cursor if it counts as such itself. -/
def indicator (p : Page) (cs : List Char) (needsBlank isBlank isIndentation : Bool) : Page :=
  let p := p.put (if p.afterBlank || !needsBlank then cs else ' ' :: cs)
  { p with afterBlank := isBlank, inIndentation := p.inIndentation && isIndentation }

/-- Moves to a column, on a new line unless only indentation stands before the cursor. -/
def indentTo (p : Page) (indent : Nat) : Page :=
  let p :=
    if !p.inIndentation || indent < p.column || (p.column == indent && !p.afterBlank) then
      p.breakLine
    else p
  if p.column < indent then
    { p.put (List.replicate (indent - p.column) ' ') with afterBlank := true }
  else p

/-- The cursor stands after a character of a scalar. -/
def inScalar (p : Page) : Page := { p with afterBlank := false, inIndentation := false }

/-! ## Scalars -/

/-- The rest of a plain scalar, given the characters not written yet: a word or a run of spaces. -/
def plainRest (split : Bool) (indent : Nat) : (pending : Array Char) → (spaces : Bool) →
    List Char → Page → Page
  | pending, _, [], p => p.put pending.toList
  | pending, spaces, c :: rest, p =>
    if spaces == (c == ' ') then plainRest split indent (pending.push c) spaces rest p
    else
      let p :=
        if spaces && pending.size == 1 && p.column > lineWidth && split then
          (p.indentTo indent).inScalar
        else p.put pending.toList
      plainRest split indent #[c] (c == ' ') rest p

def plain (p : Page) (split : Bool) (indent : Nat) (cs : List Char) : Page :=
  let p := if p.afterBlank then p else p.put [' ']
  plainRest split indent #[] false cs p.inScalar

/-- What a run of characters of a single-quoted scalar consists of. -/
inductive Run
  | word
  | spaces
  | breaks
  deriving DecidableEq

def Run.of (c : Char) : Run := if c == ' ' then .spaces else if c == '\n' then .breaks else .word

/-- Writes a run of a single-quoted scalar. Line breaks are doubled, because one is folded; a single
space inside the scalar may become a line break. -/
def putRun (split : Bool) (indent : Nat) (isFirst isLast : Bool) (run : Run) (cs : List Char)
    (p : Page) : Page :=
  match run with
  | .word => p.put cs
  | .spaces =>
    if cs.length == 1 && p.column > lineWidth && split && !isFirst && !isLast then
      p.indentTo indent
    else p.put cs
  | .breaks =>
    if cs.isEmpty then p
    else (cs.foldl (fun p _ => p.breakLine) p.breakLine).indentTo indent

/-- The rest of a single-quoted scalar, given the run not written yet. -/
def singleRest (split : Bool) (indent : Nat) : (isFirst : Bool) → Run → (pending : Array Char) →
    List Char → Page → Page
  | isFirst, run, pending, [], p => putRun split indent isFirst true run pending.toList p
  | isFirst, run, pending, c :: rest, p =>
    if c == '\'' then
      let p := (putRun split indent isFirst false run pending.toList p).put ['\'', '\'']
      singleRest split indent false .word #[] rest p
    else if Run.of c == run then singleRest split indent isFirst run (pending.push c) rest p
    else
      let p := putRun split indent isFirst false run pending.toList p
      singleRest split indent (isFirst && pending.isEmpty) (Run.of c) #[c] rest p

def single (p : Page) (split : Bool) (indent : Nat) (cs : List Char) : Page :=
  let p := p.indicator ['\''] true false false
  (singleRest split indent true .word #[] cs p).indicator ['\''] false false false

/-- Characters with an escape of their own. -/
def escapeLetters : List (Char × Char) :=
  [('\x00', '0'), ('\x07', 'a'), ('\x08', 'b'), ('\t', 't'), ('\n', 'n'), ('\x0b', 'v'),
   ('\x0c', 'f'), ('\r', 'r'), ('\x1b', 'e'), ('"', '"'), ('\\', '\\'), ('\u0085', 'N'),
   ('\u00a0', '_'), ('\u2028', 'L'), ('\u2029', 'P')]

/-- The code of a character in capital hexadecimal digits. -/
def codeDigits (width : Nat) (c : Char) : List Char :=
  (Text.hexDigits width c.toNat).map Char.toUpper

/-- The escape of a character of a double-quoted scalar that is not written as it is. -/
def escape? (c : Char) : Option (List Char) :=
  match escapeLetters.lookup c with
  | some letter => some ['\\', letter]
  | none =>
    if ' ' ≤ c && c ≤ '~' then none
    else if c.toNat ≤ 0xff then some ('\\' :: 'x' :: codeDigits 2 c)
    else if c.toNat ≤ 0xffff then some ('\\' :: 'u' :: codeDigits 4 c)
    else some ('\\' :: 'U' :: codeDigits 8 c)

/-- The rest of a double-quoted scalar, given the characters not written yet. Long lines are broken
after a backslash, at a space or beside an escape. -/
def doubleRest (split : Bool) (indent : Nat) : (isFirst : Bool) → (pending : Array Char) →
    List Char → Page → Page
  | _, pending, [], p => p.put pending.toList
  | isFirst, pending, c :: rest, p =>
    let (p, pending, escaped) :=
      match escape? c with
      | some e => ((p.put pending.toList).put e, #[], true)
      | none => (p, pending, false)
    let width := p.column + pending.size - (if escaped then 1 else 0)
    if !isFirst && !rest.isEmpty && (c == ' ' || pending.isEmpty) && width > lineWidth && split then
      let p := ((p.put (pending.push '\\').toList).indentTo indent).inScalar
      let next := if escaped then rest.head? else some c
      let p := if next == some ' ' then p.put ['\\'] else p
      doubleRest split indent false (if escaped then #[] else #[c]) rest p
    else doubleRest split indent false (if escaped then #[] else pending.push c) rest p

def double (p : Page) (split : Bool) (indent : Nat) (cs : List Char) : Page :=
  let p := p.indicator ['"'] true false false
  (doubleRest split indent true #[] cs p).indicator ['"'] false false false

end Page

end PacScript.Yaml
