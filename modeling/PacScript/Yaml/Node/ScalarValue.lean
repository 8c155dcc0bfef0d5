import PacScript.Number.Numeral
import PacScript.Text.Case
import PacScript.Value.Basic
import PacScript.Yaml.Base64
import PacScript.Yaml.Node

/-!
# Values of scalars

What a scalar of a certain type denotes. A tag may ask for a type that the text does not have, so
every reading may fail.
-/

namespace PacScript.Yaml

open PacScript.Numeral

/-- The truth values of words in lower case. -/
def truthWords : List (String × Bool) :=
  [("yes", true), ("no", false), ("true", true), ("false", false), ("on", true), ("off", false)]

def boolValue (cs : List Char) : Except Fault Value :=
  match truthWords.lookup (String.ofList (Text.lower cs)) with
  | some b => .ok (.bool b)
  | none => .error .unknownWord

/-- The number of whole parts in base sixty, highest first. -/
def sixtieths? (parts : List (List Char)) : Option Int :=
  parts.foldlM (fun n part => (readInt? 10 part).map (n * 60 + ·)) 0

/-- A whole number without sign. -/
def magnitude? (body : List Char) : Option Int :=
  match body with
  | ['0'] => some 0
  | '0' :: 'b' :: rest => readInt? 2 rest
  | '0' :: 'x' :: rest => readInt? 16 rest
  | '0' :: _ => readInt? 8 body
  | _ => if body.contains ':' then sixtieths? (Text.pieces ':' body) else readInt? 10 body

def intValue (cs : List Char) : Except Fault Value :=
  let digits := cs.filter (· != '_')
  if (Tag.unsigned digits).isEmpty then .error .emptyNumber
  else
    match magnitude? (Tag.unsigned digits) with
    | some n => .ok (.int (if digits.head? == some '-' then -n else n))
    | none => .error .badScalar

/-- The sum of parts in base sixty, lowest first, each rounded on the way. -/
def sixtiethSum : (base : Int) → (sum : Binary64) → List Binary64 → Except Fault Binary64
  | _, sum, [] => .ok sum
  | base, sum, x :: rest =>
    let b := Binary64.ofInt base
    if b.isInfinite then .error .tooLarge
    else sixtiethSum (base * 60) (sum.add (x.mul b)) rest

/-- A floating-point number without sign. -/
def realMagnitude (body : List Char) : Except Fault Binary64 :=
  if body.contains ':' then
    match (Text.pieces ':' body).mapM readFloat? with
    | some parts => sixtiethSum 1 Binary64.zero parts.reverse
    | none => .error .badScalar
  else
    match readFloat? body with
    | some x => .ok x
    | none => .error .badScalar

/-- What counts of the text of a floating-point number. -/
def realDigits (cs : List Char) : List Char := Text.lower (cs.filter (· != '_'))

/-- Whether a text is the word for what is not a number, with or without a sign. -/
def isNanWord (cs : List Char) : Bool := Tag.unsigned (realDigits cs) == ".nan".toList

def floatValue (cs : List Char) : Except Fault Value :=
  let digits := realDigits cs
  if digits.isEmpty then .error .emptyNumber
  else
    let negative := digits.head? == some '-'
    let body := Tag.unsigned digits
    if body == ".inf".toList then .ok (.float (.infinite negative))
    else if isNanWord cs then .ok (.float .nan)
    else do
      let x ← realMagnitude body
      .ok (.float (if negative then x.neg else x))

def binaryValue (cs : List Char) : Except Fault Value :=
  if cs.all (·.toNat < 128) then
    match Base64.decode? cs with
    | some content => .ok (.bytes content)
    | none => .error .malformed
  else .error .malformed

def timestampValue (cs : List Char) : Except Fault Value :=
  match Timestamp.ofChars? (Text.dropFinalFeed cs) with
  | none => .error .noTimestamp
  | some t =>
    match t.time with
    | none => if t.date.isValid then .ok (.date t.date) else .error .badScalar
    | some time => do .ok (.instant (← Timestamp.instant t.date time))

/-- The value of a scalar of a type; collections and tags without meaning have none. -/
def scalarValue (tag : Tag) (text : String) : Except Fault Value :=
  let cs := text.toList
  match tag with
  | .null => .ok .null
  | .bool => boolValue cs
  | .int => intValue cs
  | .float => floatValue cs
  | .binary => binaryValue cs
  | .timestamp => timestampValue cs
  | .str => .ok (.text text)
  | _ => .error .malformed

end PacScript.Yaml
