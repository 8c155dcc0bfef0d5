import PacScript.Text.Basic
import PacScript.Yaml.Timestamp

/-!
# Tags

The types of nodes. A plain scalar without tag gets its type from its text (`Tag.ofPlain`): truth
values, whole numbers in several bases, floating-point numbers, nothing, timestamps, and otherwise a
text.
-/

namespace PacScript.Yaml

/-- The types of nodes that have a meaning, and all others. -/
inductive Tag
  | null
  | bool
  | int
  | float
  | binary
  | timestamp
  | omap
  | pairs
  | set
  | str
  | seq
  | map
  | merge
  | value
  | unknown
  deriving DecidableEq

namespace Tag

/-- The tags of the standard types. -/
def names : List (String × Tag) :=
  [("null", .null), ("bool", .bool), ("int", .int), ("float", .float), ("binary", .binary),
   ("timestamp", .timestamp), ("omap", .omap), ("pairs", .pairs), ("set", .set), ("str", .str),
   ("seq", .seq), ("map", .map), ("merge", .merge), ("value", .value)]

/-- What the tags of the standard types begin with. -/
def standard : String := "tag:yaml.org,2002:"

/-- The type of a tag that is written in full. -/
def ofText (s : String) : Tag :=
  ((names.find? fun e => standard ++ e.1 == s).map (·.2)).getD .unknown

/-- Whether no node of the type has a value of its own. -/
def isUndefined : Tag → Bool
  | .merge | .value | .unknown => true
  | _ => false

/-! ## Untagged scalars -/

def nullWords : List String := ["", "~", "null", "Null", "NULL"]

def boolWords : List String :=
  ["yes", "Yes", "YES", "no", "No", "NO", "true", "True", "TRUE", "false", "False", "FALSE",
   "on", "On", "ON", "off", "Off", "OFF"]

def infinityWords : List String := [".inf", ".Inf", ".INF"]

def nanWords : List String := [".nan", ".NaN", ".NAN"]

def isDigitOrJoin (c : Char) : Bool := c.isDigit || c == '_'

/-- The text without a sign in front. -/
def unsigned : List Char → List Char
  | '+' :: rest => rest
  | '-' :: rest => rest
  | cs => cs

/-- A digit and further digits or underscores. -/
def isDigits : List Char → Bool
  | [] => false
  | c :: rest => c.isDigit && rest.all isDigitOrJoin

/-- A part of a number in base sixty after the first. -/
def isSixtieth : List Char → Bool
  | [a] => a.isDigit
  | [a, b] => '0' ≤ a && a ≤ '5' && b.isDigit
  | _ => false

def isNonEmptyOf (p : Char → Bool) (cs : List Char) : Bool := !cs.isEmpty && cs.all p

def startsWithPositive : List Char → Bool
  | [] => false
  | c :: _ => '1' ≤ c && c ≤ '9'

/-- Whole numbers: binary, octal, decimal, hexadecimal and in base sixty. -/
def isInt (cs : List Char) : Bool :=
  let body := unsigned cs
  match Text.pieces ':' body with
  | [] => false
  | [_] =>
    match body with
    | '0' :: 'b' :: rest => isNonEmptyOf (fun c => c == '0' || c == '1' || c == '_') rest
    | '0' :: 'x' :: rest => isNonEmptyOf (fun c => Text.isHexDigit c || c == '_') rest
    | '0' :: rest => rest.all fun c => ('0' ≤ c && c ≤ '7') || c == '_'
    | _ => isDigits body
  | first :: more => startsWithPositive first && isDigits first && more.all isSixtieth

/-- An exponent with a sign, or nothing. -/
def isExponent : List Char → Bool
  | [] => true
  | e :: sign :: digits =>
    (e == 'e' || e == 'E') && (sign == '+' || sign == '-') && isNonEmptyOf Char.isDigit digits
  | _ => false

/-- Floating-point numbers have a point; an exponent has a sign. -/
def isFloat (cs : List Char) : Bool :=
  let s := String.ofList cs
  let body := unsigned cs
  if nanWords.contains s || infinityWords.contains (String.ofList body) then true
  else
    match Text.cut? '.' body with
    | none => false
    | some (whole, rest) =>
      let tail := rest.dropWhile isDigitOrJoin
      match Text.pieces ':' whole with
      | [] => false
      | [_] =>
        if whole.isEmpty then
          body.length == cs.length && isDigits (rest.takeWhile isDigitOrJoin) && isExponent tail
        else isDigits whole && isExponent tail
      | first :: more => isDigits first && more.all isSixtieth && tail.isEmpty

/-- Marks that have a type of their own, which has no meaning. -/
def markWords : List String := ["!", "&", "*"]

/-- The type of a scalar without tag from its text. One line feed at the end of a text that is not
empty makes no difference. -/
def ofPlain (text : String) : Tag :=
  let cs := Text.dropFinalFeed text.toList
  let word := String.ofList cs
  if text == "\n" then .str
  else if boolWords.contains word then .bool
  else if isFloat cs then .float
  else if isInt cs then .int
  else if word == "<<" then .merge
  else if nullWords.contains word then .null
  else if Timestamp.isPlain cs then .timestamp
  else if word == "=" then .value
  else if markWords.contains word then .unknown
  else .str

end Tag

end PacScript.Yaml
