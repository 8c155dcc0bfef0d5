import PacScript.Address.Basic
import PacScript.Calendar.Instant
import PacScript.Number.Binary64

/-!
# Dynamic values

What scripts pass as arguments, what settings files hold and what replaced hooks may answer. A
dictionary keeps its entries in order. A list or dictionary may be inside itself, where it is not
unfolded again.
-/

namespace PacScript

/-- A dynamic value. -/
inductive Value
  | null
  | bool (b : Bool)
  | int (n : Int)
  | float (x : Binary64)
  | text (s : String)
  | list (items : List Value)
  | dict (entries : List (Value × Value))
  | tuple (items : List Value)
  | set (items : List Value)
  | bytes (content : List UInt8)
  | date (d : Date)
  | instant (i : Instant)
  | address (a : Address)
  /-- A list or else a dictionary that is around this place. -/
  | recurring (isList : Bool)

namespace Value

/-- Whether the value counts as true in a condition. -/
def truthy : Value → Bool
  | .null => false
  | .bool b => b
  | .int n => n != 0
  | .float x => !x.isZero
  | .text s => !s.isEmpty
  | .list items => !items.isEmpty
  | .dict entries => !entries.isEmpty
  | .tuple items => !items.isEmpty
  | .set items => !items.isEmpty
  | .bytes content => !content.isEmpty
  | .date _ => true
  | .instant _ => true
  | .address _ => true
  | .recurring _ => true

mutual

/-- Whether the value is unfolded to its end, so that no part of it is around itself. -/
def isTree : Value → Bool
  | .recurring _ => false
  | .list items => allTrees items
  | .tuple items => allTrees items
  | .set items => allTrees items
  | .dict entries => entriesTrees entries
  | _ => true

def allTrees : List Value → Bool
  | [] => true
  | v :: rest => isTree v && allTrees rest

def entriesTrees : List (Value × Value) → Bool
  | [] => true
  | (k, v) :: rest => isTree k && isTree v && entriesTrees rest

end

/-- The value as a whole number where truth values, whole numbers and floating-point numbers are
compared with each other. -/
inductive Number
  | whole (n : Int)
  | real (x : Binary64)

def number? : Value → Option Number
  | .bool b => some (.whole (if b then 1 else 0))
  | .int n => some (.whole n)
  | .float x => some (.real x)
  | _ => none

def Number.eqv : Number → Number → Bool
  | .whole m, .whole n => m == n
  | .whole m, .real y => y.eqvInt m
  | .real x, .whole n => x.eqvInt n
  | .real x, .real y => x.eqv y

mutual

/-- Equality of values. Numbers of different kinds are equal when they denote the same number; the
order of a dictionary or a set does not matter. -/
def eqv : Value → Value → Bool
  | .list xs, .list ys => eqvAll xs ys
  | .tuple xs, .tuple ys => eqvAll xs ys
  | .set xs, .set ys => xs.length == ys.length && eqvMembers xs ys
  | .dict xs, .dict ys => xs.length == ys.length && eqvEntries xs ys
  | .text s, .text t => s == t
  | .bytes b, .bytes c => b == c
  | .date d, .date e => d == e
  | .instant i, .instant j => i.isSame j
  | .address a, .address b => a == b
  | .null, .null => true
  | x, y =>
    match x.number?, y.number? with
    | some m, some n => m.eqv n
    | _, _ => false

/-- Equality of two lists, element by element. -/
def eqvAll : List Value → List Value → Bool
  | [], [] => true
  | x :: xs, y :: ys => eqv x y && eqvAll xs ys
  | _, _ => false

/-- Whether every value of the first list is in the second. -/
def eqvMembers : List Value → List Value → Bool
  | [], _ => true
  | x :: xs, ys => ys.any (fun y => eqv x y) && eqvMembers xs ys

/-- Whether every entry of the first dictionary is in the second. -/
def eqvEntries : List (Value × Value) → List (Value × Value) → Bool
  | [], _ => true
  | (k, v) :: xs, ys => ys.any (fun e => eqv k e.1 && eqv v e.2) && eqvEntries xs ys

end

/-- The entry of a key in a dictionary. -/
def lookup? {α : Type} (key : Value) (entries : List (Value × α)) : Option α :=
  (entries.find? fun e => e.1.eqv key).map (·.2)

/-- The dictionary with a value under a key. A key that is there keeps its place. -/
def insert (entries : List (Value × Value)) (key value : Value) : List (Value × Value) :=
  if entries.any fun e => e.1.eqv key then
    entries.map fun e => if e.1.eqv key then (e.1, value) else e
  else entries ++ [(key, value)]

end Value

end PacScript
