import PacScript.Value.Basic

/-!
# Numbers in sets

A set lists its members by the slots that they lie in, not in the order in which they came. A number
belongs into the slot of its residue, and goes on from there while slots are taken. Numbers that are
equal have the same residue, of whatever kind they are. Sets that hold anything else keep the order
in which their members came.
-/

namespace PacScript.Value

/-- Residues of numbers are taken modulo this prime. -/
def residueModulus : Nat := (1 <<< 61) - 1

/-- The residue of a fraction with the denominator `2 ^ 1074`. Since `2 ^ 61` leaves `1`, to divide
by `2 ^ 1074` is to multiply by `2 ^ 24`. -/
def residueOfUnits (units : Nat) : Nat := (units <<< 24) % residueModulus

/-- The residue of a number with its sign, except that `-1` is no residue. What is not a number has
none. -/
def Number.residue? (x : Number) : Option Int :=
  let signed (negative : Bool) (size : Nat) : Int :=
    if negative then (if size = 1 then -2 else -(size : Int)) else size
  match x with
  | .whole n => some (signed (n < 0) (n.natAbs % residueModulus))
  | .real (.infinite negative) => some (signed negative 314159)
  | .real x => x.units?.map fun u => signed (u < 0) (residueOfUnits u.natAbs)

/-- The number of slots for some members: a power of two, at least eight, and beyond four members
more than twice as many. -/
def slotCount (members : Nat) : Nat := if members ≤ 4 then 8 else 1 <<< (Nat.log2 (2 * members) + 1)

/-- How many slots after the first are tried before a jump. -/
def nearSlots : Nat := 9

/-- The first free slot from a slot on: it or one of those near it, or else one of those that the
jumps lead to, which come around to all slots when the excess of the residue is used up. -/
def freeSlot (taken : Nat → Bool) (count : Nat) : (fuel slot excess : Nat) → Nat
  | 0, slot, _ => slot
  | fuel + 1, slot, excess =>
    let near := if slot + nearSlots < count then nearSlots else 0
    match (List.range' slot (near + 1)).find? fun s => !taken s with
    | some s => s
    | none =>
      let excess := excess / 32
      freeSlot taken count fuel ((slot * 5 + 1 + excess) % count) excess

/-- Members with their residues, by the slots that they come to lie in. -/
def bySlots (members : List (Value × Int)) : List Value :=
  let count := slotCount members.length
  let put (slots : Array (Option Value)) (m : Value × Int) : Array (Option Value) :=
    let isTaken (s : Nat) : Bool := (slots[s]?.join).isSome
    let excess := (m.2 % (1 <<< 64 : Nat)).toNat
    slots.setIfInBounds (freeSlot isTaken count (count + 16) (excess % count) excess) (some m.1)
  ((members.foldl put (Array.replicate count none)).toList).filterMap id

/-- A set of the given members. -/
def ofMembers (members : List Value) : Value :=
  match members.mapM fun v => (v.number?.bind Number.residue?).map fun r => (v, r) with
  | some members => .set (bySlots members)
  | none => .set members

end PacScript.Value
