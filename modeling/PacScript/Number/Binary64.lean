/-!
# Binary floating point

Double-precision numbers as a plain inductive type. A finite number is a sign and a rank: its place
among the non-negative finite numbers in increasing order, so ranks compare as the numbers do.
Every finite number is a whole multiple of `2 ^ (-1074)`, its number of units (`Binary64.units`);
arithmetic is exact on units and rounded once, to the nearest number and to the even one on a tie.
-/

namespace PacScript

/-- How many ranks have the same exponent: `2 ^ 52`. -/
def Binary64.binade : Nat := 1 <<< 52

/-- How many ranks there are. -/
def Binary64.ranks : Nat := 2047 * binade

/-- A double-precision number. -/
inductive Binary64
  | nan
  | infinite (negative : Bool)
  | finite (negative : Bool) (rank : Fin Binary64.ranks)
  deriving DecidableEq

namespace Binary64

/-- The number of units in one. -/
def unit : Nat := 1 <<< 1074

/-- The magnitude of the finite number of a given rank, in units. -/
def unitsOfRank (rank : Nat) : Nat :=
  if rank < binade then rank else (binade + rank % binade) <<< (rank / binade - 1)

/-- A quotient rounded to the nearest whole number, a tie to the even one. -/
def roundHalfEven (num den : Nat) : Nat :=
  let q := num / den
  let twice := 2 * (num % den)
  if twice < den ∨ (twice = den ∧ q % 2 = 0) then q else q + 1

/-- The rank nearest to `num / den` units; beyond the ranks when no finite number is near. -/
def nearestRank (num den : Nat) : Nat :=
  let shift := Nat.log2 (num / den) - 52
  shift * binade + roundHalfEven num (den <<< shift)

/-- The number of a sign and a rank, infinite when the rank is too large. -/
def ofRank (negative : Bool) (rank : Nat) : Binary64 :=
  if h : rank < ranks then .finite negative ⟨rank, h⟩ else .infinite negative

/-- The number nearest to `num / den` units. -/
def ofUnits (negative : Bool) (num den : Nat) : Binary64 := ofRank negative (nearestRank num den)

def zero : Binary64 := .finite false ⟨0, by decide⟩

/-- The signed number of units of a finite number. -/
def units? : Binary64 → Option Int
  | .finite negative rank =>
    some (if negative then -(unitsOfRank rank : Int) else (unitsOfRank rank : Int))
  | _ => none

/-- The number nearest to a whole number. -/
def ofInt (n : Int) : Binary64 := ofUnits (n < 0) (n.natAbs * unit) 1

/-- The number nearest to `digits * 10 ^ exponent`. -/
def ofDecimal (negative : Bool) (digits : Nat) (exponent : Int) : Binary64 :=
  if digits = 0 then ofRank negative 0
  else if exponent > 400 then .infinite negative
  else if exponent < -(400 + (Nat.log2 digits : Int)) then ofRank negative 0
  else if 0 ≤ exponent then ofUnits negative (digits * Nat.pow 10 exponent.toNat * unit) 1
  else ofUnits negative (digits * unit) (Nat.pow 10 (-exponent).toNat)

def isNan : Binary64 → Bool
  | .nan => true
  | _ => false

def isInfinite : Binary64 → Bool
  | .infinite _ => true
  | _ => false

/-- The opposite number. -/
def neg : Binary64 → Binary64
  | .nan => .nan
  | .infinite s => .infinite (!s)
  | .finite s r => .finite (!s) r

/-- The place of a finite number among all finite numbers, both zeros at `0`. -/
def place (negative : Bool) (rank : Nat) : Int := if negative then -(rank : Int) else rank

/-- The order of the numbers; false when one of the two is not a number. -/
def lt : Binary64 → Binary64 → Bool
  | .nan, _ => false
  | _, .nan => false
  | .infinite s, .infinite t => s && !t
  | .infinite s, .finite _ _ => s
  | .finite _ _, .infinite t => !t
  | .finite s a, .finite t b => decide (place s a < place t b)

/-- Equality of numbers: both zeros are equal, and what is not a number equals nothing. -/
def eqv : Binary64 → Binary64 → Bool
  | .infinite s, .infinite t => s == t
  | .finite s a, .finite t b => place s a == place t b
  | _, _ => false

def le (x y : Binary64) : Bool := lt x y || eqv x y

/-- The sum, rounded once. -/
def add : Binary64 → Binary64 → Binary64
  | .nan, _ => .nan
  | _, .nan => .nan
  | .infinite s, .infinite t => if s == t then .infinite s else .nan
  | .infinite s, .finite _ _ => .infinite s
  | .finite _ _, .infinite t => .infinite t
  | .finite s a, .finite t b =>
    let x : Int := if s then -(unitsOfRank a : Int) else unitsOfRank a
    let y : Int := if t then -(unitsOfRank b : Int) else unitsOfRank b
    let sum := x + y
    if sum = 0 then ofRank (s && t) 0 else ofUnits (sum < 0) sum.natAbs 1

/-- The product, rounded once. -/
def mul : Binary64 → Binary64 → Binary64
  | .nan, _ => .nan
  | _, .nan => .nan
  | .infinite s, .infinite t => .infinite (s != t)
  | .infinite s, .finite t b => if b.val = 0 then .nan else .infinite (s != t)
  | .finite s a, .infinite t => if a.val = 0 then .nan else .infinite (s != t)
  | .finite s a, .finite t b => ofUnits (s != t) (unitsOfRank a * unitsOfRank b) unit

/-- Whether a finite number is whole. -/
def isWhole (x : Binary64) : Bool :=
  match x.units? with
  | some u => u % unit == 0
  | none => false

/-- A finite number cut off toward zero. -/
def truncate? (x : Binary64) : Option Int := x.units?.map fun u => u.tdiv unit

/-- Whether the number is zero, of either sign. -/
def isZero : Binary64 → Bool
  | .finite _ r => r.val == 0
  | _ => false

/-- Whether the number equals a whole number exactly. -/
def eqvInt (x : Binary64) (n : Int) : Bool :=
  match x.units? with
  | some u => u == n * unit
  | none => false

end Binary64

end PacScript
