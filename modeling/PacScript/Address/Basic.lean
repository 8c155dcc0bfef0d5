/-!
# Internet addresses

Addresses of the two protocol versions. The zone of an IPv6 address names the link it belongs to; it
is part of the address's identity and text, but not of its number.
-/

namespace PacScript

/-- The two versions of the internet protocol. -/
inductive Family
  | v4
  | v6
  deriving DecidableEq

/-- Which addresses are asked for. Of a version that does not exist there are none. -/
inductive FamilyFilter
  | every
  | only (f : Family)
  | nothing
  deriving DecidableEq

/-- An internet address. -/
inductive Address
  | v4 (value : BitVec 32)
  | v6 (value : BitVec 128) (zone : Option String)
  deriving DecidableEq

namespace Family

def number : Family → Nat
  | .v4 => 4
  | .v6 => 6

/-- The width of an address in bits. -/
def width : Family → Nat
  | .v4 => 32
  | .v6 => 128

end Family

/-- The filter for the addresses of one version of the protocol. -/
def FamilyFilter.ofVersion (version : Int) : FamilyFilter :=
  if version = 4 then .only .v4 else if version = 6 then .only .v6 else .nothing

namespace Address

def family : Address → Family
  | .v4 _ => .v4
  | .v6 _ _ => .v6

/-- The number of the address. -/
def toNat : Address → Nat
  | .v4 value => value.toNat
  | .v6 value _ => value.toNat

def hasZone : Address → Bool
  | .v6 _ (some _) => true
  | _ => false

/-- Whether this is the address that stands for none. -/
def isUnspecified (a : Address) : Bool := a.toNat == 0

/-- The rank of an address by its family; that of the preferred family is lower. -/
def familyRank (preferV6 : Bool) (a : Address) : Nat :=
  if preferV6 then if a.family == .v6 then 0 else 1 else if a.family == .v4 then 0 else 1

/-- The preferred family first, the order inside each family kept. -/
def orderByFamily (preferV6 : Bool) (addresses : List Address) : List Address :=
  addresses.mergeSort fun a b => decide (familyRank preferV6 a ≤ familyRank preferV6 b)

/-- The addresses that are asked for. -/
def select (filter : FamilyFilter) (addresses : List Address) : List Address :=
  match filter with
  | .every => addresses
  | .only f => addresses.filter (·.family == f)
  | .nothing => []

/-- The list without repetitions, each address at its first place. -/
def dedup (addresses : List Address) : List Address :=
  addresses.foldl (fun found a => if found.contains a then found else found ++ [a]) []

end Address

end PacScript
