import PacScript.Address.Basic
import PacScript.Text.Basic

/-!
# Address texts

IPv4 addresses are written as a dotted quad. IPv6 addresses are written as eight groups of
hexadecimal digits, the longest run of at least two zero groups left out (`Address.text`), or in
full (`Address.exploded`).
-/

namespace PacScript.Address

open PacScript.Text

/-- The four bytes of a dotted quad, highest first. -/
def octets (value : Nat) : List Nat := [24, 16, 8, 0].map fun shift => value >>> shift % 256

/-- The eight groups of an IPv6 number, highest first. -/
def groups (value : Nat) : List Nat :=
  [112, 96, 80, 64, 48, 32, 16, 0].map fun shift => value >>> shift % 65536

def quadChars (value : Nat) : List Char :=
  List.intercalate ['.'] ((octets value).map (Nat.toDigits 10))

/-- The number of zeros at the front. -/
def leadingZeros (gs : List Nat) : Nat := (gs.takeWhile (· == 0)).length

/-- Start and length of the first longest run of zeros. -/
def longestZeroRun : (start : Nat) → List Nat → Nat × Nat
  | start, [] => (start, 0)
  | start, g :: rest =>
    let here := leadingZeros (g :: rest)
    let later := longestZeroRun (start + 1) rest
    if later.2 ≤ here then (start, here) else later

def groupChars (gs : List Nat) : List Char := List.intercalate [':'] (gs.map (Nat.toDigits 16))

/-- Eight groups, with `::` for the first longest run of two or more zero groups. -/
def compressed (gs : List Nat) : List Char :=
  let (start, length) := longestZeroRun 0 gs
  if length ≤ 1 then groupChars gs
  else groupChars (gs.take start) ++ ':' :: ':' :: groupChars (gs.drop (start + length))

def zoneChars : Option String → List Char
  | none => []
  | some zone => '%' :: zone.toList

def chars : Address → List Char
  | .v4 value => quadChars value.toNat
  | .v6 value zone => compressed (groups value.toNat) ++ zoneChars zone

/-- The text of an address. -/
def text (a : Address) : String := String.ofList a.chars

/-- All eight groups of an IPv6 number with all their digits. -/
def exploded (value : BitVec 128) : List Char :=
  List.intercalate [':'] ((groups value.toNat).map (hexDigits 4))

/-- The texts of addresses, separated by semicolons. -/
def join (addresses : List Address) : String := ";".intercalate (addresses.map text)

end PacScript.Address
