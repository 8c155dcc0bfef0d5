import PacScript.Number.Binary64
import PacScript.Text.Basic

/-!
# Shortest decimal text of a number

A number is written with the fewest significant digits that read back as the same number, and with
the nearest of those. The decimal point is written out as long as the number lies between
`10 ^ (-4)` and `10 ^ 16`; beyond, an exponent of at least two digits follows.
-/

namespace PacScript.Binary64

/-- Significant digits and the place of the decimal point: `0.d₁d₂… * 10 ^ point`. -/
structure Decimal where
  digits : List Char
  point : Int

/-- How many decimal digits a number has. -/
def digitCount (n : Nat) : Nat := (Nat.toDigits 10 n).length

/-- The place of the decimal point of a number of `units` units. -/
def pointOf (units : Nat) : Int := (digitCount (units * Nat.pow 10 324 / unit) : Int) - 324

/-- The rank nearest to `digits * 10 ^ exponent`. -/
def rankOfDecimal (digits : Nat) (exponent : Int) : Nat :=
  if 0 ≤ exponent then nearestRank (digits * Nat.pow 10 exponent.toNat * unit) 1
  else nearestRank (digits * unit) (Nat.pow 10 (-exponent).toNat)

/-- The decimal of a whole number of `10 ^ exponent`, without the zeros at its end. -/
def Decimal.ofCount (exponent : Int) (count : Nat) : Decimal :=
  let digits := Nat.toDigits 10 count
  { digits := (digits.reverse.dropWhile (· == '0')).reverse,
    point := exponent + digits.length }

/-- Of the two whole numbers around `num / den` the one that reads back, and of two such the nearer
one. -/
def nearestReading? (reads : Nat → Bool) (num den : Nat) : Option Nat :=
  let below := num / den
  let upperNearer := 2 * (num % den) > den || (2 * (num % den) == den && below % 2 == 1)
  match reads below, reads (below + 1) with
  | true, true => some (if upperNearer then below + 1 else below)
  | true, false => some below
  | false, true => some (below + 1)
  | false, false => none

/-- The decimal of a given number of digits that is nearest to the number among the two around it
and reads back as the same rank. -/
def decimalOfLength? (rank : Nat) (length : Nat) : Option Decimal :=
  let units := unitsOfRank rank
  let exponent := pointOf units - length
  let reads (d : Nat) : Bool := rankOfDecimal d exponent == rank
  let count :=
    if 0 ≤ exponent then nearestReading? reads units (unit * Nat.pow 10 exponent.toNat)
    else nearestReading? reads (units * Nat.pow 10 (-exponent).toNat) unit
  count.map (Decimal.ofCount exponent)

/-- The shortest decimal that reads back; seventeen digits always do. -/
def shortestDecimal (rank : Nat) : Decimal :=
  if rank = 0 then ⟨['0'], 1⟩
  else ((List.range 17).findSome? fun i => decimalOfLength? rank (i + 1)).getD ⟨['0'], 1⟩

/-- A decimal with its point written out, or with an exponent. -/
def Decimal.render (d : Decimal) : List Char :=
  if -4 < d.point ∧ d.point ≤ 16 then
    if d.point ≤ 0 then '0' :: '.' :: List.replicate (-d.point).toNat '0' ++ d.digits
    else
      let whole := d.digits.take d.point.toNat
      let fraction := d.digits.drop d.point.toNat
      whole ++ List.replicate (d.point.toNat - whole.length) '0' ++ '.' ::
        (if fraction.isEmpty then ['0'] else fraction)
  else
    let exponent := d.point - 1
    let mantissa :=
      match d.digits with
      | [] => ['0']
      | [c] => [c]
      | c :: rest => c :: '.' :: rest
    mantissa ++ 'e' :: (if exponent < 0 then '-' else '+') ::
      Text.decimalDigits 2 exponent.natAbs

/-- The text of a number. -/
def chars : Binary64 → List Char
  | .nan => "nan".toList
  | .infinite negative => (if negative then "-inf" else "inf").toList
  | .finite negative rank =>
    (if negative then ['-'] else []) ++ (shortestDecimal rank).render

def text (x : Binary64) : String := String.ofList x.chars

end PacScript.Binary64
