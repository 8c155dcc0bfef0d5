import PacScript.Number.Binary64
import PacScript.Text.Basic

/-!
# Reading numerals

Whole and floating-point numbers as people and scripts write them: white space around, a sign, the
decimal digits of any script, and single underscores between digits. A whole number in decimal has
at most `digitLimit` digits.

Every script has its ten digits in a row, so the code points of its zeros are all there is to know.
-/

namespace PacScript.Text

/-- The zeros of all scripts (Unicode 14). -/
def decimalZeros : List Nat :=
  [0x30, 0x660, 0x6f0, 0x7c0, 0x966, 0x9e6, 0xa66, 0xae6, 0xb66, 0xbe6, 0xc66, 0xce6, 0xd66,
   0xde6, 0xe50, 0xed0, 0xf20, 0x1040, 0x1090, 0x17e0, 0x1810, 0x1946, 0x19d0, 0x1a80, 0x1a90,
   0x1b50, 0x1bb0, 0x1c40, 0x1c50, 0xa620, 0xa8d0, 0xa900, 0xa9d0, 0xa9f0, 0xaa50, 0xabf0,
   0xff10, 0x104a0, 0x10d30, 0x11066, 0x110f0, 0x11136, 0x111d0, 0x112f0, 0x11450, 0x114d0,
   0x11650, 0x116c0, 0x11730, 0x118e0, 0x11950, 0x11c50, 0x11d50, 0x11da0, 0x16a60, 0x16ac0,
   0x16b50, 0x1d7ce, 0x1d7d8, 0x1d7e2, 0x1d7ec, 0x1d7f6, 0x1e140, 0x1e2f0, 0x1e950, 0x1fbf0]

/-- The value of a decimal digit of any script. -/
def digitValue? (c : Char) : Option Nat :=
  if c.isDigit then some (c.toNat - 48)
  else if c.toNat < 128 then none
  else (decimalZeros.find? fun z => z ≤ c.toNat && c.toNat < z + 10).map (c.toNat - ·)

/-- The character with a decimal digit of any script replaced by the ASCII digit of its value. -/
def asciiDigit (c : Char) : Char :=
  match digitValue? c with
  | some v => Char.ofNat (48 + v)
  | none => c

end PacScript.Text

namespace PacScript.Numeral

open PacScript.Text

/-- The largest number of decimal digits of a whole number that is read or written. -/
def digitLimit : Nat := 4300

/-- White space around numerals; the four ASCII separators are not part of it. -/
def isNumeralBlank (c : Char) : Bool := isBlank c && !(0x1c ≤ c.toNat && c.toNat ≤ 0x1f)

/-- The text without underscores, unless one of them does not stand between two digits. -/
def joinDigits? : (afterDigit : Bool) → List Char → Option (List Char)
  | _, [] => some []
  | afterDigit, c :: rest =>
    if c == '_' then
      match rest with
      | [] => none
      | d :: _ => if afterDigit && d.isDigit then joinDigits? false rest else none
    else (joinDigits? c.isDigit rest).map (c :: ·)

/-- A sign and what follows it. -/
def signed : List Char → Bool × List Char
  | '-' :: rest => (true, rest)
  | '+' :: rest => (false, rest)
  | rest => (false, rest)

/-- The value of a digit in bases up to thirty-six. -/
def baseDigit? (base : Nat) (c : Char) : Option Nat :=
  let v :=
    if c.isDigit then some (c.toNat - 48)
    else if 'a' ≤ c && c ≤ 'z' then some (c.toNat - 87)
    else if 'A' ≤ c && c ≤ 'Z' then some (c.toNat - 55)
    else none
  v.filter (· < base)

/-- The marks that may open a number of a base, as in `0x`. -/
def baseMarks : Nat → List Char
  | 2 => ['b', 'B']
  | 8 => ['o', 'O']
  | 16 => ['x', 'X']
  | _ => []

/-- The digits after a mark such as `0x` of the base; one underscore may follow the mark. -/
def dropMark (base : Nat) : List Char → List Char
  | '0' :: mark :: rest =>
    if (baseMarks base).contains mark then
      match rest with
      | '_' :: more => more
      | _ => rest
    else '0' :: mark :: rest
  | cs => cs

/-- Digits of a base with single underscores between them. -/
def readDigits? (base : Nat) : (afterDigit : Bool) → (count value : Nat) → List Char →
    Option (Nat × Nat)
  | afterDigit, count, value, [] => if afterDigit then some (count, value) else none
  | afterDigit, count, value, c :: rest =>
    if c == '_' then if afterDigit then readDigits? base false count value rest else none
    else
      match baseDigit? base c with
      | some d => readDigits? base true (count + 1) (value * base + d) rest
      | none => none

/-- A whole number written in a base. -/
def readInt? (base : Nat) (cs : List Char) : Option Int :=
  let (negative, rest) := signed ((trimBy isNumeralBlank cs).map asciiDigit)
  match readDigits? base false 0 0 (dropMark base rest) with
  | none => none
  | some (count, value) =>
    if base == 10 && count > digitLimit then none
    else some (if negative then -(value : Int) else value)

/-- The exponent of a decimal number: none, or a mark, a sign and digits up to the end. -/
def readExponent? : List Char → Option Int
  | [] => some 0
  | e :: rest =>
    if e == 'e' || e == 'E' then
      let (negative, digits) := signed rest
      if digits.isEmpty || !digits.all Char.isDigit then none
      else some (if negative then -(ofDigits digits : Int) else ofDigits digits)
    else none

/-- A decimal number without sign: digits, a point and an exponent, of which some may be missing. -/
def readDecimal? (negative : Bool) (cs : List Char) : Option Binary64 :=
  let whole := cs.takeWhile Char.isDigit
  let rest := cs.dropWhile Char.isDigit
  let (fraction, rest) :=
    match rest with
    | '.' :: more => (more.takeWhile Char.isDigit, more.dropWhile Char.isDigit)
    | _ => ([], rest)
  if whole.isEmpty && fraction.isEmpty then none
  else (readExponent? rest).map fun e =>
    Binary64.ofDecimal negative (ofDigits (whole ++ fraction)) (e - fraction.length)

/-- A floating-point number: a decimal number, an infinity, or what is not a number. -/
def readFloat? (cs : List Char) : Option Binary64 :=
  match joinDigits? false ((trimBy isNumeralBlank cs).map asciiDigit) with
  | none => none
  | some cs =>
    let (negative, rest) := signed cs
    let name := rest.map Char.toLower
    if name == "inf".toList || name == "infinity".toList then some (.infinite negative)
    else if name == "nan".toList then some .nan
    else readDecimal? negative rest

end PacScript.Numeral
