import PacScript.Text.PrintableTable
import PacScript.Text.Basic

/-!
# Quoted texts

The form in which a text appears inside a message: between single quotes, or between double quotes
when it holds single quotes only, with what cannot be printed written as an escape.

The codes from `0xd800` to `0xdfff` name halves of surrogate pairs and no characters, but documents
can ask for them. A text holds a half as a character of private use, at a fixed distance from its
code, and it is shown by its code.
-/

namespace PacScript.Text

/-! ## Halves of surrogate pairs -/

/-- Whether a code names half of a surrogate pair. -/
def isHalf (code : Nat) : Bool := 0xd800 ≤ code && code ≤ 0xdfff

/-- The distance between a half and the character that stands for it. -/
def halfDistance : Nat := 0xf0000

/-- The character that stands for a half. -/
def charOfHalf (code : Nat) : Char := Char.ofNat (halfDistance + code)

/-- The half that a character stands for. -/
def half? (c : Char) : Option Nat :=
  let code := c.toNat - halfDistance
  if isHalf code then some code else none

/-- A half is found again in the character that stands for it. -/
theorem half?_charOfHalf {code : Nat} (h : isHalf code = true) :
    half? (charOfHalf code) = some code := by
  simp only [isHalf, Bool.and_eq_true, decide_eq_true_eq] at h
  have valid : (halfDistance + code).isValidChar := by
    simp only [Nat.isValidChar, halfDistance]
    omega
  have same : (charOfHalf code).toNat = halfDistance + code := by
    rw [charOfHalf, Char.ofNat, dif_pos valid]
    rfl
  simp [half?, same, isHalf, h]

/-! ## Quoting -/

def isPrintable (c : Char) : Bool :=
  let n := c.toNat
  if n < 128 then 32 ≤ n && n < 127 else inRanges printableRanges n

/-- The quotation mark that a text is written with. -/
def quoteFor (cs : List Char) : Char :=
  if cs.contains '\'' && !cs.contains '"' then '"' else '\''

/-- One character between quotation marks. -/
def escaped (quote c : Char) : List Char :=
  if c == quote || c == '\\' then ['\\', c]
  else if c == '\n' then ['\\', 'n']
  else if c == '\r' then ['\\', 'r']
  else if c == '\t' then ['\\', 't']
  else if isPrintable c then [c]
  else
    let n := (half? c).getD c.toNat
    if n < 0x100 then '\\' :: 'x' :: hexDigits 2 n
    else if n < 0x10000 then '\\' :: 'u' :: hexDigits 4 n
    else '\\' :: 'U' :: hexDigits 8 n

/-- The quoted form of a text. -/
def quotedChars (cs : List Char) : List Char :=
  let quote := quoteFor cs
  quote :: cs.flatMap (escaped quote) ++ [quote]

/-- The quoted form of a string. -/
def quoted (s : String) : String := String.ofList (quotedChars s.toList)

/-- The quoted form of a row of bytes, in which only ASCII is shown as it is. -/
def quotedBytes (bytes : List UInt8) : String :=
  let cs := bytes.map fun b => Char.ofNat b.toNat
  let quote := quoteFor cs
  let item (c : Char) := if c.toNat < 128 then escaped quote c else
    '\\' :: 'x' :: hexDigits 2 c.toNat
  String.ofList ('b' :: quote :: cs.flatMap item ++ [quote])

end PacScript.Text
