/-!
# Base 64

Bytes written with sixty-four characters. Characters of no meaning are passed over, and everything
after a complete padding is ignored.
-/

namespace PacScript.Yaml.Base64

/-- The six bits of a character. -/
def sextet? (c : Char) : Option Nat :=
  if 'A' ≤ c && c ≤ 'Z' then some (c.toNat - 65)
  else if 'a' ≤ c && c ≤ 'z' then some (c.toNat - 71)
  else if c.isDigit then some (c.toNat + 4)
  else if c == '+' then some 62
  else if c == '/' then some 63
  else none

/-- The bytes of the rest of a text, given how many characters of the current group of four have
been read, what bits are left of them, and how many paddings follow. -/
def bytes? : (filled left pads : Nat) → List Char → Option (List UInt8)
  | filled, _, _, [] => if filled = 0 then some [] else none
  | filled, left, pads, c :: rest =>
    if c == '=' then
      if 2 ≤ filled && 4 ≤ filled + pads + 1 then some []
      else bytes? filled left (if 2 ≤ filled then pads + 1 else pads) rest
    else
      match sextet? c with
      | none => bytes? filled left pads rest
      | some v =>
        match filled with
        | 0 => bytes? 1 v 0 rest
        | 1 => (bytes? 2 (v % 16) 0 rest).map (UInt8.ofNat (left * 4 + v / 16) :: ·)
        | 2 => (bytes? 3 (v % 4) 0 rest).map (UInt8.ofNat (left * 16 + v / 4) :: ·)
        | _ => (bytes? 0 0 0 rest).map (UInt8.ofNat (left * 64 + v) :: ·)

/-- The bytes of a text. -/
def decode? (cs : List Char) : Option (List UInt8) := bytes? 0 0 0 cs

end PacScript.Yaml.Base64
