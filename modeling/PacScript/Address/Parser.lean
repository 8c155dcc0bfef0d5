import PacScript.Address.Basic
import PacScript.Text.Basic

/-!
# Reading addresses

The grammars of the two address texts. An IPv6 text is eight groups, or fewer around one `::`; its
last two groups may be a dotted quad, and a zone may follow after `%`. `Address.parse?` accepts an
address with white space around it and brackets at both ends.
-/

namespace PacScript.Address

open PacScript.Text

/-- One byte of a dotted quad: up to three digits, without leading zeros. -/
def octet? (cs : List Char) : Option Nat :=
  if cs.isEmpty || !cs.all Char.isDigit || cs.length > 3 then none
  else if cs.length > 1 && cs.head? == some '0' then none
  else if ofDigits cs > 255 then none
  else some (ofDigits cs)

/-- The number of a dotted quad. -/
def quad? (cs : List Char) : Option Nat :=
  match pieces '.' cs with
  | [a, b, c, d] => do
    some ((((← octet? a) * 256 + (← octet? b)) * 256 + (← octet? c)) * 256 + (← octet? d))
  | _ => none

/-- One group of an IPv6 text: up to four hexadecimal digits. -/
def group? (cs : List Char) : Option Nat :=
  if cs.isEmpty || !cs.all isHexDigit || cs.length > 4 then none else some (ofHexDigits cs)

/-- Groups between single colons; a dotted quad may take the place of the last two. -/
def groupsOf? (mayEndInQuad : Bool) : List (List Char) → Option (List Nat)
  | [] => some []
  | [last] =>
    if mayEndInQuad && last.contains '.' then (quad? last).map fun v => [v / 65536, v % 65536]
    else (group? last).map fun g => [g]
  | g :: rest => do some ((← group? g) :: (← groupsOf? mayEndInQuad rest))

/-- Groups between single colons, or nothing at all. -/
def groupRun? (mayEndInQuad : Bool) (cs : List Char) : Option (List Nat) :=
  if cs.isEmpty then some [] else groupsOf? mayEndInQuad (pieces ':' cs)

/-- What stands before and after the first double colon. -/
def cutDouble? : List Char → Option (List Char × List Char)
  | [] => none
  | [_] => none
  | a :: b :: rest =>
    if a == ':' && b == ':' then some ([], rest)
    else (cutDouble? (b :: rest)).map fun (before, after) => (a :: before, after)

/-- The number whose groups are given, highest first. -/
def ofGroups (gs : List Nat) : Nat := gs.foldl (fun n g => n * 65536 + g) 0

/-- The number of an IPv6 text without zone. -/
def v6Value? (cs : List Char) : Option Nat :=
  match cutDouble? cs with
  | none => do
    let gs ← groupRun? true cs
    if gs.length = 8 then some (ofGroups gs) else none
  | some (before, after) => do
    let high ← groupRun? false before
    let low ← groupRun? true after
    if high.length + low.length < 8 then
      some (ofGroups (high ++ List.replicate (8 - (high.length + low.length)) 0 ++ low))
    else none

/-- An IPv4 address. -/
def v4? (cs : List Char) : Option Address := (quad? cs).map fun v => .v4 (BitVec.ofNat 32 v)

/-- An IPv6 address, with or without zone. -/
def v6? (cs : List Char) : Option Address :=
  if cs.contains '/' then none
  else
    match cut? '%' cs with
    | none => (v6Value? cs).map fun v => .v6 (BitVec.ofNat 128 v) none
    | some (number, zone) =>
      if zone.isEmpty || zone.contains '%' then none
      else (v6Value? number).map fun v => .v6 (BitVec.ofNat 128 v) (some (String.ofList zone))

/-- An address of either family, with nothing around it. -/
def ofChars? (cs : List Char) : Option Address := (v4? cs).orElse fun _ => v6? cs

/-- The text between brackets that stand at both ends, or the text itself. -/
def dropBrackets (cs : List Char) : List Char :=
  if cs.head? == some '[' && cs.getLast? == some ']' then (cs.drop 1).dropLast else cs

/-- An address that may have white space around it and brackets at both ends. -/
def parse? (text : String) : Option Address := ofChars? (dropBrackets (trim text.toList))

end PacScript.Address
