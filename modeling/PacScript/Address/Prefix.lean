import PacScript.Address.Parser
import PacScript.Address.Printer
import PacScript.Number.Numeral

/-!
# Address prefixes

A network is the set of addresses that share their leading bits with its base. It is written as an
address and a prefix length; for IPv4 the length may also be given by a mask, whose bits select
either the network part or, turned around, the host part.
-/

namespace PacScript

open PacScript.Text

/-- A network: a base address whose host bits are clear, and the length of the prefix. -/
inductive Network
  | v4 (base : BitVec 32) (length : Nat)
  | v6 (base : BitVec 128) (zone : Option String) (length : Nat)
  deriving DecidableEq

namespace Network

/-- The mask of a prefix length: that many leading ones. -/
def mask (width length : Nat) : BitVec width := BitVec.allOnes width <<< (width - length)

def family : Network → Family
  | .v4 _ _ => .v4
  | .v6 _ _ _ => .v6

/-- Whether an address of the same family shares the network's leading bits. -/
def contains : Network → Address → Bool
  | .v4 base length, .v4 value => value &&& mask 32 length == base
  | .v6 base _ length, .v6 value _ => value &&& mask 128 length == base
  | _, _ => false

/-- The network of an address; clearing bits of the host part drops the zone. -/
def ofAddress (a : Address) (length : Nat) : Network :=
  match a with
  | .v4 value => .v4 (value &&& mask 32 length) length
  | .v6 value zone =>
    let base := value &&& mask 128 length
    .v6 base (if base = value then zone else none) length

/-- A prefix length in decimal, at most the width of the address. -/
def length? (width : Nat) (cs : List Char) : Option Nat :=
  if cs.isEmpty || !cs.all Char.isDigit || cs.length > Numeral.digitLimit then none
  else if ofDigits cs ≤ width then some (ofDigits cs) else none

/-- The prefix length whose mask is the given word. -/
def lengthOfMask? (word : BitVec 32) : Option Nat :=
  (List.range 33).find? fun length => mask 32 length == word

/-- The prefix length of a dotted mask: a network mask, or else a host mask. -/
def lengthOfQuad? (cs : List Char) : Option Nat := do
  let word := BitVec.ofNat 32 (← Address.quad? cs)
  (lengthOfMask? word).orElse fun _ => lengthOfMask? (~~~ word)

/-- An IPv4 network. -/
def v4? (address : List Char) (suffix? : Option (List Char)) : Option Network := do
  let a ← Address.v4? address
  match suffix? with
  | none => some (ofAddress a 32)
  | some suffix =>
    some (ofAddress a (← (length? 32 suffix).orElse fun _ => lengthOfQuad? suffix))

/-- An IPv6 network. -/
def v6? (address : List Char) (suffix? : Option (List Char)) : Option Network := do
  let a ← Address.v6? address
  match suffix? with
  | none => some (ofAddress a 128)
  | some suffix => some (ofAddress a (← length? 128 suffix))

/-- A network of either family. -/
def ofChars? (cs : List Char) : Option Network :=
  let read (address : List Char) (suffix? : Option (List Char)) :=
    (v4? address suffix?).orElse fun _ => v6? address suffix?
  match pieces '/' cs with
  | [address] => read address none
  | [address, suffix] => read address (some suffix)
  | _ => none

/-- The entries between commas and semicolons, trimmed, without the empty ones. -/
def entries (cs : List Char) : List (List Char) :=
  ((piecesBy (fun c => c == ',' || c == ';') cs).map trim).filter fun e => !e.isEmpty

/-- The well-formed networks among the entries of a list; none of them is no list of networks. -/
def parseList? (text : String) : Option (List Network) :=
  match (entries text.toList).filterMap ofChars? with
  | [] => none
  | networks => some networks

def chars : Network → List Char
  | .v4 base length => Address.chars (.v4 base) ++ '/' :: Nat.toDigits 10 length
  | .v6 base zone length => Address.chars (.v6 base zone) ++ '/' :: Nat.toDigits 10 length

/-- The text of a network. -/
def text (n : Network) : String := String.ofList n.chars

/-- Whether some address lies in some network. -/
def anyContains (networks : List Network) (addresses : List Address) : Bool :=
  addresses.any fun a => networks.any fun n => n.contains a

end Network

end PacScript
