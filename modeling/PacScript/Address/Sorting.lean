import PacScript.Address.Parser
import PacScript.Address.Printer

/-!
# Sorting address lists

A list of addresses separated by semicolons is sorted with IPv6 first. Addresses compare by text:
IPv6 in full, IPv4 as a decimal of ten digits, so both orders are numeric. An IPv6 address with a
zone has no such text, and a list that holds one cannot be sorted.
-/

namespace PacScript.Address

open PacScript.Text

/-- What an address is sorted by: its family's rank and a text of fixed width. -/
structure SortKey where
  rank : Nat
  text : List Char
  deriving DecidableEq

/-- The sort key of an address without zone. -/
def sortKey? : Address → Option SortKey
  | .v6 value none => some ⟨0, exploded value⟩
  | .v6 _ (some _) => none
  | .v4 value => some ⟨1, decimalDigits 10 value.toNat⟩

/-- Lexicographic order of texts by code point. -/
def charsLe : List Char → List Char → Bool
  | [], _ => true
  | _ :: _, [] => false
  | a :: as, b :: bs => a.toNat < b.toNat || (a == b && charsLe as bs)

def SortKey.le (k l : SortKey) : Bool :=
  k.rank < l.rank || (k.rank == l.rank && charsLe k.text l.text)

/-- The trimmed entries of a list that are addresses, each with its spelling. -/
def spelled (text : String) : List (Address × List Char) :=
  ((pieces ';' text.toList).map trim).filterMap fun spelling =>
    (parse? (String.ofList spelling)).map fun a => (a, spelling)

/-- The list with only the first spelling of every address. -/
def firstSpellings (entries : List (Address × List Char)) : List (Address × List Char) :=
  entries.foldl (fun kept e => if kept.any (·.1 == e.1) then kept else kept ++ [e]) []

/-- The first spellings of the addresses of a list in sorted order, or nothing when one of them has
a zone. -/
def sortList? (text : String) : Option String := do
  let keyed ← (firstSpellings (spelled text)).mapM fun (a, spelling) =>
    (sortKey? a).map fun k => (k, spelling)
  let sorted := keyed.mergeSort fun x y => x.1.le y.1
  some (String.ofList (List.intercalate [';'] (sorted.map (·.2))))

end PacScript.Address
