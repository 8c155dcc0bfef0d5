import PacScript.Text.CaseTable
import PacScript.Text.Basic

/-!
# Lower and upper case

Full case mapping: a character may become several, and a capital sigma becomes its final form
where a word ends. Letters of ASCII need no table.
-/

namespace PacScript.Text

/-- The target of a code point in a table of runs. -/
def mapByRuns (runs : List (Nat × Nat × Nat × Nat)) (n : Nat) : Option Nat :=
  runs.findSome? fun (first, last, step, target) =>
    if first ≤ n ∧ n ≤ last ∧ (n - first) % step = 0 then some (target + (n - first)) else none

/-- The lower-case form of one character, away from any context. -/
def lowerChar (c : Char) : List Char :=
  let n := c.toNat
  if n < 128 then [c.toLower]
  else if n = 0x130 then ['i', Char.ofNat 0x307]
  else [((mapByRuns lowerRuns n).map Char.ofNat).getD c]

/-- The upper-case form of one character. -/
def upperChar (c : Char) : List Char :=
  let n := c.toNat
  if n < 128 then [c.toUpper]
  else
    match upperExpansions.lookup n with
    | some targets => targets.map Char.ofNat
    | none => [((mapByRuns upperRuns n).map Char.ofNat).getD c]

def isCased (c : Char) : Bool := inRanges casedRanges c.toNat

def isCaseIgnorable (c : Char) : Bool := inRanges caseIgnorableRanges c.toNat

/-- Whether the first character that is not ignorable has letter case. -/
def startsCased (cs : List Char) : Bool :=
  match cs.dropWhile isCaseIgnorable with
  | [] => false
  | c :: _ => isCased c

/-- The lower-case form of what follows; the flag says whether a letter with case stands before. -/
def lowerAfter (afterCased : Bool) : List Char → List Char
  | [] => []
  | c :: rest =>
    let here :=
      if c == 'Σ' then [if afterCased && !startsCased rest then 'ς' else 'σ'] else lowerChar c
    let afterCased := if isCaseIgnorable c then afterCased else isCased c
    here ++ lowerAfter afterCased rest

def lower (cs : List Char) : List Char := lowerAfter false cs

def upper (cs : List Char) : List Char := cs.flatMap upperChar

end PacScript.Text
