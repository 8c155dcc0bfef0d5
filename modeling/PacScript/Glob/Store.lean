import PacScript.Glob.Matching
import PacScript.Glob.Regex

/-!
# Store of compiled expressions

A bounded store of expressions with their tokens, ordered from the least to the most recently used
one. Using an expression puts it last; when there are too many, the first ones go. Expressions are
told apart as they are written, before trimming.
-/

namespace PacScript.Glob

/-- A store with room for a positive number of expressions. -/
structure Store where
  capacity : Nat
  entries : List (String × List Token)
  capacity_pos : 0 < capacity

namespace Store

/-- The empty store of a given capacity, which must be positive. -/
def ofCapacity? (capacity : Int) : Option Store :=
  if h : 0 < capacity.toNat then some ⟨capacity.toNat, [], h⟩ else none

/-- The expressions, the least recently used first. -/
def keys (s : Store) : List String := s.entries.map (·.1)

def get? (s : Store) (expression : String) : Option (List Token) := s.entries.lookup expression

/-- The tokens of a trimmed expression. -/
def compile (expression : String) : List Token := tokens (Text.trim expression.toList)

/-- The store with an expression as the most recently used one. -/
def touch (s : Store) (expression : String) (ts : List Token) : Store :=
  let others := s.entries.filter fun e => e.1 != expression
  let entries := others ++ [(expression, ts)]
  { s with entries := entries.drop (entries.length - s.capacity) }

/-- The tokens of an expression, and the store after its use. -/
def use (s : Store) (expression : String) : List Token × Store :=
  let ts := (s.get? expression).getD (compile expression)
  (ts, s.touch expression ts)

/-- Whether an expression matches a text, and the store after its use. -/
def matches? (s : Store) (text expression : String) : Bool × Store :=
  let (ts, s) := s.use expression
  (matchesAll ts text.toList, s)

end Store

end PacScript.Glob
