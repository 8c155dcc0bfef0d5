import PacScript.Glob.Basic

/-!
# Matching shell expressions

An expression matches a text when its tokens match the whole of it. The matcher works from the last
token to the first and keeps, for every suffix of the text, whether the tokens so far match it; its
work is bounded by the product of the two lengths.
-/

namespace PacScript.Glob

/-- Whether a token other than `*` accepts a character. -/
def Token.accepts : Token → Char → Bool
  | .anyRun, _ => true
  | .anyOne, _ => true
  | .literal c, d => c == d
  | .set negated members, d => members.any (·.contains d) != negated

/-- For every suffix, whether it has a suffix that is marked. -/
def marksBefore : List Bool → List Bool
  | [] => []
  | b :: rest =>
    let later := marksBefore rest
    (b || later.head?.getD false) :: later

/-- For every suffix of the text, whether it matches a token followed by what the given marks
describe. -/
def Token.marks (t : Token) (text : List Char) (after : List Bool) : List Bool :=
  match t with
  | .anyRun => marksBefore after
  | t => text.zipWith (fun c b => t.accepts c && b) after.tail ++ [false]

/-- For every suffix of the text, the longest first, whether the tokens match it. -/
def marks (text : List Char) (ts : List Token) : List Bool :=
  ts.foldr (fun t after => t.marks text after) (text.map (fun _ => false) ++ [true])

/-- Whether the tokens match the whole text. -/
def matchesAll (ts : List Token) (text : List Char) : Bool := (marks text ts).head?.getD false

/-- Whether a shell expression, trimmed, matches the whole text. -/
def isMatch (text expression : String) : Bool :=
  matchesAll (tokens (Text.trim expression.toList)) text.toList

end PacScript.Glob
