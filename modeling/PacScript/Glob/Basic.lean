import PacScript.Text.Basic

/-!
# Shell expressions

A shell expression is read from left to right into tokens: `*` stands for any run of characters, `?`
for one character, a bracket for one character of a set, and everything else for itself. A bracket
ends at the first `]` that leaves room for at least one character; when what it holds is no set, the
bracket stands for its own text.
-/

namespace PacScript.Glob

/-- One item of a set: a character or an inclusive range. -/
inductive Member
  | single (c : Char)
  | range (low high : Char)
  deriving DecidableEq

/-- One token of a shell expression. -/
inductive Token
  | anyRun
  | anyOne
  | literal (c : Char)
  | set (negated : Bool) (members : List Member)
  deriving DecidableEq

namespace Member

def contains : Member → Char → Bool
  | .single c, d => c == d
  | .range low high, d => low ≤ d && d ≤ high

/-- Whether the ends of a range stand in order. -/
def inOrder : Member → Bool
  | .single _ => true
  | .range low high => low ≤ high

end Member

/-- The items of a set. A `-` between two characters makes a range; first, last or right after a
range it stands for itself. -/
def members : List Char → List Member
  | c :: '-' :: d :: rest => .range c d :: members rest
  | c :: rest => .single c :: members rest
  | [] => []

/-- The tokens of a bracket, given what stands between `[` and `]`. -/
def bracket (body : List Char) : List Token :=
  let literal := ('[' :: body ++ [']']).map Token.literal
  let (negated, items) :=
    match body with
    | '!' :: rest => (true, rest)
    | '^' :: rest => (true, rest)
    | _ => (false, body)
  let ms := members items
  if ms.isEmpty || !ms.all Member.inOrder then literal else [.set negated ms]

/-- What stands between a `[` and the first `]` after at least one character, and the rest. -/
def cutBracket? : List Char → Option (List Char × List Char)
  | [] => none
  | c :: rest => (Text.cut? ']' rest).map fun (body, after) => (c :: body, after)

theorem length_of_cutBracket? {cs body after : List Char}
    (h : cutBracket? cs = some (body, after)) : after.length < cs.length := by
  rcases cs with _ | ⟨c, rest⟩
  · simp [cutBracket?] at h
  · simp only [cutBracket?, Option.map_eq_some_iff] at h
    obtain ⟨⟨b, a⟩, hb, h⟩ := h
    simp only [Prod.mk.injEq] at h
    have := Text.length_of_cut? hb
    obtain ⟨-, rfl⟩ := h
    simp only [List.length_cons]
    omega

/-- The tokens of a shell expression. -/
def tokens : List Char → List Token
  | [] => []
  | c :: rest =>
    if c == '*' then .anyRun :: tokens rest
    else if c == '?' then .anyOne :: tokens rest
    else if c == '[' then
      match h : cutBracket? rest with
      | none => .literal c :: tokens rest
      | some (body, after) =>
        have := length_of_cutBracket? h
        bracket body ++ tokens after
    else .literal c :: tokens rest
  termination_by cs => cs.length

end PacScript.Glob
