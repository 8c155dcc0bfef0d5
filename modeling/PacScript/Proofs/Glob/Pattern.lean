import PacScript.Proofs.Glob.Matching

/-!
# Regular expressions

The part of the syntax of regular expressions that shell expressions are written in, and what it
means. A backslash goes with the character after it (`signs?`), and the signs are read from left to
right, as the library that compiles them does: an anchor, atoms with or without a `*`, an anchor.
What the reader refuses is malformed or has a meaning that no token has.
-/

namespace PacScript.Glob

/-- One sign of a regular expression. -/
inductive Sign
  | plain (c : Char)
  | escaped (c : Char)
  deriving DecidableEq

/-- What one character is compared with. -/
inductive Atom
  | any
  | char (c : Char)
  | set (negated : Bool) (members : List Member)
  deriving DecidableEq

/-- An atom, for one character or for a run of any length. -/
structure Piece where
  atom : Atom
  starred : Bool
  deriving DecidableEq

/-! ## Reading -/

/-- The signs of a text. A backslash at its end is no sign. -/
def signs? : List Char → Option (List Sign)
  | [] => some []
  | ['\\'] => none
  | '\\' :: c :: rest => (signs? rest).map (Sign.escaped c :: ·)
  | c :: rest => (signs? rest).map (Sign.plain c :: ·)

/-- The character that a sign stands for in a set. An escaped letter or digit has a meaning of its
own. -/
def Sign.char? : Sign → Option Char
  | .plain c => some c
  | .escaped c => if c.isAlphanum then none else some c

/-- The members of a set and what follows it. A `]` ends the set unless it is the first sign. A `-`
after a sign makes a range, which must not run backwards, unless the set ends there. -/
def readMembers? (first : Bool) : List Sign → Option (List Member × List Sign)
  | s :: .plain '-' :: t :: rest =>
    if first = false ∧ s = .plain ']' then some ([], .plain '-' :: t :: rest) else
      s.char?.bind fun c =>
        if t = .plain ']' then some ([.single c, .single '-'], rest) else
          t.char?.bind fun d =>
            if c ≤ d then
              (readMembers? false rest).map fun (ms, after) => (.range c d :: ms, after)
            else none
  | s :: rest =>
    if first = false ∧ s = .plain ']' then some ([], rest) else
      s.char?.bind fun c =>
        (readMembers? false rest).map fun (ms, after) => (.single c :: ms, after)
  | [] => none

/-- A set, from what follows its `[`. -/
def readSet? : List Sign → Option (Atom × List Sign)
  | .plain '^' :: rest => (readMembers? true rest).map fun (ms, after) => (.set true ms, after)
  | rest => (readMembers? true rest).map fun (ms, after) => (.set false ms, after)

/-- The characters that have a meaning of their own outside of sets, besides the point and `[`. -/
def operators : List Char := "^$*+?\x7b|()".toList

/-- An atom and what follows it. -/
def readAtom? : Sign → List Sign → Option (Atom × List Sign)
  | .escaped c, rest => (Sign.escaped c).char?.map fun c => (.char c, rest)
  | .plain c, rest =>
    if c = '.' then some (.any, rest)
    else if c = '[' then readSet? rest
    else if operators.contains c then none
    else some (.char c, rest)

/-- Whether a `*` comes next, and what follows it. -/
def cutStar : List Sign → Bool × List Sign
  | .plain '*' :: rest => (true, rest)
  | rest => (false, rest)

theorem length_of_readMembers? {first : Bool} {ss after : List Sign} {ms : List Member}
    (h : readMembers? first ss = some (ms, after)) : after.length < ss.length := by
  fun_induction readMembers? first ss generalizing ms with
  | case1 =>
    simp only [Option.some.injEq, Prod.mk.injEq] at h
    simp [← h.2]
  | case2 first s t rest _ ih =>
    obtain ⟨c, -, h⟩ := Option.bind_eq_some_iff.1 h
    split at h
    · simp only [Option.some.injEq, Prod.mk.injEq] at h
      simp only [← h.2, List.length_cons]
      omega
    · obtain ⟨d, -, h⟩ := Option.bind_eq_some_iff.1 h
      simp only [Option.ite_none_right_eq_some, Option.map_eq_some_iff, Prod.exists,
        Prod.mk.injEq] at h
      obtain ⟨-, ms', after', hrest, -, rfl⟩ := h
      have := ih hrest
      simp only [List.length_cons]
      omega
  | case3 =>
    simp only [Option.some.injEq, Prod.mk.injEq] at h
    simp [← h.2]
  | case4 first s rest _ _ ih =>
    simp only [Option.bind_eq_some_iff, Option.map_eq_some_iff, Prod.exists, Prod.mk.injEq] at h
    obtain ⟨c, -, ms', after', hrest, -, rfl⟩ := h
    have := ih hrest
    simp only [List.length_cons]
    omega
  | case5 => cases h

theorem length_of_readSet? {ss after : List Sign} {a : Atom} (h : readSet? ss = some (a, after)) :
    after.length < ss.length := by
  unfold readSet? at h
  split at h
  all_goals
    obtain ⟨⟨ms, after'⟩, hms, heq⟩ := Option.map_eq_some_iff.1 h
    obtain ⟨-, rfl⟩ := Prod.mk.inj heq
    have := length_of_readMembers? hms
  · exact Nat.lt_succ_of_lt this
  · exact this

theorem length_of_readAtom? {s : Sign} {rest after : List Sign} {a : Atom}
    (h : readAtom? s rest = some (a, after)) : after.length ≤ rest.length := by
  rcases s with c | c
  · rw [readAtom?] at h
    split at h
    · simp only [Option.some.injEq, Prod.mk.injEq] at h
      simp [h.2]
    · split at h
      · exact Nat.le_of_lt (length_of_readSet? h)
      · simp only [Option.ite_none_left_eq_some, Option.some.injEq, Prod.mk.injEq] at h
        simp [h.2.2]
  · simp only [readAtom?, Option.map_eq_some_iff, Prod.mk.injEq] at h
    obtain ⟨d, -, -, rfl⟩ := h
    exact Nat.le_refl _

theorem length_cutStar_le (ss : List Sign) : (cutStar ss).2.length ≤ ss.length := by
  unfold cutStar
  split <;> simp

/-- Atoms up to the anchor at the end. -/
def readPieces? : List Sign → Option (List Piece)
  | [] => none
  | s :: rest =>
    if s = .escaped 'Z' ∧ rest = [] then some [] else
      match h : readAtom? s rest with
      | none => none
      | some (a, after) =>
        have := length_of_readAtom? h
        have := length_cutStar_le after
        (readPieces? (cutStar after).2).map (⟨a, (cutStar after).1⟩ :: ·)
  termination_by ss => ss.length

/-- A regular expression that is anchored at both ends. -/
def read? (text : List Char) : Option (List Piece) :=
  match signs? text with
  | some (.plain '^' :: rest) => readPieces? rest
  | _ => none

/-! ## Meaning -/

/-- The characters that an atom stands for. The point stands for a line break too. -/
def Atom.Takes : Atom → Char → Prop
  | .any, _ => True
  | .char c, d => d = c
  | .set negated members, d => (∃ m ∈ members, m.Has d) ↔ negated = false

/-- A regular expression accepts a whole text. -/
inductive Accepts : List Piece → List Char → Prop
  | done : Accepts [] []
  | one {a : Atom} {ps : List Piece} {c : Char} {text : List Char} :
    a.Takes c → Accepts ps text → Accepts (⟨a, false⟩ :: ps) (c :: text)
  | star {a : Atom} {ps : List Piece} {text : List Char} (run : List Char) :
    (∀ c ∈ run, a.Takes c) → Accepts ps text → Accepts (⟨a, true⟩ :: ps) (run ++ text)

/-- What a token is in a regular expression. -/
def Token.piece : Token → Piece
  | .anyRun => ⟨.any, true⟩
  | .anyOne => ⟨.any, false⟩
  | .literal c => ⟨.char c, false⟩
  | .set negated members => ⟨.set negated members, false⟩

theorem Token.takes_piece {t : Token} (ht : t ≠ .anyRun) :
    ∃ a : Atom, t.piece = ⟨a, false⟩ ∧ a.Takes = t.Takes := by
  cases t with
  | anyRun => exact absurd rfl ht
  | anyOne => exact ⟨.any, rfl, rfl⟩
  | literal c => exact ⟨.char c, rfl, rfl⟩
  | set negated members => exact ⟨.set negated members, rfl, rfl⟩

theorem accepts_star_iff {a : Atom} {ps : List Piece} {text : List Char} :
    Accepts (⟨a, true⟩ :: ps) text ↔
      ∃ run rest, text = run ++ rest ∧ (∀ c ∈ run, a.Takes c) ∧ Accepts ps rest := by
  constructor
  · intro h
    cases h with
    | star run hrun h => exact ⟨run, _, rfl, hrun, h⟩
  · rintro ⟨run, rest, rfl, hrun, h⟩
    exact .star run hrun h

theorem accepts_one_iff {a : Atom} {ps : List Piece} {text : List Char} :
    Accepts (⟨a, false⟩ :: ps) text ↔
      ∃ c rest, text = c :: rest ∧ a.Takes c ∧ Accepts ps rest := by
  constructor
  · intro h
    cases h with
    | one hc h => exact ⟨_, _, rfl, hc, h⟩
  · rintro ⟨c, rest, rfl, hc, h⟩
    exact .one hc h

theorem accepts_pieces_iff (ts : List Token) (text : List Char) :
    Accepts (ts.map Token.piece) text ↔ Matches ts text := by
  induction ts generalizing text with
  | nil =>
    constructor
    · intro h
      cases h
      exact .done
    · intro h
      cases h
      exact .done
  | cons t ts ih =>
    rw [List.map_cons]
    by_cases ht : t = .anyRun
    · subst ht
      simp only [Token.piece, accepts_star_iff, Atom.Takes, matches_run_iff, ih]
      simp
    · obtain ⟨a, ha, htakes⟩ := Token.takes_piece ht
      simp only [ha, accepts_one_iff, htakes, matches_take_iff ht, ih]

end PacScript.Glob
