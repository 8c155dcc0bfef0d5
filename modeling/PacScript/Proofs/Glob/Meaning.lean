import PacScript.Proofs.Glob.Matching
import PacScript.Proofs.Text.Pieces

/-!
# What a shell expression means

`Covers` says which texts a shell expression stands for, character by character and without tokens:
this is the meaning that scripts rely on. Reading an expression into tokens and matching these comes
to the same (`matchesAll_tokens_iff`).
-/

namespace PacScript.Glob

open PacScript.Text

/-- The items of a set from left to right: a `-` with a character on either side makes a range of
the two, and what is left stands for itself. -/
inductive Items : List Char → List Member → Prop
  | nil : Items [] []
  | range {rest : List Char} {ms : List Member} (low high : Char) :
    Items rest ms → Items (low :: '-' :: high :: rest) (.range low high :: ms)
  | single {rest : List Char} {ms : List Member} (c : Char) :
    (∀ d more, rest ≠ '-' :: d :: more) → Items rest ms → Items (c :: rest) (.single c :: ms)

/-- The body of a bracket with its first `!` or `^`, if it has one, taken off as a negation. -/
inductive Opens : List Char → Bool → List Char → Prop
  | bang (items : List Char) : Opens ('!' :: items) true items
  | caret (items : List Char) : Opens ('^' :: items) true items
  | plain {c : Char} (rest : List Char) : c ≠ '!' → c ≠ '^' → Opens (c :: rest) false (c :: rest)

/-- A range whose ends stand in the wrong order. -/
def Member.Backwards : Member → Prop
  | .single _ => False
  | .range low high => high < low

/-- Items that are no set: there are none, or a range runs backwards. -/
def Faulty (ms : List Member) : Prop := ms = [] ∨ ∃ m ∈ ms, m.Backwards

/-- A shell expression covers a text. -/
inductive Covers : List Char → List Char → Prop
  | done : Covers [] []
  | run {e text : List Char} (skipped : List Char) :
    Covers e text → Covers ('*' :: e) (skipped ++ text)
  | one {e text : List Char} (d : Char) : Covers e text → Covers ('?' :: e) (d :: text)
  /-- A bracket ends at the first `]` after at least one character. -/
  | set {e text inner items : List Char} {c d : Char} {negated : Bool} {ms : List Member} :
    ']' ∉ inner → Opens (c :: inner) negated items → Items items ms → ¬ Faulty ms →
    ((∃ m ∈ ms, m.Has d) ↔ negated = false) → Covers e text →
    Covers ('[' :: c :: inner ++ ']' :: e) (d :: text)
  /-- A bracket that holds no set stands for itself. -/
  | noSet {e text inner items : List Char} {c : Char} {negated : Bool} {ms : List Member} :
    ']' ∉ inner → Opens (c :: inner) negated items → Items items ms → Faulty ms → Covers e text →
    Covers ('[' :: c :: inner ++ ']' :: e) ('[' :: c :: inner ++ ']' :: text)
  | unclosed {e text : List Char} : ']' ∉ e.tail → Covers e text → Covers ('[' :: e) ('[' :: text)
  | itself {e text : List Char} {c : Char} :
    c ≠ '*' → c ≠ '?' → c ≠ '[' → Covers e text → Covers (c :: e) (c :: text)

theorem items_iff {cs : List Char} {ms : List Member} : Items cs ms ↔ members cs = ms := by
  constructor
  · intro h
    induction h with
    | nil => rfl
    | range low high _ ih => rw [members, ih]
    | single c hc _ ih => rw [members.eq_2 _ _ hc, ih]
  · rintro rfl
    fun_induction members cs with
    | case1 low high rest ih => exact .range low high ih
    | case2 c rest hc ih => exact .single c (fun d more h => hc d more h) ih
    | case3 => exact .nil

theorem exists_opens (c : Char) (inner : List Char) :
    ∃ negated items, Opens (c :: inner) negated items := by
  by_cases hb : c = '!'
  · exact hb ▸ ⟨_, _, .bang inner⟩
  · by_cases hc : c = '^'
    · exact hc ▸ ⟨_, _, .caret inner⟩
    · exact ⟨_, _, .plain inner hb hc⟩

theorem Member.not_inOrder_iff (m : Member) : ¬ m.inOrder = true ↔ m.Backwards := by
  cases m <;> simp [Member.inOrder, Member.Backwards]

theorem faulty_iff (ms : List Member) :
    (ms.isEmpty || !ms.all Member.inOrder) = true ↔ Faulty ms := by
  simp only [Faulty, ← Member.not_inOrder_iff]
  simp

theorem bracket_of_opens {body items : List Char} {negated : Bool} {ms : List Member}
    (ho : Opens body negated items) (hi : Items items ms) :
    bracket body = if ms.isEmpty || !ms.all Member.inOrder then
      ('[' :: body ++ [']']).map Token.literal else [.set negated ms] := by
  rw [items_iff] at hi
  subst hi
  cases ho with
  | bang => rfl
  | caret => rfl
  | plain rest hb hc =>
    unfold bracket
    split
    rename_i heq
    split at heq
    · rename_i h
      exact absurd (List.cons.inj h).1 hb
    · rename_i h
      exact absurd (List.cons.inj h).1 hc
    · cases heq
      rfl

theorem bracket_set {body items : List Char} {negated : Bool} {ms : List Member}
    (ho : Opens body negated items) (hi : Items items ms) (hs : ¬ Faulty ms) :
    bracket body = [.set negated ms] := by
  rw [bracket_of_opens ho hi, if_neg]
  rwa [faulty_iff]

theorem bracket_noSet {body items : List Char} {negated : Bool} {ms : List Member}
    (ho : Opens body negated items) (hi : Items items ms) (hs : Faulty ms) :
    bracket body = ('[' :: body ++ [']']).map Token.literal := by
  rw [bracket_of_opens ho hi, if_pos]
  rwa [faulty_iff]

/-! ## The tokens of an expression -/

theorem tokens_run (e : List Char) : tokens ('*' :: e) = .anyRun :: tokens e := by
  rw [tokens]
  rfl

theorem tokens_one (e : List Char) : tokens ('?' :: e) = .anyOne :: tokens e := by
  rw [tokens]
  rfl

theorem tokens_itself {c : Char} (hs : c ≠ '*') (hq : c ≠ '?') (hb : c ≠ '[') (e : List Char) :
    tokens (c :: e) = .literal c :: tokens e := by
  rw [tokens]
  simp [hs, hq, hb]

theorem cutBracket?_eq_some_iff {e body after : List Char} :
    cutBracket? e = some (body, after) ↔
      ∃ c inner, body = c :: inner ∧ e = c :: inner ++ ']' :: after ∧ ']' ∉ inner := by
  rcases e with _ | ⟨c, e⟩
  · simp [cutBracket?]
  · simp only [cutBracket?, Option.map_eq_some_iff, Prod.exists, Prod.mk.injEq]
    constructor
    · rintro ⟨inner, rest, hcut, rfl, rfl⟩
      obtain ⟨rfl, hin⟩ := cut?_eq_some_iff.1 hcut
      exact ⟨c, inner, rfl, rfl, hin⟩
    · rintro ⟨d, inner, rfl, hcons, hin⟩
      obtain ⟨rfl, rfl⟩ := List.cons.inj hcons
      exact ⟨inner, after, cut?_eq_some_iff.2 ⟨rfl, hin⟩, rfl, rfl⟩

theorem cutBracket?_eq_none_iff {e : List Char} : cutBracket? e = none ↔ ']' ∉ e.tail := by
  rcases e with _ | ⟨c, e⟩
  · simp [cutBracket?]
  · simp [cutBracket?, cut?_eq_none_iff]

theorem tokens_bracket {c : Char} {inner : List Char} (h : ']' ∉ inner) (e : List Char) :
    tokens ('[' :: c :: inner ++ ']' :: e) = bracket (c :: inner) ++ tokens e := by
  have hcut : cutBracket? (c :: inner ++ ']' :: e) = some (c :: inner, e) :=
    cutBracket?_eq_some_iff.2 ⟨c, inner, rfl, rfl, h⟩
  rw [List.cons_append, tokens]
  simp only [Char.reduceBEq, Bool.false_eq_true, ↓reduceIte]
  split
  · rename_i hn
    rw [hcut] at hn
    cases hn
  · rename_i hs
    rw [hcut] at hs
    cases hs
    rfl

theorem tokens_unclosed {e : List Char} (h : ']' ∉ e.tail) :
    tokens ('[' :: e) = .literal '[' :: tokens e := by
  rw [tokens]
  simp only [Char.reduceBEq, Bool.false_eq_true, ↓reduceIte]
  split
  · rfl
  · rename_i hs
    rw [cutBracket?_eq_none_iff.2 h] at hs
    cases hs

theorem matches_literals {ts : List Token} {cs text : List Char} :
    Matches (cs.map .literal ++ ts) text ↔ ∃ rest, text = cs ++ rest ∧ Matches ts rest := by
  induction cs generalizing text with
  | nil => simp
  | cons c cs ih =>
    rw [List.map_cons, List.cons_append, matches_take_iff (by simp)]
    constructor
    · rintro ⟨d, more, rfl, rfl, hmore⟩
      obtain ⟨rest, rfl, hrest⟩ := ih.1 hmore
      exact ⟨rest, rfl, hrest⟩
    · rintro ⟨rest, rfl, hrest⟩
      exact ⟨c, _, rfl, rfl, ih.2 ⟨rest, rfl, hrest⟩⟩

/-- The tokens of an expression match the texts that it covers. -/
theorem matches_tokens_of_covers {e text : List Char} (h : Covers e text) :
    Matches (tokens e) text := by
  induction h with
  | done =>
    rw [tokens]
    exact .done
  | run skipped _ ih =>
    rw [tokens_run]
    exact .run skipped ih
  | one d _ ih =>
    rw [tokens_one]
    exact .take trivial ih
  | set hin ho hi hs hd _ ih =>
    rw [tokens_bracket hin, bracket_set ho hi hs]
    exact .take hd ih
  | @noSet e text inner _ c _ _ hin ho hi hs _ ih =>
    rw [tokens_bracket hin, bracket_noSet ho hi hs, matches_literals]
    exact ⟨text, by simp, ih⟩
  | unclosed hin _ ih =>
    rw [tokens_unclosed hin]
    exact .take rfl ih
  | itself hs hq hb _ ih =>
    rw [tokens_itself hs hq hb]
    exact .take rfl ih

theorem covers_of_matches_tokens (e : List Char) {text : List Char} (h : Matches (tokens e) text) :
    Covers e text := by
  fun_induction tokens e generalizing text with
  | case1 =>
    cases h
    exact .done
  | case2 c e hs ih =>
    obtain rfl : c = '*' := by simpa using hs
    obtain ⟨skipped, rest, rfl, hrest⟩ := matches_run_iff.1 h
    exact .run skipped (ih hrest)
  | case3 c e _ hq ih =>
    obtain rfl : c = '?' := by simpa using hq
    obtain ⟨d, rest, rfl, -, hrest⟩ := (matches_take_iff (by simp)).1 h
    exact .one d (ih hrest)
  | case4 c e _ _ hb hcut ih =>
    obtain rfl : c = '[' := by simpa using hb
    obtain ⟨d, rest, rfl, rfl, hrest⟩ := (matches_take_iff (by simp)).1 h
    exact .unclosed (cutBracket?_eq_none_iff.1 hcut) (ih hrest)
  | case5 c e _ _ hb body after hcut _ ih =>
    obtain rfl : c = '[' := by simpa using hb
    obtain ⟨c, inner, rfl, rfl, hin⟩ := cutBracket?_eq_some_iff.1 hcut
    obtain ⟨negated, items, ho⟩ := exists_opens c inner
    have hi : Items items (members items) := items_iff.2 rfl
    by_cases hs : Faulty (members items)
    · rw [bracket_noSet ho hi hs, matches_literals] at h
      obtain ⟨rest, rfl, hrest⟩ := h
      simpa using Covers.noSet hin ho hi hs (ih hrest)
    · rw [bracket_set ho hi hs] at h
      obtain ⟨d, rest, rfl, hd, hrest⟩ := (matches_take_iff (by simp)).1 h
      exact .set hin ho hi hs hd (ih hrest)
  | case6 c e hs hq hb ih =>
    obtain ⟨d, rest, rfl, rfl, hrest⟩ := (matches_take_iff (by simp)).1 h
    exact .itself (by simpa using hs) (by simpa using hq) (by simpa using hb) (ih hrest)

theorem matchesAll_tokens_iff (e text : List Char) :
    matchesAll (tokens e) text = true ↔ Covers e text :=
  (matchesAll_iff _ _).trans ⟨covers_of_matches_tokens e, matches_tokens_of_covers⟩

end PacScript.Glob
