import PacScript.Glob.Matching

/-!
# What the matcher computes

`Matches` says what it is for a row of tokens to match a whole text, one token after the other. The
matcher keeps a mark for every suffix of the text, and the marks of a shorter text are the later
marks of a longer one (`marks_cons`). So it obeys the equations of a matcher that goes through one
text, and agrees with `Matches` (`matchesAll_iff`).
-/

namespace PacScript.Glob

/-- The characters that a member of a set stands for. -/
def Member.Has : Member → Char → Prop
  | .single c, d => d = c
  | .range low high, d => low ≤ d ∧ d ≤ high

/-- The characters that a token other than `*` stands for. -/
def Token.Takes : Token → Char → Prop
  | .anyRun, _ => False
  | .anyOne, _ => True
  | .literal c, d => d = c
  | .set negated members, d => (∃ m ∈ members, m.Has d) ↔ negated = false

/-- A row of tokens matches a whole text. -/
inductive Matches : List Token → List Char → Prop
  | done : Matches [] []
  | run {ts : List Token} {text : List Char} (skipped : List Char) :
    Matches ts text → Matches (.anyRun :: ts) (skipped ++ text)
  | take {t : Token} {ts : List Token} {c : Char} {text : List Char} :
    t.Takes c → Matches ts text → Matches (t :: ts) (c :: text)

theorem Member.contains_iff (m : Member) (d : Char) : m.contains d = true ↔ m.Has d := by
  cases m with
  | single c =>
    simp only [Member.contains, Member.Has, beq_iff_eq]
    exact eq_comm
  | range low high => simp [Member.contains, Member.Has]

theorem Token.accepts_iff {t : Token} (ht : t ≠ .anyRun) (d : Char) :
    t.accepts d = true ↔ t.Takes d := by
  cases t with
  | anyRun => exact absurd rfl ht
  | anyOne => simp [Token.accepts, Token.Takes]
  | literal c =>
    simp only [Token.accepts, Token.Takes, beq_iff_eq]
    exact eq_comm
  | set negated members =>
    have hany : members.any (·.contains d) = true ↔ ∃ m ∈ members, m.Has d := by
      simp [Member.contains_iff]
    simp only [Token.accepts, Token.Takes, ← hany]
    cases members.any (·.contains d) <;> cases negated <;> simp

/-! ## The equations of the matcher -/

theorem marks_token (t : Token) (ts : List Token) (text : List Char) :
    marks text (t :: ts) = t.marks text (marks text ts) := rfl

theorem marks_nil (ts : List Token) : marks [] ts = [matchesAll ts []] := by
  have hone : ∃ b, marks [] ts = [b] := by
    induction ts with
    | nil => exact ⟨true, rfl⟩
    | cons t ts ih =>
      obtain ⟨b, hb⟩ := ih
      rw [marks_token, hb]
      cases t <;> exact ⟨_, rfl⟩
  obtain ⟨b, hb⟩ := hone
  simp [matchesAll, hb]

theorem marks_ne_nil (text : List Char) (ts : List Token) : marks text ts ≠ [] := by
  induction ts with
  | nil => simp [marks]
  | cons t ts ih =>
    obtain ⟨b, rest, hb⟩ := List.exists_cons_of_ne_nil ih
    rw [marks_token, hb]
    cases t <;> simp [Token.marks, marksBefore]

/-- The marks of a text are those of the text without its first character, and one more. -/
theorem marks_cons (c : Char) (text : List Char) (ts : List Token) :
    marks (c :: text) ts = matchesAll ts (c :: text) :: marks text ts := by
  have hmore : ∃ b, marks (c :: text) ts = b :: marks text ts := by
    induction ts with
    | nil => exact ⟨false, rfl⟩
    | cons t ts ih =>
      obtain ⟨b, hb⟩ := ih
      obtain ⟨b', rest, hb'⟩ := List.exists_cons_of_ne_nil (marks_ne_nil text ts)
      rw [marks_token, marks_token, hb, hb']
      cases t <;> exact ⟨_, rfl⟩
  obtain ⟨b, hb⟩ := hmore
  simp [matchesAll, hb]

theorem matchesAll_done (text : List Char) : matchesAll [] text = text.isEmpty := by
  cases text <;> rfl

theorem matchesAll_run_nil (ts : List Token) :
    matchesAll (.anyRun :: ts) [] = matchesAll ts [] := by
  rw [matchesAll, marks_token, marks_nil]
  simp [Token.marks, marksBefore]

theorem matchesAll_run_cons (ts : List Token) (c : Char) (text : List Char) :
    matchesAll (.anyRun :: ts) (c :: text) =
      (matchesAll ts (c :: text) || matchesAll (.anyRun :: ts) text) := by
  rw [matchesAll, marks_token, marks_cons, matchesAll.eq_def (.anyRun :: ts), marks_token]
  rfl

theorem matchesAll_take_nil {t : Token} (ht : t ≠ .anyRun) (ts : List Token) :
    matchesAll (t :: ts) [] = false := by
  rw [matchesAll, marks_token]
  cases t with
  | anyRun => exact absurd rfl ht
  | _ => rfl

theorem matchesAll_take_cons {t : Token} (ht : t ≠ .anyRun) (ts : List Token) (c : Char)
    (text : List Char) :
    matchesAll (t :: ts) (c :: text) = (t.accepts c && matchesAll ts text) := by
  have hhead : ∃ rest, marks text ts = matchesAll ts text :: rest := by
    rcases text with _ | ⟨d, text⟩
    · exact ⟨_, marks_nil ts⟩
    · exact ⟨_, marks_cons d text ts⟩
  obtain ⟨rest, hrest⟩ := hhead
  rw [matchesAll, marks_token, marks_cons, hrest]
  cases t with
  | anyRun => exact absurd rfl ht
  | _ => rfl

/-! ## Agreement -/

theorem matches_run_iff {ts : List Token} {text : List Char} :
    Matches (.anyRun :: ts) text ↔ ∃ skipped rest, text = skipped ++ rest ∧ Matches ts rest := by
  constructor
  · intro h
    cases h with
    | run skipped h => exact ⟨skipped, _, rfl, h⟩
    | take hc => exact hc.elim
  · rintro ⟨skipped, rest, rfl, h⟩
    exact .run skipped h

theorem matches_take_iff {t : Token} (ht : t ≠ .anyRun) {ts : List Token} {text : List Char} :
    Matches (t :: ts) text ↔ ∃ c rest, text = c :: rest ∧ t.Takes c ∧ Matches ts rest := by
  constructor
  · intro h
    cases h with
    | run => exact absurd rfl ht
    | take hc h => exact ⟨_, _, rfl, hc, h⟩
  · rintro ⟨c, rest, rfl, hc, h⟩
    exact .take hc h

theorem matches_run_nil {ts : List Token} : Matches (.anyRun :: ts) [] ↔ Matches ts [] := by
  rw [matches_run_iff]
  constructor
  · rintro ⟨skipped, rest, hnil, h⟩
    obtain ⟨rfl, rfl⟩ := List.append_eq_nil_iff.1 hnil.symm
    exact h
  · exact fun h => ⟨[], [], rfl, h⟩

theorem matches_run_cons {ts : List Token} {c : Char} {text : List Char} :
    Matches (.anyRun :: ts) (c :: text) ↔
      Matches ts (c :: text) ∨ Matches (.anyRun :: ts) text := by
  rw [matches_run_iff, matches_run_iff]
  constructor
  · rintro ⟨_ | ⟨d, skipped⟩, rest, hcons, h⟩
    · subst hcons
      exact .inl h
    · obtain ⟨rfl, rfl⟩ := List.cons.inj hcons
      exact .inr ⟨skipped, rest, rfl, h⟩
  · rintro (h | ⟨skipped, rest, rfl, h⟩)
    · exact ⟨[], _, rfl, h⟩
    · exact ⟨c :: skipped, rest, rfl, h⟩

theorem matches_take_nil {t : Token} (ht : t ≠ .anyRun) {ts : List Token} :
    ¬ Matches (t :: ts) [] := by
  rw [matches_take_iff ht]
  rintro ⟨c, rest, h, -⟩
  cases h

theorem matches_take_cons {t : Token} (ht : t ≠ .anyRun) {ts : List Token} {c : Char}
    {text : List Char} : Matches (t :: ts) (c :: text) ↔ t.Takes c ∧ Matches ts text := by
  rw [matches_take_iff ht]
  constructor
  · rintro ⟨d, rest, hcons, h⟩
    obtain ⟨rfl, rfl⟩ := List.cons.inj hcons
    exact h
  · exact fun h => ⟨c, text, rfl, h⟩

theorem matchesAll_iff (ts : List Token) (text : List Char) :
    matchesAll ts text = true ↔ Matches ts text := by
  induction ts generalizing text with
  | nil =>
    rw [matchesAll_done, List.isEmpty_iff]
    constructor
    · rintro rfl
      exact .done
    · intro h
      cases h
      rfl
  | cons t ts ih =>
    by_cases ht : t = .anyRun
    · subst ht
      induction text with
      | nil => rw [matchesAll_run_nil, ih, matches_run_nil]
      | cons c text iht => rw [matchesAll_run_cons, Bool.or_eq_true, ih, iht, matches_run_cons]
    · rcases text with _ | ⟨c, text⟩
      · simp [matchesAll_take_nil ht, matches_take_nil ht]
      · rw [matchesAll_take_cons ht, Bool.and_eq_true, Token.accepts_iff ht, ih,
          matches_take_cons ht]

end PacScript.Glob
