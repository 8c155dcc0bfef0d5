import PacScript.Glob.Store
import PacScript.Proofs.Glob.Meaning

/-!
# What the store of expressions answers

Whatever was used before, the store keeps with every expression the tokens of that expression
(`Store.Sound`), so an answer does not depend on what is kept: it is what the expression means
(`Store.matches?_after_iff`).
-/

namespace PacScript.Glob.Store

open PacScript.Text

/-- What is kept with an expression are its tokens. -/
def Sound (s : Store) : Prop := ∀ e ∈ s.entries, e.2 = compile e.1

/-- The store after the use of some expressions. -/
def after (s : Store) (uses : List String) : Store := uses.foldl (fun s x => (s.use x).2) s

theorem get?_of_sound {s : Store} (hs : s.Sound) {x : String} {ts : List Token}
    (h : s.get? x = some ts) : ts = compile x := by
  obtain ⟨before, rest, hentries, -⟩ := List.lookup_eq_some_iff.1 h
  exact hs (x, ts) (by simp [hentries])

theorem use_fst {s : Store} (hs : s.Sound) (x : String) : (s.use x).1 = compile x := by
  show (s.get? x).getD (compile x) = compile x
  rcases h : s.get? x with _ | ts
  · rfl
  · exact get?_of_sound hs h

theorem use_sound {s : Store} (hs : s.Sound) (x : String) : (s.use x).2.Sound := by
  intro e he
  have he : e ∈ s.entries.filter (fun e => e.1 != x) ++ [(x, (s.use x).1)] :=
    List.mem_of_mem_drop he
  rw [use_fst hs, List.mem_append, List.mem_filter, List.mem_singleton] at he
  rcases he with ⟨he, -⟩ | rfl
  · exact hs e he
  · rfl

theorem after_sound {s : Store} (hs : s.Sound) (uses : List String) : (s.after uses).Sound := by
  induction uses generalizing s with
  | nil => exact hs
  | cons x uses ih => exact ih (use_sound hs x)

/-- A store that begins empty, whatever it was used for, matches an expression against the texts
that the trimmed expression covers. -/
theorem matches?_after_iff (capacity : Nat) (h : 0 < capacity) (earlier : List String)
    (text expression : String) :
    (((Store.mk capacity [] h).after earlier).matches? text expression).1 = true ↔
      Covers (trim expression.toList) text.toList := by
  have hs : ((Store.mk capacity [] h).after earlier).Sound :=
    after_sound (fun e he => by simp at he) earlier
  show matchesAll (use _ expression).1 text.toList = true ↔ _
  rw [use_fst hs]
  exact matchesAll_tokens_iff _ _

theorem matches?_after_iff_two : 0 < 2 ∧
    (((Store.mk 2 [] (by decide)).after ["x", "[!]", "a*"]).matches? "a\nb" " a* ").1 = true := by
  refine ⟨by decide, (matches?_after_iff 2 (by decide) _ _ _).2 ?_⟩
  show Covers ['a', '*'] ['a', '\n', 'b']
  exact .itself (by decide) (by decide) (by decide) (.run ['\n', 'b'] .done)

end PacScript.Glob.Store
