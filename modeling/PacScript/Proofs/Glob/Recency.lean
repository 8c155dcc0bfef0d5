import Mathlib.Data.Finset.Card
import Mathlib.Data.List.DropRight
import PacScript.Proofs.Glob.Store

/-!
# Which expressions a store keeps

A store is asked for the tokens of expressions and for matches. It keeps the expressions that were
used last, each once and in the order of their latest uses (`keys_after`). That is the order of
`List.dedup`, which keeps the last occurrence of every element.

Nothing of this shows in the answers: whatever was asked before, a store answers as a new one does
(`served_recent`).
-/

namespace PacScript.Glob.Store

open PacScript.Text

/-- What a store can be asked for: the tokens of an expression, or whether it matches a text. -/
inductive Request
  | pattern (expression : String)
  | test (text expression : String)

/-- The expression that a request uses. -/
def Request.expression : Request → String
  | .pattern expression => expression
  | .test _ expression => expression

/-- What a store answers. -/
inductive Response
  | tokens (ts : List Token)
  | truth (b : Bool)
  deriving DecidableEq

/-- The answer to a request, and the store after it. -/
def serve (s : Store) : Request → Response × Store
  | .pattern expression =>
    let (ts, s) := s.use expression
    (.tokens ts, s)
  | .test text expression =>
    let (b, s) := s.matches? text expression
    (.truth b, s)

/-- The store after some requests. -/
def serveAll (s : Store) (requests : List Request) : Store :=
  requests.foldl (fun s r => (s.serve r).2) s

theorem serve_snd (s : Store) (r : Request) : (s.serve r).2 = (s.use r.expression).2 := by
  cases r <;> rfl

theorem serveAll_eq (s : Store) (requests : List Request) :
    s.serveAll requests = s.after (requests.map Request.expression) := by
  induction requests generalizing s with
  | nil => rfl
  | cons r requests ih =>
    show (s.serve r).2.serveAll requests = _
    rw [ih, serve_snd]
    rfl

/-! ## The expressions that are kept -/

section Recent

variable {α : Type}

theorem rtake_append_of_le {front back : List α} {n : Nat} (h : n ≤ back.length) :
    (front ++ back).rtake n = back.rtake n := by
  unfold List.rtake
  rw [List.length_append, List.drop_append, List.drop_of_length_le (by omega), List.nil_append]
  congr 1
  omega

variable [DecidableEq α]

/-- An element that is used again moves to the end. -/
theorem dedup_concat (uses : List α) (x : α) :
    (uses ++ [x]).dedup = uses.dedup.filter (· != x) ++ [x] := by
  induction uses with
  | nil => rfl
  | cons y uses ih =>
    rw [List.cons_append]
    by_cases hmem : y ∈ uses
    · rw [List.dedup_cons_of_mem (List.mem_append_left _ hmem), List.dedup_cons_of_mem hmem, ih]
    · rw [List.dedup_cons_of_notMem hmem]
      by_cases hy : y = x
      · subst hy
        rw [List.dedup_cons_of_mem (by simp), ih]
        simp
      · rw [List.dedup_cons_of_notMem (by simp [hmem, hy]), ih]
        simp [hy]

/-- Moving an element to the end and then keeping the last ones comes to the same whether or not
only the last ones were kept before. -/
theorem rtake_moved {l : List α} (hl : l.Nodup) (x : α) (n : Nat) :
    ((l.rtake n).filter (· != x) ++ [x]).rtake n = (l.filter (· != x) ++ [x]).rtake n := by
  have hsplit : l = l.take (l.length - n) ++ l.rtake n := (List.take_append_drop _ l).symm
  rcases Nat.lt_or_ge l.length n with hshort | hlong
  · have hall : l.rtake n = l := by simp [List.rtake, Nat.sub_eq_zero_of_le hshort.le]
    rw [hall]
  · have hback : n ≤ ((l.rtake n).filter (· != x) ++ [x]).length := by
      have hlength : (l.rtake n).length = n := by
        simp only [List.rtake, List.length_drop]
        omega
      have hnodup : (l.rtake n).Nodup := hl.sublist (List.drop_sublist _ _)
      -- an element that occurs at most once leaves at most one gap, which it fills itself
      rw [List.length_append, ← hnodup.erase_eq_filter, List.length_erase]
      split <;> simp only [List.length_singleton] <;> omega
    have hfront : ((l.take (l.length - n)).filter (· != x) ++
        ((l.rtake n).filter (· != x) ++ [x])).rtake n =
          ((l.rtake n).filter (· != x) ++ [x]).rtake n := rtake_append_of_le hback
    rw [← hfront, ← List.append_assoc, ← List.filter_append, ← hsplit]

end Recent

theorem keys_use (s : Store) (x : String) :
    (s.use x).2.keys = (s.keys.filter (· != x) ++ [x]).rtake s.capacity := by
  simp only [use, touch, keys, List.rtake, List.map_drop, List.map_append, List.map_cons,
    List.map_nil, List.filter_map, List.length_append, List.length_map]
  rfl

theorem after_concat (s : Store) (uses : List String) (x : String) :
    s.after (uses ++ [x]) = ((s.after uses).use x).2 := by
  simp [after]

theorem capacity_after (s : Store) (uses : List String) : (s.after uses).capacity = s.capacity := by
  induction uses using List.reverseRecOn with
  | nil => rfl
  | append_singleton uses x ih =>
    rw [after_concat]
    exact ih

/-- A store that begins empty keeps the last ones of the expressions in the order of their latest
uses. -/
theorem keys_after (capacity : Nat) (h : 0 < capacity) (uses : List String) :
    ((Store.mk capacity [] h).after uses).keys = uses.dedup.rtake capacity := by
  induction uses using List.reverseRecOn with
  | nil => simp [after, keys, List.rtake]
  | append_singleton uses x ih =>
    rw [after_concat, keys_use, ih, capacity_after, rtake_moved uses.nodup_dedup, dedup_concat]

/-! ## What is answered -/

theorem serve_fst {s : Store} (hs : s.Sound) (r : Request) : (s.serve r).1 = match r with
    | .pattern expression => .tokens (compile expression)
    | .test text expression => .truth (matchesAll (compile expression) text.toList) := by
  cases r with
  | pattern expression =>
    show Response.tokens (s.use expression).1 = _
    rw [use_fst hs]
  | test text expression =>
    show Response.truth (matchesAll (s.use expression).1 text.toList) = _
    rw [use_fst hs]

theorem sound_empty (capacity : Nat) (h : 0 < capacity) : (Store.mk capacity [] h).Sound :=
  fun e he => by simp at he

/-- Whatever a store was asked for: it keeps as many as it has room for of the expressions used, the
last ones in the order of their latest uses, with their tokens, which are those of the expression's
regular expression; and it answers the next request as an empty store does. -/
theorem served_recent (capacity : Nat) (h : 0 < capacity) (requests : List Request) :
    ((Store.mk capacity [] h).serveAll requests).keys =
      (requests.map Request.expression).dedup.rtake
        (min capacity (requests.map Request.expression).toFinset.card) ∧
    ((Store.mk capacity [] h).serveAll requests).keys.Nodup ∧
    (∀ e ∈ ((Store.mk capacity [] h).serveAll requests).entries, e.2 = compile e.1 ∧
      String.ofList (regexOfTokens e.2) = regex (String.ofList (trim e.1.toList))) ∧
    ∀ (request : Request) (size : Nat) (hsize : 0 < size),
      (((Store.mk capacity [] h).serveAll requests).serve request).1 =
        ((Store.mk size [] hsize).serve request).1 := by
  have hsound : ((Store.mk capacity [] h).serveAll requests).Sound := by
    rw [serveAll_eq]
    exact after_sound (sound_empty capacity h) _
  have hkeys : ((Store.mk capacity [] h).serveAll requests).keys =
      (requests.map Request.expression).dedup.rtake capacity := by
    rw [serveAll_eq, keys_after]
  refine ⟨?_, ?_, fun e he => ⟨hsound e he, ?_⟩, fun request size hsize => ?_⟩
  · rw [hkeys, List.card_toFinset]
    unfold List.rtake
    congr 1
    omega
  · rw [hkeys]
    exact (List.nodup_dedup _).sublist (List.drop_sublist _ _)
  · rw [hsound e he]
    simp [regex, compile]
  · rw [serve_fst hsound, serve_fst (sound_empty size hsize)]

/-- Blanks make another expression, and the third expression drops the second, which matches as
before when it is asked for again. -/
theorem served_recent_blanks : 0 < 2 ∧
    let s := (Store.mk 2 [] (by decide)).serveAll
      [.pattern "a*", .test "ab" " a*", .test "ab" "a*", .pattern "[!]"]
    s.keys = ["a*", "[!]"] ∧ (s.serve (.test "ab" " a*")).1 = .truth true := by
  have hrecent := served_recent 2 (by decide)
    [.pattern "a*", .test "ab" " a*", .test "ab" "a*", .pattern "[!]"]
  have hcovers : Covers ['a', '*'] ['a', 'b'] :=
    .itself (by decide) (by decide) (by decide) (.run ['b'] .done)
  refine ⟨by decide, hrecent.1.trans (by decide), ?_⟩
  -- a new store gives this answer too
  refine (hrecent.2.2.2 (.test "ab" " a*") 1 (by decide)).trans ?_
  rw [serve_fst (sound_empty 1 (by decide))]
  exact congrArg Response.truth ((matchesAll_tokens_iff _ _).2 hcovers)

end PacScript.Glob.Store
