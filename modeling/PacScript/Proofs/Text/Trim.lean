import Mathlib.Data.List.DropRight
import PacScript.Text.Basic

/-!
# Trimming texts

Trimming drops characters at the two ends only: what is left is a part of the text
(`mem_of_mem_trimBy`), and of that nothing more is dropped (`trimBy_trimBy`). White space around a
text makes no difference to it (`Spaced.trim_eq`).
-/

namespace PacScript.Text

variable {p : Char → Bool} {cs : List Char}

theorem trimBy_eq (p : Char → Bool) (cs : List Char) :
    trimBy p cs = (cs.dropWhile p).rdropWhile p := rfl

theorem mem_of_mem_trimBy {c : Char} (h : c ∈ trimBy p cs) : c ∈ cs := by
  have h := (List.dropWhile_sublist p).mem (List.mem_reverse.1 h)
  exact (List.dropWhile_sublist p).mem (List.mem_reverse.1 h)

theorem trimBy_of_none (h : ∀ c ∈ cs, p c = false) : trimBy p cs = cs := by
  have hfront : cs.dropWhile p = cs :=
    List.dropWhile_eq_self_iff.2 fun hl => by simp [h _ (List.getElem_mem hl)]
  rw [trimBy_eq, hfront, List.rdropWhile_eq_self_iff]
  intro hl
  simp [h _ (List.getLast_mem hl)]

theorem trimBy_eq_nil_iff : trimBy p cs = [] ↔ ∀ c ∈ cs, p c = true := by
  rw [trimBy_eq, List.rdropWhile_eq_nil_iff]
  constructor
  · intro h c hc
    rw [← List.takeWhile_append_dropWhile (p := p) (l := cs), List.mem_append] at hc
    exact hc.elim List.mem_takeWhile_imp (h c)
  · exact fun h c hc => h c ((List.dropWhile_sublist p).mem hc)

/-- Nothing is left to be dropped at either end. -/
theorem trimBy_trimBy (p : Char → Bool) (cs : List Char) :
    trimBy p (trimBy p cs) = trimBy p cs := by
  rcases hcut : (cs.dropWhile p).rdropWhile p with _ | ⟨c, rest⟩
  · rw [trimBy_eq p cs, hcut]
    rfl
  · -- the first character that stays is the first one after those dropped at the front
    have hc : p c = false := by
      obtain ⟨back, hback⟩ := hcut ▸ List.rdropWhile_prefix p (cs.dropWhile p)
      have hhead := List.head?_dropWhile_not p cs
      rw [← hback] at hhead
      simpa using hhead
    have hfront : (c :: rest).dropWhile p = c :: rest := by simp [hc]
    rw [trimBy_eq p cs, hcut, trimBy_eq, hfront, ← hcut, List.rdropWhile_idempotent]

theorem trimBy_append {before after : List Char} (hbefore : ∀ c ∈ before, p c = true)
    (hafter : ∀ c ∈ after, p c = true) : trimBy p (before ++ cs ++ after) = trimBy p cs := by
  rw [trimBy_eq, List.append_assoc, List.dropWhile_append_of_pos hbefore]
  by_cases hall : ∀ c ∈ cs, p c = true
  · rw [List.dropWhile_append_of_pos hall, trimBy_eq_nil_iff.2 hall, ← trimBy_eq,
      trimBy_eq_nil_iff]
    exact hafter
  · have hempty : (cs.dropWhile p).isEmpty = false := by
      simpa [List.isEmpty_iff, List.dropWhile_eq_nil_iff] using hall
    rw [List.dropWhile_append, hempty, if_neg Bool.false_ne_true, trimBy, List.rdropWhile,
      List.reverse_append, List.dropWhile_append_of_pos fun c hc => hafter c (List.mem_reverse.1 hc)]

/-- The text with white space before and after it. -/
inductive Spaced (core : List Char) : List Char → Prop
  | around {before after : List Char} (hbefore : ∀ c ∈ before, isBlank c = true)
      (hafter : ∀ c ∈ after, isBlank c = true) : Spaced core (before ++ core ++ after)

theorem spaced_of_all {before core after : List Char} (hbefore : before.all isBlank = true)
    (hafter : after.all isBlank = true) : Spaced core (before ++ core ++ after) :=
  .around (List.all_eq_true.1 hbefore) (List.all_eq_true.1 hafter)

theorem spaced_self (core : List Char) : Spaced core core := by
  have h : Spaced core ([] ++ core ++ []) := spaced_of_all rfl rfl
  rwa [List.nil_append, List.append_nil] at h

theorem Spaced.trim_eq {core : List Char} (h : Spaced core cs) : trim cs = trim core := by
  obtain ⟨hbefore, hafter⟩ := h
  exact trimBy_append hbefore hafter

end PacScript.Text
