import Mathlib.Data.List.Basic
import Mathlib.Data.List.Induction
import PacScript.Address.Basic

/-!
# Each address once

Of the addresses of an answer that come more than once the first is kept. What is kept has all of
them in the order in which they first come (`firstSeen_dedup`), and one more address at the end is
kept unless it has come before (`dedup_append_toList`).
-/

namespace PacScript.Address

/-- The addresses of an answer, each once and in the order in which they first come in it. -/
structure FirstSeen (answer found : List Address) : Prop where
  mem_iff : ∀ a, a ∈ found ↔ a ∈ answer
  inOrder : found.Pairwise fun a b => answer.idxOf a < answer.idxOf b

variable {answer found : List Address}

theorem FirstSeen.nodup (h : FirstSeen answer found) : found.Nodup :=
  h.inOrder.imp fun hlt heq => by
    rw [heq] at hlt
    exact Nat.lt_irrefl _ hlt

theorem FirstSeen.eq_nil_iff (h : FirstSeen answer found) : found = [] ↔ answer = [] := by
  simp only [List.eq_nil_iff_forall_not_mem, h.mem_iff]

/-- A new address at the end of an answer is a new address at the end of those found in it. -/
theorem FirstSeen.concat (h : FirstSeen answer found) (a : Address) :
    FirstSeen (answer ++ [a]) (if a ∈ found then found else found ++ [a]) := by
  have hindex : ∀ b ∈ found, (answer ++ [a]).idxOf b = answer.idxOf b := fun b hb =>
    List.idxOf_append_of_mem ((h.mem_iff b).1 hb)
  have hinOrder : found.Pairwise fun b c =>
      (answer ++ [a]).idxOf b < (answer ++ [a]).idxOf c :=
    h.inOrder.imp_of_mem fun hb hc hlt => by rwa [hindex _ hb, hindex _ hc]
  split
  · rename_i ha
    refine ⟨fun b => ?_, hinOrder⟩
    rw [List.mem_append, List.mem_singleton, ← h.mem_iff]
    exact ⟨Or.inl, fun hb => hb.elim id fun hb => hb ▸ ha⟩
  · rename_i ha
    refine ⟨fun b => ?_, List.pairwise_append.2 ⟨hinOrder, List.pairwise_singleton _ _, ?_⟩⟩
    · rw [List.mem_append, List.mem_append, h.mem_iff]
    · intro b hb c hc
      obtain rfl := List.mem_singleton.1 hc
      have hnew : c ∉ answer := fun hc => ha ((h.mem_iff c).2 hc)
      rw [hindex b hb, List.idxOf_append_of_notMem hnew, List.idxOf_cons_self]
      have := List.idxOf_lt_length_of_mem ((h.mem_iff b).1 hb)
      omega

theorem dedup_concat (answer : List Address) (a : Address) : dedup (answer ++ [a]) =
    if a ∈ dedup answer then dedup answer else dedup answer ++ [a] := by
  simp [dedup, List.foldl_append]

theorem firstSeen_dedup (answer : List Address) : FirstSeen answer (dedup answer) := by
  induction answer using List.reverseRecOn with
  | nil => exact ⟨fun a => Iff.rfl, List.Pairwise.nil⟩
  | append_singleton answer a ih =>
    rw [dedup_concat]
    exact ih.concat a

/-- The address, unless it is in the list already. -/
def unlessIn (found : List Address) (a : Option Address) : List Address :=
  a.toList.filter (· ∉ found)

theorem dedup_append_toList (answer : List Address) (a : Option Address) :
    dedup (answer ++ a.toList) = dedup answer ++ unlessIn (dedup answer) a := by
  rcases a with _ | a
  · simp [unlessIn]
  · rw [Option.toList_some, dedup_concat, unlessIn, Option.toList_some]
    split
    · rename_i ha
      simp [ha]
    · rename_i ha
      simp [ha]

end PacScript.Address
