import Mathlib.Data.List.Basic
import PacScript.Proofs.Address.Quad

/-!
# Addresses by family

Addresses ordered by family are those of the preferred family and then those of the other one, each
family in the order in which it was (`orderByFamily_eq`): sorting by rank moves no address past
another of its own family. The text of an address is never empty, so joined addresses are empty only
where there are none (`join_eq_empty_iff`).
-/

namespace PacScript

open Text

def Family.preferred (preferV6 : Bool) : Family := if preferV6 then .v6 else .v4

namespace Address

theorem familyRank_eq (preferV6 : Bool) (a : Address) :
    familyRank preferV6 a = if a.family = .preferred preferV6 then 0 else 1 := by
  cases preferV6 <;> cases a <;> rfl

theorem family_of_ne_preferred {preferV6 : Bool} {a : Address}
    (h : a.family ≠ .preferred preferV6) : a.family = .preferred (!preferV6) := by
  cases preferV6 <;> cases a <;> first | rfl | exact absurd rfl h

theorem select_cons_of_eq {f : Family} {a : Address} (h : a.family = f) (rest : List Address) :
    select (.only f) (a :: rest) = a :: select (.only f) rest := by
  simp [select, h]

theorem select_cons_of_ne {f : Family} {a : Address} (h : a.family ≠ f) (rest : List Address) :
    select (.only f) (a :: rest) = select (.only f) rest := by
  simp [select, h]

variable {preferV6 : Bool}

/-- Addresses in the order of their ranks fall into two blocks. -/
theorem eq_append_of_pairwise : ∀ {addresses : List Address},
    addresses.Pairwise (fun a b => familyRank preferV6 a ≤ familyRank preferV6 b) →
    addresses = select (.only (.preferred preferV6)) addresses ++
      select (.only (.preferred (!preferV6))) addresses
  | [], _ => rfl
  | a :: rest, h => by
    obtain ⟨hfirst, hrest⟩ := List.pairwise_cons.1 h
    have ih := eq_append_of_pairwise hrest
    by_cases ha : a.family = .preferred preferV6
    · have hother : a.family ≠ .preferred (!preferV6) := by
        rw [ha]
        cases preferV6 <;> decide
      rw [select_cons_of_eq ha, select_cons_of_ne hother, List.cons_append, ← ih]
    · -- none of the preferred family comes after one of the other
      have hnone : select (.only (.preferred preferV6)) rest = [] := by
        refine List.filter_eq_nil_iff.2 fun b hb => ?_
        have hle := hfirst b hb
        rw [familyRank_eq, familyRank_eq, if_neg ha] at hle
        split at hle
        · omega
        · simpa
      rw [hnone, List.nil_append] at ih
      rw [select_cons_of_ne ha, hnone, select_cons_of_eq (family_of_ne_preferred ha),
        List.nil_append, ← ih]

/-- The order inside a family is kept. -/
theorem select_orderByFamily (f : Family) (addresses : List Address) :
    select (.only f) (orderByFamily preferV6 addresses) = select (.only f) addresses := by
  have hequal : (select (.only f) addresses).Pairwise
      fun a b => decide (familyRank preferV6 a ≤ familyRank preferV6 b) = true := by
    refine List.pairwise_of_forall_mem_list fun a ha b hb => ?_
    have ha := List.of_mem_filter ha
    have hb := List.of_mem_filter hb
    rw [beq_iff_eq] at ha hb
    simp [familyRank_eq, ha, hb]
  have hsublist : (select (.only f) addresses).Sublist (orderByFamily preferV6 addresses) :=
    List.sublist_mergeSort (by simpa using fun a b c => Nat.le_trans)
      (by simpa using fun a b => Nat.le_total _ _) hequal List.filter_sublist
  have hfilter := hsublist.filter fun a => a.family == f
  rw [select, List.filter_filter] at hfilter
  simp only [Bool.and_self] at hfilter
  exact (hfilter.eq_of_length ((List.mergeSort_perm _ _).filter _).length_eq.symm).symm

theorem orderByFamily_eq (preferV6 : Bool) (addresses : List Address) :
    orderByFamily preferV6 addresses = select (.only (.preferred preferV6)) addresses ++
      select (.only (.preferred (!preferV6))) addresses := by
  have hsorted : (orderByFamily preferV6 addresses).Pairwise
      fun a b => decide (familyRank preferV6 a ≤ familyRank preferV6 b) = true :=
    List.pairwise_mergeSort (by simpa using fun a b c => Nat.le_trans)
      (by simpa using fun a b => Nat.le_total _ _) addresses
  have hblocks := eq_append_of_pairwise (hsorted.imp of_decide_eq_true)
  rwa [select_orderByFamily, select_orderByFamily] at hblocks

theorem orderByFamily_perm (preferV6 : Bool) (addresses : List Address) :
    (orderByFamily preferV6 addresses).Perm addresses := List.mergeSort_perm _ _

/-! ## Joined addresses -/

theorem groupChars_ne_nil {gs : List Nat} (h : gs ≠ []) : groupChars gs ≠ [] := by
  rcases gs with _ | ⟨g, _ | ⟨g', rest⟩⟩
  · exact absurd rfl h
  · simp [groupChars]
  · simp [groupChars, List.intercalate]

theorem text_ne_empty (a : Address) : text a ≠ "" := by
  intro h
  rcases a with value | ⟨value, zone⟩
  · have hquad := quad?_text value
    rw [h] at hquad
    cases hquad
  · have hchars : compressed (groups value.toNat) ++ zoneChars zone = [] := by
      simpa [text, chars] using h
    have hgroups := (List.append_eq_nil_iff.1 hchars).1
    unfold compressed at hgroups
    simp only at hgroups
    split at hgroups
    · exact groupChars_ne_nil (by simp [groups]) hgroups
    · simp at hgroups

theorem join_eq_empty_iff {addresses : List Address} : join addresses = "" ↔ addresses = [] := by
  rcases addresses with _ | ⟨a, _ | ⟨b, rest⟩⟩
  · simp [join]
  · simpa [join] using text_ne_empty a
  · simp [join, String.intercalate_cons_cons]

end Address

end PacScript
