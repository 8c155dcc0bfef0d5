import PacScript.Number.Numeral
import PacScript.Proofs.Text.Trim
import PacScript.Text.Case

/-!
# Numerals and names

A numeral holds a digit (`exists_digit_of_readInt?`), and digits of all scripts are their own
upper-case forms (`upperChar_of_digit`). So a text whose upper-case form holds no digits is no
numeral (`readInt?_of_upper`).
-/

namespace PacScript.Text

/-- No run of the upper-case table meets the digits of a script. -/
theorem upperRuns_apart : (upperRuns.all fun (first, last, _, _) =>
    decimalZeros.all fun z => Nat.ble (z + 10) first || Nat.blt last z) = true := by
  decide +kernel

theorem upperExpansions_apart : (upperExpansions.all fun (n, _) =>
    decimalZeros.all fun z => Nat.ble (z + 10) n || Nat.blt n z) = true := by
  decide +kernel

section Tables

variable {z n : Nat}

theorem mapByRuns_of_zero (hz : z ∈ decimalZeros) (h : z ≤ n) (h' : n < z + 10) :
    mapByRuns upperRuns n = none := by
  rw [mapByRuns, List.findSome?_eq_none_iff]
  rintro ⟨first, last, step, target⟩ hr
  have hapart := List.all_eq_true.1 (List.all_eq_true.1 upperRuns_apart _ hr) z hz
  simp only [Bool.or_eq_true, Nat.ble_eq, Nat.blt_eq] at hapart
  exact if_neg (by omega)

theorem lookup_of_zero (hz : z ∈ decimalZeros) (h : z ≤ n) (h' : n < z + 10) :
    upperExpansions.lookup n = none := by
  rw [List.lookup_eq_none_iff]
  rintro ⟨m, targets⟩ he
  have hapart := List.all_eq_true.1 (List.all_eq_true.1 upperExpansions_apart _ he) z hz
  simp only [Bool.or_eq_true, Nat.ble_eq, Nat.blt_eq] at hapart
  simp only [bne_iff_ne, ne_eq]
  omega

end Tables

theorem toUpper_of_isDigit {c : Char} (h : c.isDigit = true) : c.toUpper = c := by
  simp only [Char.isDigit, Bool.and_eq_true, decide_eq_true_eq] at h
  unfold Char.toUpper
  split
  · rename_i hlower
    have h9 : c.val.toNat ≤ 57 := UInt32.le_iff_toNat_le.1 h.2
    have ha : 97 ≤ c.val.toNat := UInt32.le_iff_toNat_le.1 hlower.1
    omega
  · rfl

theorem upperChar_of_digit {c : Char} (h : (digitValue? c).isSome = true) : upperChar c = [c] := by
  unfold digitValue? at h
  split at h
  · rename_i hdigit
    have hascii : c.toNat < 128 := by
      simp only [Char.isDigit, Bool.and_eq_true, decide_eq_true_eq] at hdigit
      have h9 : c.val.toNat ≤ 57 := UInt32.le_iff_toNat_le.1 hdigit.2
      show c.val.toNat < 128
      omega
    simp [upperChar, hascii, toUpper_of_isDigit hdigit]
  · split at h
    · cases h
    · rename_i hascii
      rw [Option.isSome_map, List.find?_isSome] at h
      obtain ⟨z, hz, hrange⟩ := h
      simp only [Bool.and_eq_true, decide_eq_true_eq] at hrange
      simp [upperChar, hascii, lookup_of_zero hz hrange.1 hrange.2,
        mapByRuns_of_zero hz hrange.1 hrange.2]

theorem mem_upper_of_digit {c : Char} {cs : List Char} (hc : c ∈ cs)
    (h : (digitValue? c).isSome = true) : c ∈ upper cs :=
  List.mem_flatMap.2 ⟨c, hc, by simp [upperChar_of_digit h]⟩

theorem digitValue?_of_isDigit_asciiDigit {c : Char} (h : (asciiDigit c).isDigit = true) :
    (digitValue? c).isSome = true := by
  unfold asciiDigit at h
  split at h
  · rename_i v hv
    simp [hv]
  · rename_i hnone
    simp [digitValue?, h] at hnone

end PacScript.Text

namespace PacScript.Numeral

open PacScript.Text

theorem mem_of_mem_signed {c : Char} {cs : List Char} (h : c ∈ (signed cs).2) : c ∈ cs := by
  unfold signed at h
  split at h
  · exact List.mem_cons_of_mem _ h
  · exact List.mem_cons_of_mem _ h
  · exact h

theorem dropMark_ten (cs : List Char) : dropMark 10 cs = cs := by
  unfold dropMark
  split
  · simp [baseMarks]
  · rfl

theorem isDigit_of_baseDigit? {c : Char} {d : Nat} (h : baseDigit? 10 c = some d) :
    c.isDigit = true := by
  simp only [baseDigit?, Option.filter_eq_some_iff, decide_eq_true_eq] at h
  obtain ⟨hv, hlt⟩ := h
  split at hv
  · assumption
  · split at hv
    · rename_i hlower
      simp only [Bool.and_eq_true, decide_eq_true_eq] at hlower
      have h97 : 97 ≤ c.toNat := UInt32.le_iff_toNat_le.1 hlower.1
      cases hv
      omega
    · split at hv
      · rename_i hupper
        simp only [Bool.and_eq_true, decide_eq_true_eq] at hupper
        have h65 : 65 ≤ c.toNat := UInt32.le_iff_toNat_le.1 hupper.1
        cases hv
        omega
      · cases hv

theorem exists_digit_of_readDigits? {count value : Nat} {cs : List Char} {r : Nat × Nat}
    (h : readDigits? 10 false count value cs = some r) : ∃ c ∈ cs, c.isDigit = true := by
  rcases cs with _ | ⟨c, rest⟩
  · simp [readDigits?] at h
  · simp only [readDigits?] at h
    split at h
    · simp at h
    · split at h
      · rename_i d hd
        exact ⟨c, List.mem_cons_self, isDigit_of_baseDigit? hd⟩
      · cases h

theorem exists_digit_of_readInt? {cs : List Char} {n : Int} (h : readInt? 10 cs = some n) :
    ∃ c ∈ cs, (digitValue? c).isSome = true := by
  simp only [readInt?, dropMark_ten] at h
  split at h
  · cases h
  · rename_i count value hread
    obtain ⟨c, hc, hdigit⟩ := exists_digit_of_readDigits? hread
    obtain ⟨c', hc', rfl⟩ := List.mem_map.1 (mem_of_mem_signed hc)
    exact ⟨c', mem_of_mem_trimBy hc', digitValue?_of_isDigit_asciiDigit hdigit⟩

/-- A text whose upper-case form holds no digits is no numeral. -/
theorem readInt?_of_upper {cs : List Char} (h : ∀ c ∈ upper cs, digitValue? c = none) :
    readInt? 10 cs = none := by
  rcases hread : readInt? 10 cs with _ | n
  · rfl
  · obtain ⟨c, hc, hdigit⟩ := exists_digit_of_readInt? hread
    rw [h c (mem_upper_of_digit hc hdigit)] at hdigit
    cases hdigit

end PacScript.Numeral
