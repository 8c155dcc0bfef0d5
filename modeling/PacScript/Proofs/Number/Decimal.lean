import PacScript.Proofs.Number.Numeral
import PacScript.Proofs.Text.Digits

/-!
# Decimal numerals

Digits of any script, single underscores between them and a sign in front (`Decimal`) are read as
the number that they denote (`Decimal.readInt?_eq`).
-/

namespace PacScript.Text

theorem digitValue?_lt {c : Char} {d : Nat} (h : digitValue? c = some d) : d < 10 := by
  unfold digitValue? at h
  split at h
  · rename_i hdigit
    have hle : c.toNat ≤ 57 := (Char.isDigit_iff_toNat.1 hdigit).2
    cases h
    omega
  · split at h
    · cases h
    · obtain ⟨z, hz, rfl⟩ := Option.map_eq_some_iff.1 h
      have hrange := List.find?_some hz
      simp only [Bool.and_eq_true, decide_eq_true_eq] at hrange
      omega

/-- No white space is a digit of a script. -/
theorem isBlank_of_digit {c : Char} (h : (digitValue? c).isSome = true) : isBlank c = false := by
  have hzeros : ∀ z ∈ decimalZeros, ∀ k < 10, isBlank (Char.ofNat (z + k)) = false := by
    decide +kernel
  unfold digitValue? at h
  split at h
  · rename_i hdigit
    exact isBlank_of_isDigit hdigit
  · split at h
    · cases h
    · rw [Option.isSome_map, List.find?_isSome] at h
      obtain ⟨z, hz, hrange⟩ := h
      simp only [Bool.and_eq_true, decide_eq_true_eq] at hrange
      have hblank := hzeros z hz (c.toNat - z) (by omega)
      rwa [Nat.add_sub_cancel' hrange.1, Char.ofNat_toNat] at hblank

end PacScript.Text

namespace PacScript.Numeral

open PacScript.Text

variable {cs rest : List Char} {c : Char} {k n d : Nat} {m : Int}

/-- The digits of a number, most significant first, and how many they are. -/
inductive Digits : List Char → Nat → Nat → Prop
  | one {c : Char} {d : Nat} (h : digitValue? c = some d) : Digits [c] 1 d
  | next {cs : List Char} {c : Char} {k n d : Nat} (hs : Digits cs k n)
      (h : digitValue? c = some d) : Digits (cs ++ [c]) (k + 1) (n * 10 + d)
  | apart {cs : List Char} {c : Char} {k n d : Nat} (hs : Digits cs k n)
      (h : digitValue? c = some d) : Digits (cs ++ ['_', c]) (k + 1) (n * 10 + d)

/-- A numeral of at most `digitLimit` digits, with a sign or without one, and its number. -/
inductive Decimal : List Char → Int → Prop
  | unsigned {cs : List Char} {k n : Nat} (hs : Digits cs k n) (hk : k ≤ digitLimit) : Decimal cs n
  | plus {cs : List Char} {k n : Nat} (hs : Digits cs k n) (hk : k ≤ digitLimit) :
      Decimal ('+' :: cs) n
  | minus {cs : List Char} {k n : Nat} (hs : Digits cs k n) (hk : k ≤ digitLimit) :
      Decimal ('-' :: cs) (-n)

theorem readDigits?_digit {b : Bool} (h : digitValue? c = some d) :
    readDigits? 10 b k n (asciiDigit c :: rest) = readDigits? 10 true (k + 1) (n * 10 + d) rest := by
  have hall : ∀ d < 10, Char.ofNat (48 + d) ≠ '_' ∧ baseDigit? 10 (Char.ofNat (48 + d)) = some d := by
    decide
  obtain ⟨hmark, hdigit⟩ := hall d (digitValue?_lt h)
  simp [asciiDigit, h, readDigits?, hmark, hdigit]

theorem Digits.readDigits?_append (hs : Digits cs k n) : ∀ rest : List Char,
    readDigits? 10 false 0 0 (cs.map asciiDigit ++ rest) = readDigits? 10 true k n rest := by
  have hmark : asciiDigit '_' = '_' := by decide +kernel
  induction hs with
  | @one c d h =>
    intro rest
    have hfirst : readDigits? 10 false 0 0 (asciiDigit c :: rest) =
        readDigits? 10 true (0 + 1) (0 * 10 + d) rest := readDigits?_digit h
    rwa [Nat.zero_mul, Nat.zero_add, Nat.zero_add] at hfirst
  | next _ h ih =>
    intro rest
    rw [List.map_append, List.append_assoc, ih]
    exact readDigits?_digit h
  | apart _ h ih =>
    intro rest
    rw [List.map_append, List.append_assoc, ih, List.map_cons, hmark, List.cons_append, readDigits?]
    exact readDigits?_digit h

theorem Digits.readDigits?_eq (hs : Digits cs k n) :
    readDigits? 10 false 0 0 (cs.map asciiDigit) = some (k, n) := by
  simpa [readDigits?] using hs.readDigits?_append []

theorem Digits.isBlank_eq_false (hs : Digits cs k n) : ∀ c ∈ cs, isBlank c = false := by
  have hmark : isBlank '_' = false := by decide
  induction hs with
  | one h => simp [isBlank_of_digit (Option.isSome_of_eq_some h)]
  | next _ h ih => simp_all [isBlank_of_digit (Option.isSome_of_eq_some h), or_imp]
  | apart _ h ih => simp_all [isBlank_of_digit (Option.isSome_of_eq_some h), or_imp]

theorem Digits.signed_eq (hs : Digits cs k n) :
    signed (cs.map asciiDigit) = (false, cs.map asciiDigit) := by
  -- the first digit stays where it is when more of them follow
  have hfirst : ∃ d rest, d < 10 ∧ cs.map asciiDigit = Char.ofNat (48 + d) :: rest := by
    induction hs with
    | one h => exact ⟨_, [], digitValue?_lt h, by simp [asciiDigit, h]⟩
    | next _ _ ih =>
      obtain ⟨d, rest, hd, heq⟩ := ih
      exact ⟨d, _, hd, by rw [List.map_append, heq, List.cons_append]⟩
    | apart _ _ ih =>
      obtain ⟨d, rest, hd, heq⟩ := ih
      exact ⟨d, _, hd, by rw [List.map_append, heq, List.cons_append]⟩
  have hall : ∀ d < 10, Char.ofNat (48 + d) ≠ '-' ∧ Char.ofNat (48 + d) ≠ '+' := by decide
  obtain ⟨d, rest, hd, heq⟩ := hfirst
  rw [heq]
  unfold signed
  split
  · rename_i h
    exact absurd (List.cons.inj h).1 (hall d hd).1
  · rename_i h
    exact absurd (List.cons.inj h).1 (hall d hd).2
  · rfl

theorem Decimal.isBlank_eq_false (h : Decimal cs m) : ∀ c ∈ cs, isBlank c = false := by
  cases h with
  | unsigned hs => exact hs.isBlank_eq_false
  | plus hs => simpa using ⟨by decide, hs.isBlank_eq_false⟩
  | minus hs => simpa using ⟨by decide, hs.isBlank_eq_false⟩

theorem Decimal.readInt?_eq (h : Decimal cs m) : readInt? 10 cs = some m := by
  have htrim : trimBy isNumeralBlank cs = cs :=
    trimBy_of_none fun c hc => by simp [isNumeralBlank, h.isBlank_eq_false c hc]
  have hplus : asciiDigit '+' = '+' := by decide +kernel
  have hminus : asciiDigit '-' = '-' := by decide +kernel
  simp only [readInt?, htrim, dropMark_ten]
  cases h with
  | unsigned hs hk => simp [hs.signed_eq, hs.readDigits?_eq, Nat.not_lt.2 hk]
  | plus hs hk => simp [hplus, signed, hs.readDigits?_eq, Nat.not_lt.2 hk]
  | minus hs hk => simp [hminus, signed, hs.readDigits?_eq, Nat.not_lt.2 hk]

end PacScript.Numeral
