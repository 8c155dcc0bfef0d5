import Mathlib.Data.List.Induction
import PacScript.Text.Basic

/-!
# Numbers as texts

The digits of a number read back as the number, in decimal (`ofDigits_toDigits`) and in hexadecimal
(`ofHexDigits_toDigits`). A number has one decimal text without a zero in front, so such a text is
the one that is written for its number (`toDigits_ofDigits`).
-/

namespace PacScript.Text

theorem ofDigits_eq (cs : List Char) : ofDigits cs = Nat.ofDigitChars 10 cs 0 := by
  rw [Nat.ofDigitChars_eq_foldl, ofDigits]
  simp only [Nat.mul_comm 10]
  rfl

theorem ofDigits_toDigits (n : Nat) : ofDigits (Nat.toDigits 10 n) = n := by
  rw [ofDigits_eq, Nat.ofDigitChars_ten_toDigits]

/-- What holds of all digits of a base holds of those of every number. -/
theorem forall_mem_toDigits {base : Nat} {p : Char → Prop} (hbase : 1 < base)
    (hp : ∀ d < base, p (Nat.digitChar d)) (n : Nat) : ∀ c ∈ Nat.toDigits base n, p c := by
  induction n using Nat.strongRecOn with
  | ind n ih =>
    rw [Nat.toDigits_eq_if hbase]
    split
    · rename_i hn
      simpa using hp n hn
    · have hpos : 0 < n := by omega
      intro c hc
      rcases List.mem_append.1 hc with hc | hc
      · exact ih _ (Nat.div_lt_self hpos hbase) c hc
      · rw [List.mem_singleton.1 hc]
        exact hp _ (Nat.mod_lt n (by omega))

theorem all_isDigit_toDigits (n : Nat) : (Nat.toDigits 10 n).all Char.isDigit = true :=
  List.all_eq_true.2 fun _ hc => Nat.isDigit_of_mem_toDigits (by decide) (by decide) hc

theorem isBlank_of_isDigit {c : Char} (h : c.isDigit = true) : isBlank c = false := by
  have h : 48 ≤ c.toNat ∧ c.toNat ≤ 57 := Char.isDigit_iff_toNat.1 h
  simp only [isBlank, Bool.or_eq_false_iff, Bool.and_eq_false_iff, decide_eq_false_iff_not,
    beq_eq_false_iff_ne]
  omega

/-! ## Texts without a zero in front -/

theorem ofDigits_concat (cs : List Char) (c : Char) :
    ofDigits (cs ++ [c]) = ofDigits cs * 10 + (c.toNat - 48) := by
  simp [ofDigits]

theorem toDigits_of_isDigit {c : Char} (h : c.isDigit = true) :
    Nat.toDigits 10 (c.toNat - 48) = [c] := by
  have hall : ∀ d < 10, Nat.digitChar d = Char.ofNat (d + 48) := by decide
  have hc : 48 ≤ c.toNat ∧ c.toNat ≤ 57 := Char.isDigit_iff_toNat.1 h
  rw [Nat.toDigits_of_lt_base (by omega), hall _ (by omega), Nat.sub_add_cancel hc.1,
    Char.ofNat_toNat]

theorem toDigits_ofDigits {cs : List Char} (hne : cs ≠ []) (hdigits : ∀ c ∈ cs, c.isDigit = true)
    (hhead : cs.head? ≠ some '0') : 0 < ofDigits cs ∧ Nat.toDigits 10 (ofDigits cs) = cs := by
  induction cs using List.reverseRecOn with
  | nil => exact absurd rfl hne
  | append_singleton cs c ih =>
    have hc := hdigits c (by simp)
    have hbounds : 48 ≤ c.toNat ∧ c.toNat ≤ 57 := Char.isDigit_iff_toNat.1 hc
    rw [ofDigits_concat]
    rcases cs with _ | ⟨d, rest⟩
    · have hzero : c.toNat ≠ 48 := fun h => hhead (by simpa using Char.toNat_inj.1 h)
      refine ⟨by omega, ?_⟩
      simpa [ofDigits] using toDigits_of_isDigit hc
    · obtain ⟨hpos, hrest⟩ := ih (by simp) (fun e he => hdigits e (List.mem_append_left _ he))
        (by simpa using hhead)
      refine ⟨by omega, ?_⟩
      rw [Nat.mul_comm, ← Nat.toDigits_append_toDigits (by decide) hpos (by omega), hrest,
        toDigits_of_isDigit hc]

/-! ## Hexadecimal texts -/

theorem ofHexDigits_concat (cs : List Char) (c : Char) :
    ofHexDigits (cs ++ [c]) = ofHexDigits cs * 16 + hexValue c := by
  simp [ofHexDigits]

theorem hexValue_digitChar : ∀ d < 16, hexValue (Nat.digitChar d) = d := by
  decide

theorem ofHexDigits_toDigits (n : Nat) : ofHexDigits (Nat.toDigits 16 n) = n := by
  induction n using Nat.strongRecOn with
  | ind n ih =>
    rcases Nat.lt_or_ge n 16 with hn | hn
    · rw [Nat.toDigits_of_lt_base hn]
      simpa [ofHexDigits] using hexValue_digitChar n hn
    · rw [Nat.toDigits_of_base_le (by decide) hn, ofHexDigits_concat, ih (n / 16) (by omega),
        hexValue_digitChar _ (Nat.mod_lt n (by decide))]
      omega

end PacScript.Text
