import Mathlib.Algebra.Ring.Nat
import PacScript.Address.Parser
import PacScript.Address.Printer
import PacScript.Proofs.Text.Digits
import PacScript.Proofs.Text.Pieces
import PacScript.Proofs.Text.Trim

/-!
# Dotted quads

A dotted quad holds nothing but digits and points (`isDigit_or_point_of_quad?`), so it is an address
as it stands (`parse?_of_quad?`). The quad of a number reads back as the number (`quad?_quadChars`),
and the text of an IPv4 address as the address (`parse?_text_v4`).
-/

namespace PacScript.Address

open PacScript.Text

variable {cs : List Char} {value : Nat}

/-! ## Reading -/

theorem of_octet? {o : Nat} (h : octet? cs = some o) :
    o ≤ 255 ∧ ∀ c ∈ cs, c.isDigit = true := by
  unfold octet? at h
  split_ifs at h with h1 h2 h3
  cases h
  simp only [Bool.or_eq_true, not_or, Bool.not_eq_true', Bool.not_eq_false] at h1
  exact ⟨by omega, List.all_eq_true.1 h1.1.2⟩

theorem of_quad? (h : quad? cs = some value) :
    value < 2 ^ 32 ∧ ∀ piece ∈ pieces '.' cs, ∀ c ∈ piece, c.isDigit = true := by
  unfold quad? at h
  split at h
  · rename_i a b c d hpieces
    simp only [Option.bind_eq_bind, Option.bind_eq_some_iff, Option.some.injEq] at h
    obtain ⟨oa, ha, ob, hb, oc, hc, od, hd, rfl⟩ := h
    have ha := of_octet? ha
    have hb := of_octet? hb
    have hc := of_octet? hc
    have hd := of_octet? hd
    refine ⟨by omega, fun piece hpiece => ?_⟩
    simp only [hpieces, List.mem_cons, List.not_mem_nil, or_false] at hpiece
    rcases hpiece with rfl | rfl | rfl | rfl
    · exact ha.2
    · exact hb.2
    · exact hc.2
    · exact hd.2
  · cases h

theorem isDigit_or_point_of_quad? (h : quad? cs = some value) :
    ∀ c ∈ cs, c.isDigit = true ∨ c = '.' := by
  intro c hc
  rcases mem_piecesBy_or (p := (· == '.')) hc with hpoint | ⟨piece, hpiece, hc⟩
  · exact Or.inr (by simpa using hpoint)
  · exact Or.inl ((of_quad? h).2 piece hpiece c hc)

theorem point_mem_of_quad? (h : quad? cs = some value) : '.' ∈ cs := by
  by_contra hnot
  unfold quad? at h
  rw [pieces_of_not_mem hnot] at h
  cases h

/-- Whatever tells digits and the point from other characters tells them from those of a quad. -/
theorem forall_of_quad? {p : Char → Prop} (h : quad? cs = some value)
    (hdigit : ∀ c : Char, c.isDigit = true → p c) (hpoint : p '.') : ∀ c ∈ cs, p c := by
  intro c hc
  rcases isDigit_or_point_of_quad? h c hc with hd | rfl
  · exact hdigit c hd
  · exact hpoint

theorem parse?_of_quad? {text : String} (h : quad? text.toList = some value) :
    parse? text = some (.v4 (BitVec.ofNat 32 value)) := by
  have htrim : trim text.toList = text.toList :=
    trimBy_of_none (forall_of_quad? h (fun _ => isBlank_of_isDigit) (by decide))
  have hopen : '[' ∉ text.toList := by
    intro hmem
    rcases isDigit_or_point_of_quad? h _ hmem with h | h <;> cases h
  have hbrackets : dropBrackets text.toList = text.toList := by
    have hhead : text.toList.head? ≠ some '[' := fun hh => hopen (List.mem_of_head? hh)
    simp [dropBrackets, hhead]
  rw [parse?, htrim, hbrackets, ofChars?, v4?, h]
  rfl

/-! ## Writing -/

theorem octet?_toDigits : ∀ o < 256, octet? (Nat.toDigits 10 o) = some o := by
  decide +kernel

theorem quad?_quadChars (h : value < 2 ^ 32) : quad? (quadChars value) = some value := by
  have hpieces : pieces '.' (quadChars value) = (octets value).map (Nat.toDigits 10) := by
    refine pieces_intercalate (fun x hx => ?_) (by simp [octets])
    obtain ⟨o, -, rfl⟩ := List.mem_map.1 hx
    intro hpoint
    cases List.all_eq_true.1 (all_isDigit_toDigits o) '.' hpoint
  have hoctet (shift : Nat) : octet? (Nat.toDigits 10 (value >>> shift % 256)) =
      some (value >>> shift % 256) := octet?_toDigits _ (Nat.mod_lt _ (by decide))
  simp only [quad?, hpieces, octets, List.map_cons, List.map_nil, hoctet, Option.bind_eq_bind,
    Option.bind_some, Option.some.injEq]
  simp only [Nat.shiftRight_eq_div_pow]
  omega

theorem quad?_text (value : BitVec 32) : quad? (text (.v4 value)).toList = some value.toNat := by
  rw [text, String.toList_ofList]
  exact quad?_quadChars value.isLt

theorem parse?_text_v4 (value : BitVec 32) : parse? (text (.v4 value)) = some (.v4 value) := by
  rw [parse?_of_quad? (quad?_text value), BitVec.ofNat_toNat, BitVec.setWidth_eq]

end PacScript.Address
