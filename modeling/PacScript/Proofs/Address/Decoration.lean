import PacScript.Proofs.Address.Grammar

/-!
# What may stand around an address

White space around an address is dropped, and then brackets at both ends (`parse?_eq_some_iff`).
Brackets are meant for IPv6 addresses (`Tolerated`), but they are dropped before anything is known
about what they hold: a dotted quad in brackets is read too, and nothing else that is not tolerated
(`parse?_tolerated_iff`).
-/

namespace PacScript.Address

open PacScript.Text

variable {cs : List Char} {a : Address}

/-- The text in brackets. -/
def bracketed (cs : List Char) : List Char := '[' :: (cs ++ [']'])

theorem dropBrackets_of_head? (h : cs.head? ≠ some '[') : dropBrackets cs = cs := by
  simp [dropBrackets, h]

theorem getLast?_cons_concat (first last : Char) (cs : List Char) :
    (first :: (cs ++ [last])).getLast? = some last := by
  rw [← List.cons_append, List.getLast?_concat]

theorem dropBrackets_bracketed (cs : List Char) : dropBrackets (bracketed cs) = cs := by
  simp [dropBrackets, bracketed, getLast?_cons_concat]

/-- Either nothing is dropped, or both brackets are. -/
theorem dropBrackets_cases (cs : List Char) :
    dropBrackets cs = cs ∨ cs = bracketed (dropBrackets cs) := by
  unfold dropBrackets
  split
  · rename_i h
    refine Or.inr ?_
    simp only [Bool.and_eq_true, beq_iff_eq] at h
    rcases cs with _ | ⟨c, rest⟩
    · cases h.1
    · obtain rfl : c = '[' := by simpa using h.1
      rcases List.eq_nil_or_concat rest with rfl | ⟨inner, last, rfl⟩
      · cases h.2
      · obtain rfl : last = ']' := by simpa [getLast?_cons_concat] using h.2
        simp [bracketed]
  · exact Or.inl rfl

theorem Literal.head?_ne (h : Literal cs a) : cs.head? ≠ some '[' := by
  rcases hv6 : v6? cs with _ | b
  · have hquad : quad? cs ≠ none := by
      intro hnone
      have h := literal_iff.1 h
      rw [ofChars?, v4?, hnone] at h
      rw [show v6? cs = some a from h] at hv6
      cases hv6
    obtain ⟨value, hvalue⟩ := Option.ne_none_iff_exists'.1 hquad
    intro hhead
    rcases isDigit_or_point_of_quad? hvalue _ (List.mem_of_head? hhead) with hc | hc <;> cases hc
  · exact head?_ne_of_v6? hv6 (by decide) (by decide)

/-- An address may have white space around it, and brackets inside of that. -/
theorem parse?_eq_some_iff {text : String} : parse? text = some a ↔
    Literal (trim text.toList) a ∨ ∃ inner, trim text.toList = bracketed inner ∧ Literal inner a := by
  rw [parse?, ← literal_iff]
  constructor
  · intro h
    rcases dropBrackets_cases (trim text.toList) with hcs | hcs
    · exact Or.inl (hcs ▸ h)
    · exact Or.inr ⟨_, hcs, h⟩
  · rintro (h | ⟨inner, hcs, h⟩)
    · rwa [dropBrackets_of_head? h.head?_ne]
    · rwa [hcs, dropBrackets_bracketed]

/-- The trimmed texts that are meant to be addresses: brackets are for IPv6 only. -/
inductive Tolerated : List Char → Address → Prop
  | plain {cs : List Char} {a : Address} (h : Literal cs a) : Tolerated cs a
  | bracketed {cs : List Char} {a : Address} (h : Literal cs a) (hfamily : a.family = .v6) :
      Tolerated (bracketed cs) a

theorem not_tolerated_bracketed_quad (value : BitVec 32) :
    ¬Tolerated (bracketed (quadChars value.toNat)) a := by
  generalize hcs : bracketed (quadChars value.toNat) = cs
  rintro (h | ⟨h, hfamily⟩)
  · exact h.head?_ne (by rw [← hcs]; rfl)
  · rename_i inner
    obtain rfl : quadChars value.toNat = inner := by
      rw [← dropBrackets_bracketed inner, ← hcs, dropBrackets_bracketed]
    have hsame := (literal_iff.1 (Literal.v4 value)).symm.trans (literal_iff.1 h)
    obtain rfl := Option.some.inj hsame
    cases hfamily

/-- A text is an address just when it is meant to be one, as the address that is meant, unless it is
a dotted quad in brackets: this is not meant to be an address, and yet is read. -/
theorem parse?_tolerated_iff (text : String) :
    (∀ a, parse? text = some a ↔ Tolerated (trim text.toList) a ∨
      ∃ value, trim text.toList = bracketed (quadChars value.toNat) ∧ a = .v4 value) ∧
    (((parse? text).isSome = true ↔ ∃ a, Tolerated (trim text.toList) a) ↔
      ∀ value : BitVec 32, trim text.toList ≠ bracketed (quadChars value.toNat)) := by
  have hread (a : Address) : parse? text = some a ↔ Tolerated (trim text.toList) a ∨
      ∃ value, trim text.toList = bracketed (quadChars value.toNat) ∧ a = .v4 value := by
    rw [parse?_eq_some_iff]
    constructor
    · rintro (h | ⟨inner, hcs, h⟩)
      · exact Or.inl (.plain h)
      · rw [hcs]
        cases h with
        | v4 value => exact Or.inr ⟨value, rfl, rfl⟩
        | v6 h => exact Or.inl (.bracketed (.v6 h) rfl)
        | zoned h hne hzone => exact Or.inl (.bracketed (.zoned h hne hzone) rfl)
    · rintro (h | ⟨value, hcs, rfl⟩)
      · generalize trim text.toList = cs at h
        cases h with
        | plain h => exact Or.inl h
        | bracketed h hfamily => exact Or.inr ⟨_, rfl, h⟩
      · exact Or.inr ⟨_, hcs, .v4 value⟩
  refine ⟨hread, ?_⟩
  simp only [Option.isSome_iff_exists, hread]
  constructor
  · intro h value hcs
    obtain ⟨a, ha⟩ := h.1 ⟨.v4 value, Or.inr ⟨value, hcs, rfl⟩⟩
    rw [hcs] at ha
    exact not_tolerated_bracketed_quad value ha
  · intro hnone
    refine exists_congr fun a => ⟨fun h => h.resolve_right ?_, Or.inl⟩
    rintro ⟨value, hcs, -⟩
    exact hnone value hcs

/-- A dotted quad in brackets is read, though it is not meant to be an address. -/
theorem parse?_bracketed_quad : parse? "[10.0.0.1]" = some (.v4 0x0a000001) ∧
    ¬∃ a, Tolerated (trim "[10.0.0.1]".toList) a := by
  have htext : trim "[10.0.0.1]".toList =
      bracketed (quadChars (0x0a000001 : BitVec 32).toNat) := by
    decide +kernel
  refine ⟨by decide +kernel, ?_⟩
  rintro ⟨a, h⟩
  rw [htext] at h
  exact not_tolerated_bracketed_quad _ h

end PacScript.Address
