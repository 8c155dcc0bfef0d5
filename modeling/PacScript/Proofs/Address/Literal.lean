import PacScript.Proofs.Address.Quad

/-!
# Characters of IPv6 texts

An IPv6 text without zone is made of hexadecimal digits, colons and points
(`isLiteralChar_of_v6?`), and there is a colon in it, which no dotted quad has
(`colon_mem_of_v6?`).
-/

namespace PacScript.Address

open PacScript.Text

/-- A character of a group of an IPv6 text, or of the dotted quad in place of the last two. -/
def isGroupChar (c : Char) : Bool := isHexDigit c || c == '.'

theorem toNat_lt_of_isGroupChar {c : Char} (h : isGroupChar c = true) : c.toNat < 128 := by
  simp only [isGroupChar, isHexDigit, Bool.or_eq_true, Bool.and_eq_true, decide_eq_true_eq,
    beq_iff_eq, Char.le_def, UInt32.le_iff_toNat_le, Char.toNat_val] at h
  rcases h with ((hdigit | hsmall) | hcapital) | rfl
  · exact Nat.lt_of_le_of_lt (Char.isDigit_iff_toNat.1 hdigit).2 (by decide)
  · exact Nat.lt_of_le_of_lt hsmall.2 (by decide)
  · exact Nat.lt_of_le_of_lt hcapital.2 (by decide)
  · decide

theorem isGroupChar_of_group? {cs : List Char} {g : Nat} (h : group? cs = some g) :
    ∀ c ∈ cs, isGroupChar c = true := by
  unfold group? at h
  split_ifs at h with hg
  simp only [Bool.or_eq_true, not_or, Bool.not_eq_true', Bool.not_eq_false] at hg
  intro c hc
  simp [isGroupChar, List.all_eq_true.1 hg.1.2 c hc]

theorem isGroupChar_of_quad? {cs : List Char} {value : Nat} (h : quad? cs = some value) :
    ∀ c ∈ cs, isGroupChar c = true :=
  forall_of_quad? h (fun c hc => by simp [isGroupChar, isHexDigit, hc]) (by decide)

/-- Each piece between colons stands for one group, or the last one for two. -/
theorem of_groupsOf? {mayEndInQuad : Bool} : ∀ {parts : List (List Char)} {gs : List Nat},
    groupsOf? mayEndInQuad parts = some gs →
    (∀ part ∈ parts, ∀ c ∈ part, isGroupChar c = true) ∧ gs.length ≤ parts.length + 1
  | [], gs, h => by
    cases h
    simp
  | [last], gs, h => by
    simp only [groupsOf?] at h
    split at h
    · obtain ⟨value, hvalue, rfl⟩ := Option.map_eq_some_iff.1 h
      simpa using isGroupChar_of_quad? hvalue
    · obtain ⟨g, hg, rfl⟩ := Option.map_eq_some_iff.1 h
      simpa using isGroupChar_of_group? hg
  | first :: second :: rest, gs, h => by
    simp only [groupsOf?, Option.bind_eq_bind, Option.bind_eq_some_iff, Option.some.injEq] at h
    obtain ⟨g, hg, more, hmore, rfl⟩ := h
    have ih := of_groupsOf? hmore
    refine ⟨fun part hpart => ?_, ?_⟩
    · rcases List.mem_cons.1 hpart with rfl | hpart
      · exact isGroupChar_of_group? hg
      · exact ih.1 part hpart
    · simpa using ih.2

theorem of_groupRun? {mayEndInQuad : Bool} {cs : List Char} {gs : List Nat}
    (h : groupRun? mayEndInQuad cs = some gs) :
    (∀ c ∈ cs, isGroupChar c = true ∨ c = ':') ∧ (':' ∉ cs → gs.length ≤ 2) := by
  unfold groupRun? at h
  split at h
  · rename_i hempty
    cases h
    simp [List.isEmpty_iff.1 hempty]
  · have hgs := of_groupsOf? h
    refine ⟨fun c hc => ?_, fun hcolon => ?_⟩
    · rcases mem_piecesBy_or (p := (· == ':')) hc with hcolon | ⟨piece, hpiece, hc⟩
      · exact Or.inr (by simpa using hcolon)
      · exact Or.inl (hgs.1 piece hpiece c hc)
    · rw [pieces_of_not_mem hcolon] at hgs
      exact hgs.2

theorem eq_of_cutDouble? : ∀ {cs before after : List Char},
    cutDouble? cs = some (before, after) → cs = before ++ ':' :: ':' :: after
  | [], _, _, h => by cases h
  | [_], _, _, h => by cases h
  | a :: b :: rest, before, after, h => by
    simp only [cutDouble?] at h
    split at h
    · rename_i hab
      simp only [Bool.and_eq_true, beq_iff_eq] at hab
      cases h
      simp [hab]
    · obtain ⟨⟨before', after'⟩, hcut, he⟩ := Option.map_eq_some_iff.1 h
      cases he
      rw [eq_of_cutDouble? hcut, List.cons_append]

theorem of_v6Value? {cs : List Char} {value : Nat} (h : v6Value? cs = some value) :
    (∀ c ∈ cs, isGroupChar c = true ∨ c = ':') ∧ ':' ∈ cs := by
  unfold v6Value? at h
  split at h
  · simp only [Option.bind_eq_bind, Option.bind_eq_some_iff] at h
    obtain ⟨gs, hgs, h⟩ := h
    have hrun := of_groupRun? hgs
    refine ⟨hrun.1, ?_⟩
    by_contra hcolon
    have := hrun.2 hcolon
    split_ifs at h
    omega
  · rename_i before after hcut
    simp only [Option.bind_eq_bind, Option.bind_eq_some_iff] at h
    obtain ⟨high, hhigh, low, hlow, -⟩ := h
    rw [eq_of_cutDouble? hcut]
    refine ⟨fun c hc => ?_, by simp⟩
    simp only [List.mem_append, List.mem_cons] at hc
    rcases hc with hc | rfl | rfl | hc
    · exact (of_groupRun? hhigh).1 c hc
    · exact Or.inr rfl
    · exact Or.inr rfl
    · exact (of_groupRun? hlow).1 c hc

/-- An IPv6 text is a number, with a zone behind it or without. -/
theorem v6?_cases {cs : List Char} {a : Address} (h : v6? cs = some a) : '/' ∉ cs ∧
    ∃ value, ('%' ∉ cs ∧ v6Value? cs = some value ∧ a = .v6 (BitVec.ofNat 128 value) none) ∨
      ∃ number zone, cut? '%' cs = some (number, zone) ∧ zone ≠ [] ∧ '%' ∉ zone ∧
        v6Value? number = some value ∧
        a = .v6 (BitVec.ofNat 128 value) (some (String.ofList zone)) := by
  unfold v6? at h
  split at h
  · cases h
  · rename_i hslash
    refine ⟨by simpa using hslash, ?_⟩
    split at h
    · rename_i hcut
      obtain ⟨value, hvalue, rfl⟩ := Option.map_eq_some_iff.1 h
      exact ⟨value, Or.inl ⟨cut?_eq_none_iff.1 hcut, hvalue, rfl⟩⟩
    · rename_i number zone hcut
      split at h
      · cases h
      · rename_i hzone
        simp only [Bool.or_eq_true, List.isEmpty_iff, List.contains_iff_mem, not_or] at hzone
        obtain ⟨value, hvalue, rfl⟩ := Option.map_eq_some_iff.1 h
        exact ⟨value, Or.inr ⟨number, zone, hcut, hzone.1, hzone.2, hvalue, rfl⟩⟩

section Literal

variable {cs : List Char} {a : Address}

/-- The number at the front, of which all characters are known. -/
theorem exists_number (h : v6? cs = some a) : ∃ number rest value, cs = number ++ rest ∧
    v6Value? number = some value := by
  obtain ⟨-, value, ⟨-, hvalue, -⟩ | ⟨number, zone, hcut, -, -, hvalue, -⟩⟩ := v6?_cases h
  · exact ⟨cs, [], value, (List.append_nil cs).symm, hvalue⟩
  · exact ⟨number, '%' :: zone, value, (cut?_eq_some_iff.1 hcut).1, hvalue⟩

theorem isLiteralChar_of_v6? {value : BitVec 128} (h : v6? cs = some (.v6 value none)) :
    ∀ c ∈ cs, isGroupChar c = true ∨ c = ':' := by
  obtain ⟨-, n, ⟨-, hn, -⟩ | ⟨number, zone, -, -, -, -, he⟩⟩ := v6?_cases h
  · exact (of_v6Value? hn).1
  · cases he

theorem colon_mem_of_v6? (h : v6? cs = some a) : ':' ∈ cs := by
  obtain ⟨number, rest, value, rfl, hvalue⟩ := exists_number h
  exact List.mem_append_left rest (of_v6Value? hvalue).2

theorem head?_ne_of_v6? (h : v6? cs = some a) {c : Char} (hgroup : isGroupChar c = false)
    (hcolon : c ≠ ':') : cs.head? ≠ some c := by
  obtain ⟨number, rest, value, rfl, hvalue⟩ := exists_number h
  obtain ⟨hchars, hmem⟩ := of_v6Value? hvalue
  rw [List.head?_append_of_ne_nil _ (List.ne_nil_of_mem hmem)]
  intro hhead
  rcases hchars c (List.mem_of_head? hhead) with h | h
  · rw [hgroup] at h
    cases h
  · exact hcolon h

/-- A text of one family is none of the other. -/
theorem ofChars?_of_v6? (h : v6? cs = some a) : ofChars? cs = some a := by
  have hv4 : v4? cs = none := by
    rcases hquad : quad? cs with _ | n
    · simp [v4?, hquad]
    · rcases isDigit_or_point_of_quad? hquad _ (colon_mem_of_v6? h) with hc | hc <;> cases hc
  rw [ofChars?, hv4]
  exact h

theorem family_of_v6? (h : v6? cs = some a) : a.family = .v6 := by
  obtain ⟨-, value, ⟨-, -, rfl⟩ | ⟨number, zone, -, -, -, -, rfl⟩⟩ := v6?_cases h <;> rfl

theorem v6?_of_ofChars? (h : ofChars? cs = some a) (hfamily : a.family = .v6) : v6? cs = some a := by
  rw [ofChars?, v4?] at h
  rcases hquad : quad? cs with _ | value
  · rwa [hquad] at h
  · rw [hquad] at h
    obtain rfl := Option.some.inj h
    cases hfamily

end Literal

end PacScript.Address
