import PacScript.Host.Answers
import PacScript.Proofs.Address.Quad

/-!
# Contiguous masks

A mask of leading ones keeps just the leading bits, so words that agree under it are words whose
leading bits agree (`and_mask_eq_iff`). It does not matter how its length is given: as a decimal
number or as a dotted mask, the network of a dotted quad is the same (`parseList?_decimal`,
`parseList?_mask`).

Hence a test with a mask and a test with a prefix agree, and hold just of the IPv4 addresses with
those leading bits (`inNet_eq_anyContains`).
-/

namespace PacScript.Network

open PacScript.Text Address Answers

/-! ## Leading bits -/

theorem getLsbD_mask (width length i : Nat) :
    (mask width length).getLsbD i = (decide (i < width) && decide (width - length ≤ i)) := by
  rw [mask, BitVec.getLsbD_shiftLeft, BitVec.getLsbD_allOnes, Bool.eq_iff_iff]
  simp only [Bool.and_eq_true, Bool.not_eq_true', decide_eq_true_eq, decide_eq_false_iff_not]
  omega

/-- Words agree under a mask when their leading bits agree. -/
theorem and_mask_eq_iff {width length : Nat} (x y : BitVec width) :
    x &&& mask width length = y &&& mask width length ↔
      x.toNat >>> (width - length) = y.toNat >>> (width - length) := by
  rw [← BitVec.toNat_ushiftRight, ← BitVec.toNat_ushiftRight, BitVec.toNat_inj]
  constructor
  · intro h
    refine BitVec.eq_of_getLsbD_eq fun i _ => ?_
    -- bit `i` of what is left after the shift stands higher by the number of masked bits
    have hbit := congrArg (fun w => w.getLsbD (width - length + i)) h
    simp only [BitVec.getLsbD_and, getLsbD_mask, Nat.le_add_right, decide_true, Bool.and_true]
      at hbit
    rw [BitVec.getLsbD_ushiftRight, BitVec.getLsbD_ushiftRight]
    rcases Nat.lt_or_ge (width - length + i) width with hi | hi
    · simpa [hi] using hbit
    · rw [BitVec.getLsbD_of_ge x _ hi, BitVec.getLsbD_of_ge y _ hi]
  · intro h
    refine BitVec.eq_of_getLsbD_eq fun i hi => ?_
    simp only [BitVec.getLsbD_and, getLsbD_mask]
    rcases Nat.lt_or_ge i (width - length) with hl | hl
    · simp only [decide_eq_false (Nat.not_le_of_lt hl), Bool.and_false]
    · have hbit := congrArg (fun w => w.getLsbD (i - (width - length))) h
      simp only [BitVec.getLsbD_ushiftRight, Nat.add_sub_cancel' hl] at hbit
      rw [hbit]

theorem lengthOfMask?_mask : ∀ length ≤ 32, lengthOfMask? (mask 32 length) = some length := by
  decide +kernel

/-! ## Networks as texts -/

theorem length?_toDigits {width length : Nat} (h : length ≤ width) (hwidth : width < 1000) :
    length? width (Nat.toDigits 10 length) = some length := by
  have hne : (Nat.toDigits 10 length).isEmpty = false := by simp [Nat.toDigits_ne_nil]
  have hshort : (Nat.toDigits 10 length).length ≤ 3 :=
    (Nat.length_toDigits_le_iff (by decide) (by decide)).2 (by omega)
  have hlimit : ¬(Nat.toDigits 10 length).length > Numeral.digitLimit := by
    simp only [Numeral.digitLimit]
    omega
  simp [length?, hne, all_isDigit_toDigits, hlimit, ofDigits_toDigits, h]

theorem length?_eq_none_of_quad? {cs : List Char} {value : Nat} (h : quad? cs = some value)
    (width : Nat) : length? width cs = none := by
  have hall : cs.all Char.isDigit = false := by
    rw [List.all_eq_false]
    exact ⟨'.', point_mem_of_quad? h, by decide⟩
  simp [length?, hall]

/-- The suffix of a network of a dotted quad, in either form. -/
theorem ofChars?_of_suffix {address suffix : List Char} {base length : Nat}
    (haddress : quad? address = some base) (hslash : '/' ∉ suffix)
    (hsuffix : ((length? 32 suffix).orElse fun _ => lengthOfQuad? suffix) = some length) :
    ofChars? (address ++ '/' :: suffix) = some (ofAddress (.v4 (BitVec.ofNat 32 base)) length) := by
  have hpieces : pieces '/' (address ++ '/' :: suffix) = [address, suffix] := by
    have haddress : '/' ∉ address := by
      intro hmem
      rcases isDigit_or_point_of_quad? haddress _ hmem with h | h <;> cases h
    exact pieces_append_cons haddress hslash
  have hread : v4? address (some suffix) =
      some (ofAddress (.v4 (BitVec.ofNat 32 base)) length) := by
    simp only [v4?, Address.v4?, haddress, hsuffix]
    rfl
  simp only [ofChars?, hpieces, hread]
  rfl

/-- A text without separators and white space is a list of one entry. -/
theorem parseList?_of_single {text : String} {n : Network}
    (h : ∀ c ∈ text.toList, (c == ',' || c == ';') = false ∧ isBlank c = false)
    (hn : ofChars? text.toList = some n) : parseList? text = some [n] := by
  have hne : text.toList ≠ [] := by
    intro hnil
    rw [hnil] at hn
    cases hn
  have hentries : entries text.toList = [text.toList] := by
    rw [entries, piecesBy_of_none fun c hc => (h c hc).1, List.map_singleton, trim,
      trimBy_of_none fun c hc => (h c hc).2]
    simp [hne]
  simp [parseList?, hentries, hn]

/-- Whatever tells a character from both separators. -/
theorem not_separator_of {p : Char → Bool} {c : Char} (hc : p c = true) (hcomma : p ',' = false)
    (hsemicolon : p ';' = false) : (c == ',' || c == ';') = false := by
  rw [Bool.or_eq_false_iff, beq_eq_false_iff_ne, beq_eq_false_iff_ne]
  constructor
  · rintro rfl
    rw [hcomma] at hc
    cases hc
  · rintro rfl
    rw [hsemicolon] at hc
    cases hc

/-- A character of a network in either form of its prefix. -/
theorem plain_of_isDigit_or {c : Char} (h : c.isDigit = true ∨ c = '.' ∨ c = '/') :
    (c == ',' || c == ';') = false ∧ isBlank c = false := by
  rcases h with h | rfl | rfl
  · exact ⟨not_separator_of h (by decide) (by decide), isBlank_of_isDigit h⟩
  · decide
  · decide

section Suffix

variable {pattern : String} {base length : Nat} (hpattern : quad? pattern.toList = some base)

include hpattern

theorem parseList?_of_suffix {suffix : String}
    (hchars : ∀ c ∈ suffix.toList, c.isDigit = true ∨ c = '.')
    (hsuffix : ((length? 32 suffix.toList).orElse fun _ => lengthOfQuad? suffix.toList) =
      some length) :
    parseList? (pattern ++ "/" ++ suffix) =
      some [ofAddress (.v4 (BitVec.ofNat 32 base)) length] := by
  have htext : (pattern ++ "/" ++ suffix).toList = pattern.toList ++ '/' :: suffix.toList := by
    simp
  refine parseList?_of_single (fun c hc => plain_of_isDigit_or ?_) ?_
  · rw [htext, List.mem_append, List.mem_cons] at hc
    rcases hc with hc | rfl | hc
    · exact (isDigit_or_point_of_quad? hpattern c hc).imp_right Or.inl
    · exact Or.inr (Or.inr rfl)
    · exact (hchars c hc).imp_right Or.inl
  · rw [htext]
    refine ofChars?_of_suffix hpattern (fun hmem => ?_) hsuffix
    rcases hchars _ hmem with h | h <;> cases h

variable (hlength : length ≤ 32)

include hlength

theorem parseList?_decimal : parseList? (pattern ++ "/" ++ toString length) =
    some [ofAddress (.v4 (BitVec.ofNat 32 base)) length] := by
  have htext : (toString length).toList = Nat.toDigits 10 length := Nat.toList_repr
  refine parseList?_of_suffix hpattern (fun c hc => ?_) ?_
  · rw [htext] at hc
    exact Or.inl (List.all_eq_true.1 (all_isDigit_toDigits length) c hc)
  · rw [htext, length?_toDigits hlength (by decide)]
    rfl

theorem parseList?_mask : parseList? (pattern ++ "/" ++ Address.text (.v4 (mask 32 length))) =
    some [ofAddress (.v4 (BitVec.ofNat 32 base)) length] := by
  have hquad := quad?_text (mask 32 length)
  refine parseList?_of_suffix hpattern (isDigit_or_point_of_quad? hquad) ?_
  rw [length?_eq_none_of_quad? hquad, lengthOfQuad?, hquad]
  simp [lengthOfMask?_mask length hlength]

end Suffix

/-! ## Membership -/

/-- For a contiguous mask, a test with the mask and tests with a prefix, in either form of its
length, agree on every address. They hold of the IPv4 addresses whose leading bits are those of the
pattern, and of no IPv6 address. -/
theorem inNet_eq_anyContains (a : Address) {pattern : String} {base length : Nat}
    (hpattern : quad? pattern.toList = some base) (hlength : length ≤ 32) :
    ∃ inside : Bool,
      (inside = true ↔ ∃ value, a = .v4 value ∧
        value.toNat >>> (32 - length) = base >>> (32 - length)) ∧
      inNet a pattern (Address.text (.v4 (mask 32 length))) = .ok inside ∧
      (parseList? (pattern ++ "/" ++ toString length)).map (anyContains · [a]) = some inside ∧
      (parseList? (pattern ++ "/" ++ Address.text (.v4 (mask 32 length)))).map
        (anyContains · [a]) = some inside := by
  have hbase : (BitVec.ofNat 32 base).toNat = base :=
    Nat.mod_eq_of_lt (of_quad? hpattern).1
  rw [parseList?_decimal hpattern hlength, parseList?_mask hpattern hlength, inNet,
    parse?_of_quad? hpattern, parse?_text_v4]
  cases a with
  | v4 value =>
    refine ⟨value &&& mask 32 length == BitVec.ofNat 32 base &&& mask 32 length, ?_, rfl, ?_, ?_⟩
    · rw [beq_iff_eq, and_mask_eq_iff, hbase]
      simp
    · simp [anyContains, ofAddress, contains]
    · simp [anyContains, ofAddress, contains]
  | v6 value zone =>
    refine ⟨false, by simp, rfl, ?_, ?_⟩
    · rfl
    · rfl

/-- The host bits of the pattern do not matter. -/
theorem inNet_eq_anyContains_twenty :
    quad? "10.1.2.3".toList = some 0x0a010203 ∧ 20 ≤ 32 ∧
    inNet (.v4 0x0a010fff) "10.1.2.3" "255.255.240.0" = .ok true ∧
    (parseList? "10.1.2.3/20").map (anyContains · [.v4 0x0a010fff]) = some true ∧
    (parseList? "10.1.2.3/255.255.240.0").map (anyContains · [.v4 0x0a010fff]) = some true := by
  have hpattern : quad? "10.1.2.3".toList = some 0x0a010203 := by decide +kernel
  have hmask : Address.text (.v4 (mask 32 20)) = "255.255.240.0" := by decide +kernel
  have hlength : 20 ≤ 32 := by decide
  obtain ⟨inside, hinside, hnet, hdecimal, hquad⟩ :=
    inNet_eq_anyContains (.v4 0x0a010fff) hpattern hlength
  obtain rfl : inside = true := hinside.2 ⟨_, rfl, by decide⟩
  rw [hmask] at hnet hquad
  exact ⟨hpattern, hlength, hnet, hdecimal, hquad⟩

end PacScript.Network
