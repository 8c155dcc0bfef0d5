import PacScript.Proofs.Address.Decoration
import PacScript.Proofs.Text.Letters

/-!
# Printed addresses

The text of an address without zone is one of the grammar's, for the address (`literal_chars`). In
an IPv6 text the groups before and after the run that is left out, and the zeros of that run, are
the groups of the number (`longestZeroRun_split`, `ofGroups_groups`).

So the text reads back as the address, with white space around it and, for IPv6, in brackets
(`parse?_spaced`, `parse?_spaced_bracketed`).
-/

namespace PacScript.Address

open PacScript.Text

/-! ## Groups -/

theorem isGroup_toDigits {g : Nat} (h : g < 65536) : IsGroup (Nat.toDigits 16 g) g where
  ne_nil := Nat.toDigits_ne_nil
  length_le := (Nat.length_toDigits_le_iff (by decide) (by decide)).2 (by omega)
  hex := List.all_eq_true.2 (forall_mem_toDigits (by decide) (by decide) g)
  number := ofHexDigits_toDigits g

theorem groups_groupChars {q : Bool} : ∀ {gs : List Nat}, gs ≠ [] → (∀ g ∈ gs, g < 65536) →
    Groups q (groupChars gs) gs
  | [], hne, _ => absurd rfl hne
  | [g], _, h => by
    simpa [groupChars] using Groups.last (isGroup_toDigits (h g (by simp)))
  | g :: g' :: rest, _, h => by
    have ih := groups_groupChars (q := q) (List.cons_ne_nil g' rest)
      fun x hx => h x (List.mem_cons_of_mem g hx)
    simpa [groupChars] using Groups.cons (isGroup_toDigits (h g (by simp))) ih

theorem groupRun_groupChars {q : Bool} {gs : List Nat} (h : ∀ g ∈ gs, g < 65536) :
    GroupRun q (groupChars gs) gs := by
  rcases gs with _ | ⟨g, rest⟩
  · exact .none
  · exact .groups (groups_groupChars (List.cons_ne_nil g rest) h)

/-- A number is what stands above a group and the group. -/
theorem shiftRight_group (n shift : Nat) :
    n >>> (shift + 16) * 65536 + n >>> shift % 65536 = n >>> shift := by
  rw [Nat.shiftRight_add, Nat.shiftRight_eq_div_pow (n >>> shift) 16]
  exact Nat.div_add_mod' (n >>> shift) 65536

theorem ofGroups_groups {n : Nat} (h : n < 2 ^ 128) : ofGroups (groups n) = n := by
  -- nothing stands above the first group; the others join it one by one
  have htop : n >>> 112 % 65536 = n >>> 112 := by
    rw [Nat.shiftRight_eq_div_pow]
    exact Nat.mod_eq_of_lt (Nat.div_lt_of_lt_mul h)
  simp only [ofGroups, groups, List.map_cons, List.map_nil, List.foldl_cons, List.foldl_nil]
  rw [Nat.zero_mul, Nat.zero_add, htop, shiftRight_group n 96, shiftRight_group n 80,
    shiftRight_group n 64, shiftRight_group n 48, shiftRight_group n 32, shiftRight_group n 16,
    shiftRight_group n 0]
  rfl

/-! ## The run that is left out -/

/-- The zeros of the run stand where its place says. -/
theorem longestZeroRun_split : ∀ (start : Nat) (gs : List Nat), ∃ high low,
    gs = high ++ (List.replicate (longestZeroRun start gs).2 0 ++ low) ∧
      (longestZeroRun start gs).1 = start + high.length
  | start, [] => ⟨[], [], rfl, rfl⟩
  | start, g :: rest => by
    simp only [longestZeroRun]
    split
    · refine ⟨[], (g :: rest).dropWhile (· == 0), ?_, rfl⟩
      have hzeros : (g :: rest).takeWhile (· == 0) =
          List.replicate (leadingZeros (g :: rest)) 0 :=
        List.eq_replicate_iff.2 ⟨rfl, fun x hx => by simpa using List.mem_takeWhile_imp hx⟩
      rw [← hzeros]
      exact List.takeWhile_append_dropWhile.symm
    · obtain ⟨high, low, hrest, hplace⟩ := longestZeroRun_split (start + 1) rest
      refine ⟨g :: high, low, ?_, ?_⟩
      · rw [List.cons_append, ← hrest]
      · rw [hplace, List.length_cons]
        omega

theorem v6Number_compressed {gs : List Nat} (hlength : gs.length = 8) (h : ∀ g ∈ gs, g < 65536) :
    V6Number (compressed gs) (ofGroups gs) := by
  obtain ⟨high, low, hgs, hplace⟩ := longestZeroRun_split 0 gs
  unfold compressed
  rcases hrun : longestZeroRun 0 gs with ⟨place, count⟩
  rw [hrun] at hgs hplace
  simp only at hgs hplace ⊢
  split
  · -- no run is long enough to be left out
    exact .full (groups_groupChars (List.ne_nil_of_length_pos (by omega)) h) hlength
  · obtain rfl : place = high.length := by omega
    have htake : gs.take high.length = high := by rw [hgs, List.take_left]
    have hdrop : gs.drop (high.length + count) = low := by
      rw [hgs, ← List.append_assoc]
      exact List.drop_left' (by simp)
    have hcount : 8 - (high.length + low.length) = count := by
      rw [hgs] at hlength
      simp at hlength
      omega
    rw [htake, hdrop]
    have hhigh : GroupRun false (groupChars high) high :=
      groupRun_groupChars fun g hg => h g (by rw [hgs]; simp [hg])
    have hlow : GroupRun true (groupChars low) low :=
      groupRun_groupChars fun g hg => h g (by rw [hgs]; simp [hg])
    have hshort := V6Number.short hhigh hlow (by omega)
    rwa [hcount, List.append_assoc, ← hgs] at hshort

theorem lt_of_mem_groups {n g : Nat} (h : g ∈ groups n) : g < 65536 := by
  obtain ⟨shift, -, rfl⟩ := List.mem_map.1 h
  exact Nat.mod_lt _ (by decide)

/-! ## Addresses -/

/-- What is written for an address denotes it. -/
theorem literal_chars {a : Address} (h : a.hasZone = false) : Literal a.chars a := by
  rcases a with value | ⟨value, _ | zone⟩
  · exact .v4 value
  · have hnumber : V6Number (compressed (groups value.toNat)) (ofGroups (groups value.toNat)) :=
      v6Number_compressed rfl fun g hg => lt_of_mem_groups hg
    rw [ofGroups_groups value.isLt] at hnumber
    have hliteral := Literal.v6 hnumber
    rw [BitVec.ofNat_toNat, BitVec.setWidth_eq] at hliteral
    simpa [chars, zoneChars] using hliteral
  · cases h

theorem isBlank_of_isGroupChar {c : Char} (h : isGroupChar c = true) : isBlank c = false :=
  forall_ascii (p := fun c => isGroupChar c = true → isBlank c = false) (by decide)
    (toNat_lt_of_isGroupChar h) h

/-- A character of an address without zone. -/
def isAddressChar (c : Char) : Bool := isGroupChar c || c == ':'

theorem Literal.isAddressChar {cs : List Char} {a : Address} (h : Literal cs a)
    (hzone : a.hasZone = false) : ∀ c ∈ cs, Address.isAddressChar c = true := by
  intro c hc
  rw [Address.isAddressChar, Bool.or_eq_true, beq_iff_eq]
  cases h with
  | v4 value => exact Or.inl (isGroupChar_of_quad? (quad?_quadChars value.isLt) c hc)
  | v6 h => exact (of_v6Value? (v6Number_iff.1 h)).1 c hc
  | zoned h hne hzone' => cases hzone

theorem isBlank_of_isAddressChar {c : Char} (h : isAddressChar c = true) : isBlank c = false := by
  rw [isAddressChar, Bool.or_eq_true, beq_iff_eq] at h
  rcases h with h | rfl
  · exact isBlank_of_isGroupChar h
  · decide

theorem trim_of_literal {cs : List Char} {a : Address} (h : Literal cs a)
    (hzone : a.hasZone = false) : trim cs = cs :=
  trimBy_of_none fun c hc => isBlank_of_isAddressChar (h.isAddressChar hzone c hc)

theorem parse?_spaced {a : Address} {cs : List Char} (h : a.hasZone = false)
    (hcs : Spaced a.chars cs) : parse? (String.ofList cs) = some a := by
  have hliteral := literal_chars h
  rw [parse?_eq_some_iff, String.toList_ofList, hcs.trim_eq, trim_of_literal hliteral h]
  exact Or.inl hliteral

theorem parse?_spaced_bracketed {a : Address} {cs : List Char} (h : a.hasZone = false)
    (hcs : Spaced (bracketed a.chars) cs) : parse? (String.ofList cs) = some a := by
  have hliteral := literal_chars h
  have htrim : trim (bracketed a.chars) = bracketed a.chars := by
    refine trimBy_of_none fun c hc => ?_
    simp only [bracketed, List.mem_cons, List.mem_append, List.not_mem_nil, or_false] at hc
    rcases hc with rfl | hc | rfl
    · decide
    · exact isBlank_of_isAddressChar (hliteral.isAddressChar h c hc)
    · decide
  rw [parse?_eq_some_iff, String.toList_ofList, hcs.trim_eq, htrim]
  exact Or.inr ⟨a.chars, rfl, hliteral⟩

end PacScript.Address
