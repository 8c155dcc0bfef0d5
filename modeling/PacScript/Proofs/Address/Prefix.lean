import PacScript.Proofs.Address.Literal
import PacScript.Proofs.Address.Mask

/-!
# Prefixes in texts

What an entry of a list of prefixes may be is an address, alone or with a length in one of three
notations (`Length`, `Written`), and these are the entries that are read (`ofChars?_eq_some_iff`).
A list of prefixes is as good as the families, lengths and leading bits in it (`Holds`): they decide
which addresses it contains (`anyContains_iff`), and lists in which the same ones are written are
the same test (`map_anyContains_congr`).
-/

namespace PacScript.Network

open PacScript.Text Address

variable {cs address suffix : List Char} {length value : Nat} {n : Network}

/-- The length that a suffix gives to a prefix: in decimal or, for IPv4, by a quad whose ones are
the network part or, unless there are none or nothing else, the host part. -/
inductive Length : Family → List Char → Nat → Prop
  | decimal {f : Family} {digits : List Char} (hne : digits ≠ [])
      (hdigits : digits.all Char.isDigit = true) (hlimit : digits.length ≤ Numeral.digitLimit)
      (hwidth : ofDigits digits ≤ f.width) : Length f digits (ofDigits digits)
  | netmask {quad : List Char} {length : Nat} (hlength : length ≤ 32)
      (h : quad? quad = some (2 ^ 32 - 2 ^ (32 - length))) : Length .v4 quad length
  | hostmask {quad : List Char} {length : Nat} (hpos : 0 < length) (hlength : length < 32)
      (h : quad? quad = some (2 ^ (32 - length) - 1)) : Length .v4 quad length

/-- A well-formed entry: an address, or an address and the length of a prefix. -/
inductive Written : List Char → Address → Nat → Prop
  | address {cs : List Char} {a : Address} (h : Address.ofChars? cs = some a) :
      Written cs a a.family.width
  | range {cs suffix : List Char} {a : Address} {length : Nat}
      (h : Address.ofChars? cs = some a) (hlength : Length a.family suffix length) :
      Written (cs ++ '/' :: suffix) a length

/-! ## Masks -/

theorem ofNat_eq_mask_iff (hvalue : value < 2 ^ 32) (hlength : length ≤ 32) :
    BitVec.ofNat 32 value = mask 32 length ↔ value = 2 ^ 32 - 2 ^ (32 - length) := by
  have hmask : ∀ length ≤ 32, (mask 32 length).toNat = 2 ^ 32 - 2 ^ (32 - length) := by
    decide +kernel
  rw [← BitVec.toNat_inj, BitVec.toNat_ofNat, Nat.mod_eq_of_lt hvalue, hmask length hlength]

theorem ofNat_eq_not_mask_iff (hvalue : value < 2 ^ 32) (hlength : length ≤ 32) :
    BitVec.ofNat 32 value = ~~~mask 32 length ↔ value = 2 ^ (32 - length) - 1 := by
  have hmask : ∀ length ≤ 32, (~~~mask 32 length).toNat = 2 ^ (32 - length) - 1 := by
    decide +kernel
  rw [← BitVec.toNat_inj, BitVec.toNat_ofNat, Nat.mod_eq_of_lt hvalue, hmask length hlength]

theorem lengthOfMask?_eq_some_iff {word : BitVec 32} :
    lengthOfMask? word = some length ↔ length ≤ 32 ∧ word = mask 32 length := by
  constructor
  · intro h
    have hrange := List.mem_range.1 (List.mem_of_find?_eq_some h)
    have hmask := List.find?_some h
    exact ⟨by omega, (eq_of_beq hmask).symm⟩
  · rintro ⟨hlength, rfl⟩
    exact lengthOfMask?_mask length hlength

/-- The complement of a mask is a mask itself only if it has no ones or nothing else. -/
theorem lengthOfMask?_not_mask : ∀ length ≤ 32, lengthOfMask? (~~~mask 32 length) =
    if length = 0 then some 32 else if length = 32 then some 0 else none := by
  decide +kernel

theorem lengthOfQuad?_eq_some_iff (hquad : quad? suffix = some value) :
    lengthOfQuad? suffix = some length ↔
      length ≤ 32 ∧ value = 2 ^ 32 - 2 ^ (32 - length) ∨
        0 < length ∧ length < 32 ∧ value = 2 ^ (32 - length) - 1 := by
  have hvalue := (of_quad? hquad).1
  have hread : lengthOfQuad? suffix = (lengthOfMask? (BitVec.ofNat 32 value)).orElse
      fun _ => lengthOfMask? (~~~BitVec.ofNat 32 value) := by
    simp [lengthOfQuad?, hquad]
  rw [hread]
  rcases hmask : lengthOfMask? (BitVec.ofNat 32 value) with _ | m
  · show lengthOfMask? (~~~BitVec.ofNat 32 value) = some length ↔ _
    constructor
    · intro h
      obtain ⟨hlength, hword⟩ := lengthOfMask?_eq_some_iff.1 h
      have hword : BitVec.ofNat 32 value = ~~~mask 32 length := by rw [← hword, BitVec.not_not]
      rw [hword, lengthOfMask?_not_mask length hlength] at hmask
      split_ifs at hmask with h0 h32
      exact Or.inr ⟨by omega, by omega, (ofNat_eq_not_mask_iff hvalue hlength).1 hword⟩
    · rintro (⟨hlength, hmasked⟩ | ⟨hpos, hlength, hhost⟩)
      · rw [(ofNat_eq_mask_iff hvalue hlength).2 hmasked, lengthOfMask?_mask length hlength]
          at hmask
        cases hmask
      · rw [(ofNat_eq_not_mask_iff hvalue (by omega)).2 hhost, BitVec.not_not]
        exact lengthOfMask?_mask length (by omega)
  · show some m = some length ↔ _
    obtain ⟨hm, hword⟩ := lengthOfMask?_eq_some_iff.1 hmask
    constructor
    · intro h
      cases h
      exact Or.inl ⟨hm, (ofNat_eq_mask_iff hvalue hm).1 hword⟩
    · rintro (⟨hlength, hmasked⟩ | ⟨hpos, hlength, hhost⟩)
      · rw [← hmask, (ofNat_eq_mask_iff hvalue hlength).2 hmasked]
        exact lengthOfMask?_mask length hlength
      · rw [(ofNat_eq_not_mask_iff hvalue (by omega)).2 hhost,
          lengthOfMask?_not_mask length (by omega), if_neg (by omega), if_neg (by omega)] at hmask
        cases hmask

/-! ## Lengths -/

theorem length?_eq_some_iff {f : Family} : length? f.width cs = some length ↔
    cs ≠ [] ∧ cs.all Char.isDigit = true ∧ cs.length ≤ Numeral.digitLimit ∧
      ofDigits cs ≤ f.width ∧ ofDigits cs = length := by
  unfold length?
  split_ifs with hform hwidth
  · simp only [Bool.or_eq_true, List.isEmpty_iff, Bool.not_eq_true', decide_eq_true_eq] at hform
    constructor
    · intro h
      cases h
    · rintro ⟨hne, hdigits, hlimit, -⟩
      rcases hform with (hempty | hother) | hlong
      · exact absurd hempty hne
      · rw [hdigits] at hother
        cases hother
      · omega
  · simp only [Bool.or_eq_true, List.isEmpty_iff, Bool.not_eq_true', decide_eq_true_eq, not_or,
      Bool.not_eq_false] at hform
    exact ⟨fun h => ⟨hform.1.1, hform.1.2, by omega, hwidth, Option.some.inj h⟩,
      fun h => congrArg some h.2.2.2.2⟩
  · constructor
    · intro h
      cases h
    · exact fun h => absurd h.2.2.2.1 hwidth

theorem length_v6_iff : length? 128 suffix = some length ↔ Length .v6 suffix length := by
  constructor
  · intro h
    obtain ⟨hne, hdigits, hlimit, hwidth, rfl⟩ := (length?_eq_some_iff (f := .v6)).1 h
    exact .decimal hne hdigits hlimit hwidth
  · intro h
    cases h with
    | decimal hne hdigits hlimit hwidth =>
      exact (length?_eq_some_iff (f := .v6)).2 ⟨hne, hdigits, hlimit, hwidth, rfl⟩

/-- A quad holds points, so it is no number; only where there is no number is a quad looked for. -/
theorem length_v4_iff : ((length? 32 suffix).orElse fun _ => lengthOfQuad? suffix) = some length ↔
    Length .v4 suffix length := by
  constructor
  · intro h
    rcases hdecimal : length? 32 suffix with _ | m
    · rw [hdecimal] at h
      have h : lengthOfQuad? suffix = some length := h
      rcases hquad : quad? suffix with _ | value
      · simp [lengthOfQuad?, hquad] at h
      · rcases (lengthOfQuad?_eq_some_iff hquad).1 h with
          ⟨hlength, rfl⟩ | ⟨hpos, hlength, rfl⟩
        · exact .netmask hlength hquad
        · exact .hostmask hpos hlength hquad
    · rw [hdecimal] at h
      cases h
      obtain ⟨hne, hdigits, hlimit, hwidth, rfl⟩ := (length?_eq_some_iff (f := .v4)).1 hdecimal
      exact .decimal hne hdigits hlimit hwidth
  · intro h
    cases h with
    | decimal hne hdigits hlimit hwidth =>
      have hdecimal := (length?_eq_some_iff (f := .v4)).2 ⟨hne, hdigits, hlimit, hwidth, rfl⟩
      rw [Family.width] at hdecimal
      rw [hdecimal]
      rfl
    | netmask hlength hquad =>
      rw [length?_eq_none_of_quad? hquad]
      exact (lengthOfQuad?_eq_some_iff hquad).2 (Or.inl ⟨hlength, rfl⟩)
    | hostmask hpos hlength hquad =>
      rw [length?_eq_none_of_quad? hquad]
      exact (lengthOfQuad?_eq_some_iff hquad).2 (Or.inr ⟨hpos, hlength, rfl⟩)

/-! ## Entries -/

theorem v6?_eq_none_of_quad? (h : quad? cs = some value) : Address.v6? cs = none := by
  rcases hv6 : Address.v6? cs with _ | a
  · rfl
  · rcases isDigit_or_point_of_quad? h _ (colon_mem_of_v6? hv6) with hc | hc <;> cases hc

theorem ofChars?_of_quad? (h : quad? cs = some value) :
    Address.ofChars? cs = some (.v4 (BitVec.ofNat 32 value)) := by
  rw [Address.ofChars?, Address.v4?, h]
  rfl

theorem ofChars?_of_not_quad (h : quad? cs = none) : Address.ofChars? cs = Address.v6? cs := by
  rw [Address.ofChars?, Address.v4?, h]
  rfl

theorem slash_not_mem_of_ofChars? {a : Address} (h : Address.ofChars? cs = some a) : '/' ∉ cs := by
  rcases hquad : quad? cs with _ | value
  · rw [ofChars?_of_not_quad hquad] at h
    exact (v6?_cases h).1
  · intro hmem
    rcases isDigit_or_point_of_quad? hquad _ hmem with hc | hc <;> cases hc

theorem slash_not_mem_of_length {f : Family} (h : Length f suffix length) : '/' ∉ suffix := by
  intro hmem
  cases h with
  | decimal hne hdigits hlimit hwidth => cases List.all_eq_true.1 hdigits _ hmem
  | netmask hlength hquad | hostmask hpos hlength hquad =>
    rcases isDigit_or_point_of_quad? hquad _ hmem with hc | hc <;> cases hc

theorem read_address : ((v4? address none).orElse fun _ => v6? address none) =
    (Address.ofChars? address).map fun a => ofAddress a a.family.width := by
  rcases hquad : quad? address with _ | value
  · rw [ofChars?_of_not_quad hquad]
    simp only [v4?, Address.v4?, hquad]
    rcases hv6 : Address.v6? address with _ | a
    · simp [v6?, hv6]
    · simp [v6?, hv6, family_of_v6? hv6, Family.width]
  · rw [ofChars?_of_quad? hquad]
    simp only [v4?, Address.v4?, hquad]
    rfl

theorem read_range : ((v4? address (some suffix)).orElse fun _ => v6? address (some suffix)) =
    some n ↔ ∃ a length, Address.ofChars? address = some a ∧ Length a.family suffix length ∧
      ofAddress a length = n := by
  rcases hquad : quad? address with _ | value
  · rw [ofChars?_of_not_quad hquad]
    simp only [v4?, v6?, Address.v4?, hquad]
    rcases hv6 : Address.v6? address with _ | a
    · simp
    · simp [← length_v6_iff, family_of_v6? hv6, Option.bind_eq_some_iff]
  · have hv6 := v6?_eq_none_of_quad? hquad
    rw [ofChars?_of_quad? hquad]
    simp only [v4?, v6?, Address.v4?, hquad, hv6]
    simp [← length_v4_iff, Address.family, Option.bind_eq_some_iff]

/-- The entries that are read are the well-formed ones. -/
theorem ofChars?_eq_some_iff :
    ofChars? cs = some n ↔ ∃ a length, Written cs a length ∧ ofAddress a length = n := by
  constructor
  · intro h
    have hcs := intercalate_pieces '/' cs
    unfold ofChars? at h
    simp only at h
    split at h
    · rename_i address hpieces
      rw [hpieces] at hcs
      obtain rfl : address = cs := by simpa using hcs
      rw [read_address] at h
      obtain ⟨a, ha, rfl⟩ := Option.map_eq_some_iff.1 h
      exact ⟨a, _, .address ha, rfl⟩
    · rename_i address suffix hpieces
      rw [hpieces] at hcs
      obtain rfl : address ++ '/' :: suffix = cs := by simpa using hcs
      obtain ⟨a, length, ha, hlength, rfl⟩ := read_range.1 h
      exact ⟨a, length, .range ha hlength, rfl⟩
    · cases h
  · rintro ⟨a, length, hwritten, rfl⟩
    cases hwritten with
    | address h =>
      have hpieces := pieces_of_not_mem (slash_not_mem_of_ofChars? h)
      simp only [ofChars?, hpieces, read_address, h]
      rfl
    | range h hlength =>
      have hpieces := pieces_append_cons (slash_not_mem_of_ofChars? h)
        (slash_not_mem_of_length hlength)
      simp only [ofChars?, hpieces]
      exact read_range.2 ⟨a, length, h, hlength, rfl⟩

/-! ## Lists -/

/-- An address is in a network when it has the family and the leading bits of its base. -/
theorem contains_ofAddress_iff (b a : Address) (length : Nat) :
    (ofAddress b length).contains a = true ↔ b.family = a.family ∧
      b.toNat >>> (a.family.width - length) = a.toNat >>> (a.family.width - length) := by
  rcases b with b | ⟨b, zone⟩ <;> rcases a with a | ⟨a, zone'⟩
  · show (a &&& mask 32 length == b &&& mask 32 length) = true ↔ _
    rw [beq_iff_eq, and_mask_eq_iff]
    exact ⟨fun h => ⟨rfl, h.symm⟩, fun h => h.2.symm⟩
  · constructor
    · intro h
      cases h
    · rintro ⟨h, -⟩
      cases h
  · constructor
    · intro h
      cases h
    · rintro ⟨h, -⟩
      cases h
  · show (a &&& mask 128 length == b &&& mask 128 length) = true ↔ _
    rw [beq_iff_eq, and_mask_eq_iff]
    exact ⟨fun h => ⟨rfl, h.symm⟩, fun h => h.2.symm⟩

/-- A prefix of the family, with that length and those leading bits, is written in the text. -/
def Holds (text : String) (f : Family) (length bits : Nat) : Prop :=
  ∃ entry ∈ entries text.toList, ∃ b, Written entry b length ∧ b.family = f ∧
    b.toNat >>> (f.width - length) = bits

/-- Family, length and leading bits of a network. -/
def leading : Network → Family × Nat × Nat
  | .v4 base length => (.v4, length, base.toNat >>> (32 - length))
  | .v6 base _ length => (.v6, length, base.toNat >>> (128 - length))

/-- Clearing the host bits keeps the leading ones. -/
theorem leading_ofAddress (b : Address) (length : Nat) : leading (ofAddress b length) =
    (b.family, length, b.toNat >>> (b.family.width - length)) := by
  have hmasked {width : Nat} (x : BitVec width) :
      (x &&& mask width length).toNat >>> (width - length) = x.toNat >>> (width - length) :=
    (and_mask_eq_iff _ _).1 (by rw [BitVec.and_assoc, BitVec.and_self])
  rcases b with value | ⟨value, zone⟩
  · exact congrArg (Family.v4, length, ·) (hmasked value)
  · exact congrArg (Family.v6, length, ·) (hmasked value)

variable {text text' : String} {networks : List Network} {addresses : List Address}

theorem parseList?_eq_some_iff : parseList? text = some networks ↔
    networks ≠ [] ∧ (entries text.toList).filterMap ofChars? = networks := by
  unfold parseList?
  rcases (entries text.toList).filterMap ofChars? with _ | ⟨n, rest⟩
  · simp
  · simp only [Option.some.injEq]
    constructor
    · rintro rfl
      simp
    · exact And.right

theorem parseList?_eq_none_iff : parseList? text = none ↔
    ∀ entry ∈ entries text.toList, ∀ b length, ¬Written entry b length := by
  have hempty : parseList? text = none ↔ (entries text.toList).filterMap ofChars? = [] := by
    unfold parseList?
    rcases (entries text.toList).filterMap ofChars? with _ | ⟨n, rest⟩ <;> simp
  rw [hempty, List.filterMap_eq_nil_iff]
  refine forall₂_congr fun entry _ => ?_
  rw [Option.eq_none_iff_forall_ne_some]
  constructor
  · exact fun h b length hwritten => h _ (ofChars?_eq_some_iff.2 ⟨b, length, hwritten, rfl⟩)
  · intro h n hn
    obtain ⟨b, length, hwritten, -⟩ := ofChars?_eq_some_iff.1 hn
    exact h b length hwritten

theorem holds_iff {f : Family} {bits : Nat} : Holds text f length bits ↔
    (f, length, bits) ∈ ((entries text.toList).filterMap ofChars?).map leading := by
  rw [List.mem_map]
  constructor
  · rintro ⟨entry, hentry, b, hwritten, rfl, rfl⟩
    refine ⟨_, List.mem_filterMap.2 ⟨entry, hentry, ?_⟩, leading_ofAddress b length⟩
    exact ofChars?_eq_some_iff.2 ⟨b, length, hwritten, rfl⟩
  · rintro ⟨n, hn, hleading⟩
    obtain ⟨entry, hentry, hread⟩ := List.mem_filterMap.1 hn
    obtain ⟨b, length, hwritten, rfl⟩ := ofChars?_eq_some_iff.1 hread
    rw [leading_ofAddress] at hleading
    cases hleading
    exact ⟨entry, hentry, b, hwritten, rfl, rfl⟩

theorem not_holds_of_eq_none (h : parseList? text = none) (f : Family) (length bits : Nat) :
    ¬Holds text f length bits := by
  rintro ⟨entry, hentry, b, hwritten, -⟩
  exact parseList?_eq_none_iff.1 h entry hentry b length hwritten

theorem anyContains_iff (h : parseList? text = some networks) :
    anyContains networks addresses = true ↔
      ∃ a ∈ addresses, ∃ length, Holds text a.family length
        (a.toNat >>> (a.family.width - length)) := by
  obtain ⟨-, rfl⟩ := parseList?_eq_some_iff.1 h
  rw [anyContains, List.any_eq_true]
  refine exists_congr fun a => and_congr_right fun _ => ?_
  rw [List.any_eq_true]
  constructor
  · rintro ⟨n, hn, hcontains⟩
    obtain ⟨entry, hentry, hread⟩ := List.mem_filterMap.1 hn
    obtain ⟨b, length, hwritten, rfl⟩ := ofChars?_eq_some_iff.1 hread
    exact ⟨length, entry, hentry, b, hwritten, (contains_ofAddress_iff b a length).1 hcontains⟩
  · rintro ⟨length, entry, hentry, b, hwritten, hbits⟩
    refine ⟨ofAddress b length, List.mem_filterMap.2 ⟨entry, hentry, ?_⟩,
      (contains_ofAddress_iff b a length).2 hbits⟩
    exact ofChars?_eq_some_iff.2 ⟨b, length, hwritten, rfl⟩

/-- Whether a list is read and contains an address. -/
theorem any_anyContains_iff : (parseList? text).any (anyContains · addresses) = true ↔
    ∃ a ∈ addresses, ∃ length, Holds text a.family length
      (a.toNat >>> (a.family.width - length)) := by
  rcases h : parseList? text with _ | networks
  · simp [not_holds_of_eq_none h]
  · exact anyContains_iff h

theorem exists_holds_of_eq_some (h : parseList? text = some networks) :
    ∃ f length bits, Holds text f length bits := by
  obtain ⟨hne, hnetworks⟩ := parseList?_eq_some_iff.1 h
  obtain ⟨n, hn⟩ := List.exists_mem_of_ne_nil networks hne
  refine ⟨(leading n).1, (leading n).2.1, (leading n).2.2, holds_iff.2 ?_⟩
  rw [hnetworks]
  exact List.mem_map_of_mem hn

/-- Nothing else about a list matters: neither entries that are malformed, nor the order of the
others, nor how often or with which host bits they are written. -/
theorem map_anyContains_congr
    (h : ∀ f length bits, Holds text f length bits ↔ Holds text' f length bits) :
    (parseList? text).map (anyContains · addresses) =
      (parseList? text').map (anyContains · addresses) := by
  rcases hread : parseList? text with _ | networks <;>
    rcases hread' : parseList? text' with _ | networks'
  · rfl
  · obtain ⟨f, length, bits, hholds⟩ := exists_holds_of_eq_some hread'
    exact absurd ((h f length bits).2 hholds) (not_holds_of_eq_none hread f length bits)
  · obtain ⟨f, length, bits, hholds⟩ := exists_holds_of_eq_some hread
    exact absurd ((h f length bits).1 hholds) (not_holds_of_eq_none hread' f length bits)
  · rw [Option.map_some, Option.map_some, Option.some.injEq, Bool.eq_iff_iff,
      anyContains_iff hread, anyContains_iff hread']
    simp only [h]

/-! ## Two lists in one -/

theorem entries_append_cons (cs cs' : List Char) {c : Char} (hc : c = ',' ∨ c = ';') :
    entries (cs ++ c :: cs') = entries cs ++ entries cs' := by
  have hseparator : (c == ',' || c == ';') = true := by simpa using hc
  rw [entries, piecesBy_append_cons _ hseparator, List.map_append, List.filter_append]
  rfl

theorem holds_append_iff {separator : String} (hseparator : separator ∈ [",", ";"])
    (f : Family) (length bits : Nat) : Holds (text ++ separator ++ text') f length bits ↔
      Holds text f length bits ∨ Holds text' f length bits := by
  have hentries : entries (text ++ separator ++ text').toList =
      entries text.toList ++ entries text'.toList := by
    rcases List.mem_pair.1 hseparator with rfl | rfl
    · simpa using entries_append_cons text.toList text'.toList (c := ',') (Or.inl rfl)
    · simpa using entries_append_cons text.toList text'.toList (c := ';') (Or.inr rfl)
  simp only [Holds, hentries, List.mem_append, or_and_right, exists_or]

end PacScript.Network
