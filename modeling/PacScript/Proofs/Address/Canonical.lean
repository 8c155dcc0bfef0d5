import PacScript.Proofs.Address.Prefix
import PacScript.Proofs.Address.Printed

/-!
# Canonical prefixes

Whatever notation an entry uses, the network that is read from it has no ones behind its length
(`hostBits_ofAddress`), and of such a network the text reads back as the network (`ofChars?_chars`).
So a list of prefixes may be written again with their texts, separated by commas or semicolons, with
white space around each of them (`parseList?_listed`).
-/

namespace PacScript.Network

open PacScript.Text Address

/-! ## Host bits -/

def baseAddress : Network → Address
  | .v4 base _ => .v4 base
  | .v6 base zone _ => .v6 base zone

def prefixLength : Network → Nat
  | .v4 _ length => length
  | .v6 _ _ length => length

/-- What stands behind the prefix. -/
def hostBits (n : Network) : Nat :=
  n.baseAddress.toNat % 2 ^ (n.family.width - n.prefixLength)

theorem and_mask_mod (width length : Nat) (x : BitVec width) :
    (x &&& mask width length).toNat % 2 ^ (width - length) = 0 := by
  refine Nat.eq_of_testBit_eq fun i => ?_
  rw [Nat.testBit_mod_two_pow, Nat.zero_testBit, BitVec.testBit_toNat, BitVec.getLsbD_and,
    getLsbD_mask]
  by_cases hi : i < width - length
  · simp [Nat.not_le_of_lt hi]
  · simp [hi]

/-- A word without host bits is not changed by the mask. -/
theorem and_mask_eq_self {width length : Nat} {x : BitVec width}
    (h : x.toNat % 2 ^ (width - length) = 0) : x &&& mask width length = x := by
  refine BitVec.eq_of_getLsbD_eq fun i hi => ?_
  rw [BitVec.getLsbD_and, getLsbD_mask]
  by_cases hl : width - length ≤ i
  · simp [hi, hl]
  · have hbit : (x.toNat % 2 ^ (width - length)).testBit i = false := by
      rw [h, Nat.zero_testBit]
    rw [Nat.testBit_mod_two_pow, decide_eq_true (by omega), Bool.true_and, BitVec.testBit_toNat]
      at hbit
    rw [hbit, Bool.false_and]

theorem hostBits_ofAddress (a : Address) (length : Nat) : (ofAddress a length).hostBits = 0 := by
  rcases a with value | ⟨value, zone⟩
  · exact and_mask_mod 32 length value
  · exact and_mask_mod 128 length value

/-! ## Canonical networks -/

/-- A network that has a text of its own. -/
structure Canonical (n : Network) : Prop where
  zoneless : n.baseAddress.hasZone = false
  length_le : n.prefixLength ≤ n.family.width
  hostBits_eq : n.hostBits = 0

theorem Canonical.ofAddress_eq {n : Network} (h : n.Canonical) :
    ofAddress n.baseAddress n.prefixLength = n := by
  rcases n with ⟨base, length⟩ | ⟨base, zone, length⟩
  · have hbase : base &&& mask 32 length = base := and_mask_eq_self h.hostBits_eq
    simp only [baseAddress, prefixLength, ofAddress, hbase]
  · have hbase : base &&& mask 128 length = base := and_mask_eq_self h.hostBits_eq
    simp only [baseAddress, prefixLength, ofAddress, hbase, if_true]

theorem length_le_of_length {f : Family} {suffix : List Char} {length : Nat}
    (h : Length f suffix length) : length ≤ f.width := by
  cases h with
  | decimal hne hdigits hlimit hwidth => exact hwidth
  | netmask hlength h => exact hlength
  | hostmask hpos hlength h => exact Nat.le_of_lt hlength

theorem hasZone_of_not_mem {cs : List Char} {a : Address} (h : Address.ofChars? cs = some a)
    (hcs : '%' ∉ cs) : a.hasZone = false := by
  cases literal_iff.2 h with
  | v4 value => rfl
  | v6 h => rfl
  | zoned h hne hzone => exact absurd (by simp) hcs

theorem canonical_ofAddress {a : Address} {length : Nat} (hzone : a.hasZone = false)
    (hlength : length ≤ a.family.width) : (ofAddress a length).Canonical where
  zoneless := by
    rcases a with value | ⟨value, _ | zone⟩
    · rfl
    · simp [ofAddress, baseAddress, hasZone]
    · cases hzone
  length_le := by
    cases a <;> exact hlength
  hostBits_eq := hostBits_ofAddress a length

theorem canonical_of_ofChars? {cs : List Char} {n : Network} (h : ofChars? cs = some n)
    (hcs : '%' ∉ cs) : n.Canonical := by
  obtain ⟨a, length, hwritten, rfl⟩ := ofChars?_eq_some_iff.1 h
  cases hwritten with
  | address haddress =>
    exact canonical_ofAddress (hasZone_of_not_mem haddress hcs) (Nat.le_refl _)
  | range haddress hlength =>
    have hzone := hasZone_of_not_mem haddress fun hc => hcs (List.mem_append_left _ hc)
    exact canonical_ofAddress hzone (length_le_of_length hlength)

/-! ## Texts -/

theorem chars_eq (n : Network) :
    n.chars = n.baseAddress.chars ++ '/' :: Nat.toDigits 10 n.prefixLength := by
  cases n <;> rfl

theorem length_toDigits {f : Family} {length : Nat} (h : length ≤ f.width) :
    Length f (Nat.toDigits 10 length) length := by
  have hshort : (Nat.toDigits 10 length).length ≤ 3 := by
    refine (Nat.length_toDigits_le_iff (by decide) (by decide)).2 ?_
    cases f <;> simp only [Family.width] at h <;> omega
  have hdecimal := Length.decimal (f := f) Nat.toDigits_ne_nil (all_isDigit_toDigits length)
    (hshort.trans (by decide)) (by rwa [ofDigits_toDigits])
  rwa [ofDigits_toDigits] at hdecimal

/-- The text of a network reads back as the network. -/
theorem Canonical.ofChars?_chars {n : Network} (h : n.Canonical) : ofChars? n.chars = some n := by
  have haddress := literal_iff.1 (literal_chars h.zoneless)
  have hfamily : n.baseAddress.family = n.family := by cases n <;> rfl
  have hlength : Length n.baseAddress.family (Nat.toDigits 10 n.prefixLength) n.prefixLength :=
    length_toDigits (hfamily ▸ h.length_le)
  rw [chars_eq]
  exact ofChars?_eq_some_iff.2 ⟨_, _, .range haddress hlength, h.ofAddress_eq⟩

/-! ## Lists -/

/-- Networks as a list: their texts with commas or semicolons between them, and with white space
around each. -/
inductive Listed : List Network → List Char → Prop
  | single {n : Network} {cs : List Char} (h : Spaced n.chars cs) : Listed [n] cs
  | cons {n : Network} {networks : List Network} {cs rest : List Char} {separator : Char}
      (h : Spaced n.chars cs) (hseparator : separator = ',' ∨ separator = ';')
      (hrest : Listed networks rest) : Listed (n :: networks) (cs ++ separator :: rest)

theorem Canonical.of_mem_chars {n : Network} (h : n.Canonical) {c : Char} (hc : c ∈ n.chars) :
    (c == ',' || c == ';') = false ∧ isBlank c = false := by
  rw [chars_eq, List.mem_append, List.mem_cons] at hc
  rcases hc with hc | rfl | hc
  · have haddress := (literal_chars h.zoneless).isAddressChar h.zoneless c hc
    exact ⟨not_separator_of haddress (by decide) (by decide), isBlank_of_isAddressChar haddress⟩
  · decide
  · exact plain_of_isDigit_or (Or.inl (List.all_eq_true.1 (all_isDigit_toDigits _) c hc))

theorem Canonical.entries_spaced {n : Network} (h : n.Canonical) {cs : List Char}
    (hcs : Spaced n.chars cs) : entries cs = [n.chars] := by
  have htrim : trim cs = n.chars := by
    rw [hcs.trim_eq]
    exact trimBy_of_none fun c hc => (h.of_mem_chars hc).2
  have hpieces : piecesBy (fun c => c == ',' || c == ';') cs = [cs] := by
    obtain ⟨hbefore, hafter⟩ := hcs
    refine piecesBy_of_none fun c hc => ?_
    simp only [List.mem_append] at hc
    rcases hc with (hc | hc) | hc
    · exact not_separator_of (hbefore c hc) (by decide) (by decide)
    · exact (h.of_mem_chars hc).1
    · exact not_separator_of (hafter c hc) (by decide) (by decide)
  have hne : n.chars ≠ [] := by
    rw [chars_eq]
    simp
  simp [entries, hpieces, htrim, hne]

theorem entries_listed {networks : List Network} {cs : List Char} (hlisted : Listed networks cs)
    (h : ∀ n ∈ networks, n.Canonical) : entries cs = networks.map chars := by
  induction hlisted with
  | single hcs => exact (h _ (by simp)).entries_spaced hcs
  | cons hcs hseparator hrest ih =>
    rw [entries_append_cons _ _ hseparator, (h _ (by simp)).entries_spaced hcs,
      ih fun n hn => h n (List.mem_cons_of_mem _ hn)]
    rfl

theorem parseList?_listed {networks : List Network} {cs : List Char}
    (hlisted : Listed networks cs) (h : ∀ n ∈ networks, n.Canonical) :
    parseList? (String.ofList cs) = some networks := by
  rw [parseList?_eq_some_iff, String.toList_ofList, entries_listed hlisted h, List.filterMap_map]
  constructor
  · cases hlisted <;> simp
  · calc networks.filterMap (ofChars? ∘ chars) = networks.filterMap some :=
          List.filterMap_congr fun n hn => (h n hn).ofChars?_chars
      _ = networks := List.filterMap_some

theorem not_mem_of_mem_entries {cs entry : List Char} (h : entry ∈ entries cs) {c : Char}
    (hc : c ∉ cs) : c ∉ entry := by
  obtain ⟨piece, hpiece, rfl⟩ := List.mem_map.1 (List.mem_filter.1 h).1
  exact fun hmem => hc (of_mem_piecesBy hpiece c (mem_of_mem_trimBy hmem)).1

/-- The networks of a text without zones have no host bits, and each entry that is read is read as
the text of its network is. Written again with their texts, they are the same networks. -/
theorem parseList?_canonical {text : String} {networks : List Network}
    (hzone : '%' ∉ text.toList) (h : parseList? text = some networks) :
    (∀ n ∈ networks, n.hostBits = 0) ∧
    (∀ entry ∈ entries text.toList, ∀ n, ofChars? entry = some n →
      ofChars? n.chars = ofChars? entry) ∧
    ∀ cs, Listed networks cs → parseList? (String.ofList cs) = some networks := by
  have hentry : ∀ entry ∈ entries text.toList, ∀ n, ofChars? entry = some n → n.Canonical :=
    fun entry he n hn => canonical_of_ofChars? hn (not_mem_of_mem_entries he hzone)
  have hcanonical : ∀ n ∈ networks, n.Canonical := by
    obtain ⟨-, rfl⟩ := parseList?_eq_some_iff.1 h
    intro n hn
    obtain ⟨entry, he, hread⟩ := List.mem_filterMap.1 hn
    exact hentry entry he n hread
  refine ⟨fun n hn => (hcanonical n hn).hostBits_eq, fun entry he n hn => ?_,
    fun cs hlisted => parseList?_listed hlisted hcanonical⟩
  rw [hn]
  exact (hentry entry he n hn).ofChars?_chars

/-- A bare address, a length with a zero in front, a host mask and an IPv6 prefix, all but the first
with host bits. -/
theorem parseList?_canonical_notations :
    '%' ∉ "10.1.2.3;10.9.9.9/08,192.168.1.77/0.0.0.255; 2001:DB8::1/32".toList ∧
    parseList? "10.1.2.3;10.9.9.9/08,192.168.1.77/0.0.0.255; 2001:DB8::1/32" =
      some [.v4 0x0a010203 32, .v4 0x0a000000 8, .v4 0xc0a80100 24,
        .v6 0x20010db8000000000000000000000000 none 32] ∧
    parseList? "10.1.2.3/32 ,10.0.0.0/8;\t192.168.1.0/24;2001:db8::/32" =
      some [.v4 0x0a010203 32, .v4 0x0a000000 8, .v4 0xc0a80100 24,
        .v6 0x20010db8000000000000000000000000 none 32] := by
  have hzone : '%' ∉ "10.1.2.3;10.9.9.9/08,192.168.1.77/0.0.0.255; 2001:DB8::1/32".toList := by
    decide +kernel
  have hread : parseList? "10.1.2.3;10.9.9.9/08,192.168.1.77/0.0.0.255; 2001:DB8::1/32" =
      some [.v4 0x0a010203 32, .v4 0x0a000000 8, .v4 0xc0a80100 24,
        .v6 0x20010db8000000000000000000000000 none 32] := by
    decide +kernel
  have hbehind : Spaced (chars (.v4 0x0a010203 32)) ([] ++ chars (.v4 0x0a010203 32) ++ [' ']) :=
    spaced_of_all rfl rfl
  have hbefore : Spaced (chars (.v4 0xc0a80100 24)) (['\t'] ++ chars (.v4 0xc0a80100 24) ++ []) :=
    spaced_of_all rfl rfl
  have hlisted := Listed.cons hbehind (Or.inl rfl)
    (.cons (n := .v4 0x0a000000 8) (spaced_self _) (Or.inr rfl)
      (.cons hbefore (Or.inr rfl)
        (.single (n := .v6 0x20010db8000000000000000000000000 none 32) (spaced_self _))))
  have hwritten := (parseList?_canonical hzone hread).2.2 _ hlisted
  refine ⟨hzone, hread, ?_⟩
  rw [← hwritten]
  exact congrArg parseList? (by decide +kernel)

end PacScript.Network
