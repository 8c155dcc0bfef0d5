import Mathlib.Algebra.Ring.Nat
import Mathlib.Data.Char
import Mathlib.Data.List.Lex
import Mathlib.Data.Prod.Lex
import PacScript.Address.Sorting

/-!
# Sort keys compare like numbers

Texts compare lexicographically (`charsLe_iff`), and sort keys as pairs (`SortKey.le_iff`).

Texts of one width compare by their first difference, so a text made of two parts compares like the
pair of the numbers that its parts stand for (`Ordered.append`). Digits of a fixed width are such a
text one digit at a time, and the full text of an IPv6 number is one a group at a time.

Hence the sort keys order the addresses without zone as `Precedes` does: IPv6 first, then by number
(`sortKey_le_iff`, `sortKey_lt_iff`). So they tell any two of them apart (`keys_numeric`).
-/

namespace PacScript.Address

open PacScript.Text

/-! ## The order of texts -/

/-- One text does not come after another unless that comes before it. -/
theorem charsLe_iff_not_lt : ∀ as bs : List Char, charsLe as bs = true ↔ ¬bs < as
  | [], bs => by simp [charsLe]
  | a :: as, [] => by simp [charsLe]
  | a :: as, b :: bs => by
    have hlt : b < a ↔ b.toNat < a.toNat := Iff.rfl
    simp only [charsLe, Bool.or_eq_true, Bool.and_eq_true, decide_eq_true_eq, beq_iff_eq,
      charsLe_iff_not_lt as bs, List.cons_lt_cons_iff, hlt, ← Char.toNat_inj]
    by_cases h : bs < as
    · simp only [h, not_true_eq_false, and_false, and_true, or_false]
      omega
    · simp only [h, not_false_eq_true, and_false, and_true, or_false]
      omega

theorem charsLe_iff {as bs : List Char} : charsLe as bs = true ↔ as ≤ bs :=
  (charsLe_iff_not_lt as bs).trans not_lt

/-- Behind a common front only the rests matter. -/
theorem charsLe_append_self : ∀ front as bs : List Char,
    charsLe (front ++ as) (front ++ bs) = charsLe as bs
  | [], _, _ => rfl
  | c :: front, as, bs => by simp [charsLe, charsLe_append_self front]

/-- Behind different fronts of one length the rests do not matter. -/
theorem charsLe_append_of_ne : ∀ {as bs : List Char}, as.length = bs.length → as ≠ bs →
    ∀ as' bs' : List Char, charsLe (as ++ as') (bs ++ bs') = charsLe as bs
  | [], [], _, h, _, _ => absurd rfl h
  | a :: as, b :: bs, hl, h, as', bs' => by
    rcases Decidable.em (a = b) with rfl | hab
    · have hne : as ≠ bs := fun e => h (by rw [e])
      simp [charsLe, charsLe_append_of_ne (Nat.succ.inj hl) hne as' bs']
    · have hab : (a == b) = false := by simpa using hab
      simp [charsLe, hab]

/-! ## Texts of numbers -/

/-- Below the bound the texts are all of one length and compare like the numbers. -/
structure Ordered (bound : Nat) (text : Nat → List Char) : Prop where
  length_eq : ∀ {m n}, m < bound → n < bound → (text m).length = (text n).length
  le_iff : ∀ {m n}, m < bound → n < bound → (charsLe (text m) (text n) = true ↔ m ≤ n)

namespace Ordered

variable {bound : Nat} {text : Nat → List Char}

theorem ne (h : Ordered bound text) {m n : Nat} (hm : m < bound) (hn : n < bound) (hne : m ≠ n) :
    text m ≠ text n := by
  intro e
  have hmn := (h.le_iff hm hn).1 (by rw [e]; exact charsLe_iff.2 le_rfl)
  have hnm := (h.le_iff hn hm).1 (by rw [e]; exact charsLe_iff.2 le_rfl)
  omega

theorem congr {text' : Nat → List Char} (h : Ordered bound text)
    (he : ∀ n < bound, text' n = text n) : Ordered bound text' where
  length_eq hm hn := by rw [he _ hm, he _ hn]; exact h.length_eq hm hn
  le_iff hm hn := by rw [he _ hm, he _ hn]; exact h.le_iff hm hn

/-- A high part, a separator that is always the same and a low part. -/
theorem append {low : Nat} {lowText : Nat → List Char} (hhigh : Ordered bound text)
    (hlow : Ordered low lowText) (hpos : 0 < low) (separator : List Char) :
    Ordered (bound * low) fun n => text (n / low) ++ (separator ++ lowText (n % low)) where
  length_eq {m n} hm hn := by
    have hl := hhigh.length_eq (Nat.div_lt_of_lt_mul (by rwa [Nat.mul_comm] at hm))
      (Nat.div_lt_of_lt_mul (by rwa [Nat.mul_comm] at hn))
    have hr := hlow.length_eq (Nat.mod_lt m hpos) (Nat.mod_lt n hpos)
    simp only [List.length_append, hl, hr]
  le_iff {m n} hm hn := by
    have hm' : m / low < bound := Nat.div_lt_of_lt_mul (by rwa [Nat.mul_comm] at hm)
    have hn' : n / low < bound := Nat.div_lt_of_lt_mul (by rwa [Nat.mul_comm] at hn)
    have em := Nat.div_add_mod m low
    have en := Nat.div_add_mod n low
    have lm := Nat.mod_lt m hpos
    have ln := Nat.mod_lt n hpos
    rcases Decidable.em (m / low = n / low) with e | e
    · rw [e, charsLe_append_self, charsLe_append_self, hlow.le_iff lm ln]
      rw [e] at em
      omega
    · rw [charsLe_append_of_ne (hhigh.length_eq hm' hn') (hhigh.ne hm' hn' e), hhigh.le_iff hm' hn']
      -- a step in the high part outweighs whatever the low parts are
      rcases Nat.lt_or_gt_of_ne e with hlt | hlt
      · have := Nat.mul_le_mul_left low hlt
        rw [Nat.mul_succ] at this
        omega
      · have := Nat.mul_le_mul_left low hlt
        rw [Nat.mul_succ] at this
        omega

/-- One digit. -/
theorem digit {base : Nat} (hbase : base ≤ 16) : Ordered base fun n => [Nat.digitChar n] where
  length_eq _ _ := rfl
  le_iff {m n} hm hn := by
    have all : ∀ m < 16, ∀ n < 16,
        (charsLe [Nat.digitChar m] [Nat.digitChar n] = true ↔ m ≤ n) := by decide
    exact all m (by omega) n (by omega)

end Ordered

/-- The last `width` digits of a number. -/
def lastDigits (base : Nat) : (width n : Nat) → List Char
  | 0, _ => []
  | width + 1, n => lastDigits base width (n / base) ++ [Nat.digitChar (n % base)]

theorem lastDigits_zero (base : Nat) : ∀ width : Nat,
    lastDigits base width 0 = List.replicate width '0'
  | 0 => rfl
  | width + 1 => by
    simp only [lastDigits, Nat.zero_div, Nat.zero_mod, lastDigits_zero base width]
    exact List.replicate_succ'.symm

/-- Digits filled up to a width that suffices are the digits of that width. -/
theorem padded_toDigits {base : Nat} (hbase : 1 < base) : ∀ {width n : Nat}, n < base ^ (width + 1) →
    padded (width + 1) (Nat.toDigits base n) = lastDigits base (width + 1) n
  | 0, n, h => by
    have hn : n < base := by simpa using h
    simp [Nat.toDigits_of_lt_base hn, padded, lastDigits, Nat.mod_eq_of_lt hn]
  | width + 1, n, h => by
    rcases Nat.lt_or_ge n base with hn | hn
    · rw [Nat.toDigits_of_lt_base hn, lastDigits, Nat.div_eq_of_lt hn, Nat.mod_eq_of_lt hn,
        lastDigits_zero]
      rfl
    · have hq : n / base < base ^ (width + 1) :=
        Nat.div_lt_of_lt_mul (by rwa [Nat.pow_succ, Nat.mul_comm] at h)
      rw [Nat.toDigits_of_base_le hbase hn, lastDigits, ← padded_toDigits hbase hq]
      simp [padded]

theorem Ordered.lastDigits (base : Nat) (hpos : 0 < base) (hbase : base ≤ 16) : ∀ width : Nat,
    Ordered (base ^ width) (lastDigits base width)
  | 0 => ⟨fun _ _ => rfl, fun hm hn => by simp at hm hn; simp [hm, hn, Address.lastDigits, charsLe]⟩
  | width + 1 => (Ordered.lastDigits base hpos hbase width).append (digit hbase) hpos []

theorem Ordered.hexDigits : Ordered (16 ^ 4) (hexDigits 4) :=
  (Ordered.lastDigits 16 (by decide) (by decide) 4).congr fun _ h =>
    padded_toDigits (by decide) h

theorem Ordered.decimalDigits : Ordered (10 ^ 10) (decimalDigits 10) :=
  (Ordered.lastDigits 10 (by decide) (by decide) 10).congr fun _ h =>
    padded_toDigits (by decide) h

/-- The last groups of a number in full, `count + 1` of them. -/
def lastGroups : (count n : Nat) → List Char
  | 0, n => Text.hexDigits 4 n
  | count + 1, n => lastGroups count (n / 16 ^ 4) ++ ([':'] ++ Text.hexDigits 4 (n % 16 ^ 4))

theorem Ordered.lastGroups : ∀ count : Nat,
    Ordered ((16 ^ 4) ^ (count + 1)) (lastGroups count)
  | 0 => Ordered.hexDigits
  | count + 1 => (Ordered.lastGroups count).append Ordered.hexDigits (by decide) [':']

theorem exploded_eq_lastGroups (value : BitVec 128) :
    exploded value = lastGroups 7 value.toNat := by
  have htop : value.toNat >>> 112 % 65536 = value.toNat >>> 112 := by
    have := value.isLt
    rw [Nat.shiftRight_eq_div_pow]
    omega
  simp only [exploded, groups, List.map_cons, htop]
  simp [lastGroups, Nat.shiftRight_eq_div_pow, Nat.div_div_eq_div_mul]

theorem charsLe_exploded_iff (u v : BitVec 128) :
    charsLe (exploded u) (exploded v) = true ↔ u.toNat ≤ v.toNat := by
  rw [exploded_eq_lastGroups, exploded_eq_lastGroups]
  exact (Ordered.lastGroups 7).le_iff u.isLt v.isLt

theorem charsLe_decimalDigits_iff (u v : BitVec 32) :
    charsLe (decimalDigits 10 u.toNat) (decimalDigits 10 v.toNat) = true ↔ u.toNat ≤ v.toNat := by
  have hu := u.isLt
  have hv := v.isLt
  exact Ordered.decimalDigits.le_iff (by omega) (by omega)

/-! ## The order of addresses -/

/-- IPv6 before IPv4, and by number within a family. -/
def Precedes (a b : Address) : Prop :=
  a.family = .v6 ∧ b.family = .v4 ∨ a.family = b.family ∧ a.toNat < b.toNat

theorem Precedes.irrefl (a : Address) : ¬Precedes a a := by
  rintro (⟨h6, h4⟩ | ⟨-, hlt⟩)
  · rw [h6] at h4
    cases h4
  · exact Nat.lt_irrefl _ hlt

theorem Precedes.asymm {a b : Address} (h : Precedes a b) : ¬Precedes b a := by
  rintro (⟨h6, h4⟩ | ⟨hfamily, hlt⟩) <;> rcases h with ⟨h6', h4'⟩ | ⟨hfamily', hlt'⟩
  · rw [h6] at h4'
    cases h4'
  · rw [hfamily', h6] at h4
    cases h4
  · rw [hfamily, h6'] at h4'
    cases h4'
  · omega

theorem sortKey?_isSome_iff {a : Address} : (sortKey? a).isSome = true ↔ a.hasZone = false := by
  rcases a with value | ⟨value, _ | zone⟩ <;> simp [sortKey?, hasZone]

namespace SortKey

variable {k l m : SortKey}

/-- The key as a pair. In the order of pairs the ranks decide, and between equal ranks the texts. -/
def pair (k : SortKey) : Nat ×ₗ List Char := toLex (k.rank, k.text)

theorem pair_inj : k.pair = l.pair ↔ k = l := by
  rw [pair, pair, toLex_inj, Prod.mk.injEq, SortKey.mk.injEq]

theorem le_iff : k.le l = true ↔ k.pair ≤ l.pair := by
  rw [pair, pair, Prod.Lex.toLex_le_toLex, ← charsLe_iff]
  simp [SortKey.le]

theorem le_total (k l : SortKey) : k.le l = true ∨ l.le k = true := by
  rw [le_iff, le_iff]
  exact LinearOrder.le_total k.pair l.pair

theorem le_trans (hkl : k.le l = true) (hlm : l.le m = true) : k.le m = true :=
  le_iff.2 ((le_iff.1 hkl).trans (le_iff.1 hlm))

end SortKey

section Keys

variable {a b : Address} {k l : SortKey}

/-- Among different addresses the order of the keys is the order of the addresses. -/
theorem sortKey_le_iff (ha : sortKey? a = some k) (hb : sortKey? b = some l) (hne : a ≠ b) :
    k.le l = true ↔ Precedes a b := by
  rcases a with u | ⟨u, _ | zone⟩ <;> rcases b with v | ⟨v, _ | zone'⟩ <;>
    simp only [sortKey?, Option.some.injEq, reduceCtorEq] at ha hb <;> subst ha <;> subst hb
  · have huv : u.toNat ≠ v.toNat := fun e => hne (by rw [BitVec.eq_of_toNat_eq e])
    simp only [SortKey.le, Precedes, family, toNat, charsLe_decimalDigits_iff, beq_self_eq_true,
      Bool.true_and, Bool.or_eq_true, decide_eq_true_eq, reduceCtorEq, false_and, true_and,
      Nat.lt_irrefl, false_or]
    omega
  · simp [SortKey.le, Precedes, family]
  · simp [SortKey.le, Precedes, family]
  · have huv : u.toNat ≠ v.toNat := fun e => hne (by rw [BitVec.eq_of_toNat_eq e])
    simp only [SortKey.le, Precedes, family, toNat, charsLe_exploded_iff, beq_self_eq_true,
      Bool.true_and, Bool.or_eq_true, decide_eq_true_eq, reduceCtorEq, true_and,
      Nat.lt_irrefl, false_or]
    omega

/-- Different addresses have different keys. -/
theorem sortKey_eq_iff (ha : sortKey? a = some k) (hb : sortKey? b = some l) : k = l ↔ a = b := by
  constructor
  · rintro rfl
    by_contra hne
    have hle : k.le k = true := SortKey.le_iff.2 le_rfl
    have hab := (sortKey_le_iff ha hb hne).1 hle
    have hba := (sortKey_le_iff hb ha (Ne.symm hne)).1 hle
    exact hab.asymm hba
  · rintro rfl
    exact Option.some.inj (ha.symm.trans hb)

theorem sortKey_lt_iff (ha : sortKey? a = some k) (hb : sortKey? b = some l) :
    k.pair < l.pair ↔ Precedes a b := by
  rcases eq_or_ne a b with rfl | hne
  · obtain rfl : k = l := (sortKey_eq_iff ha hb).2 rfl
    exact iff_of_false (lt_irrefl _) (Precedes.irrefl a)
  · have hkeys : k.pair ≠ l.pair := fun h => hne ((sortKey_eq_iff ha hb).1 (SortKey.pair_inj.1 h))
    rw [← sortKey_le_iff ha hb hne, SortKey.le_iff, lt_iff_le_and_ne, and_iff_left hkeys]

end Keys

/-- Addresses without zone have keys that compare as the addresses do, IPv6 before IPv4 and by
number within a family, so that different ones have different keys and one of two is always the
smaller. -/
theorem keys_numeric {a b : Address} (ha : a.hasZone = false) (hb : b.hasZone = false) :
    ∃ k l, sortKey? a = some k ∧ sortKey? b = some l ∧
      (k.pair < l.pair ↔ a.family = .v6 ∧ b.family = .v4 ∨
        a.family = b.family ∧ a.toNat < b.toNat) ∧
      (k.le l = true ↔ k.pair ≤ l.pair) ∧ (k = l ↔ a = b) ∧
      (k.pair < l.pair ∨ a = b ∨ l.pair < k.pair) := by
  obtain ⟨k, hk⟩ := Option.isSome_iff_exists.1 (sortKey?_isSome_iff.2 ha)
  obtain ⟨l, hl⟩ := Option.isSome_iff_exists.1 (sortKey?_isSome_iff.2 hb)
  refine ⟨k, l, hk, hl, sortKey_lt_iff hk hl, SortKey.le_iff, sortKey_eq_iff hk hl, ?_⟩
  rw [← sortKey_eq_iff hk hl, ← SortKey.pair_inj]
  exact lt_trichotomy _ _

/-- The address `::9` comes before `::10` although its text comes after. -/
theorem keys_numeric_nineTen : (Address.v6 9 none).hasZone = false ∧
    (Address.v6 16 none).hasZone = false ∧
    charsLe (chars (.v6 9 none)) (chars (.v6 16 none)) = false ∧
    ∃ k l, sortKey? (.v6 9 none) = some k ∧ sortKey? (.v6 16 none) = some l ∧ k.pair < l.pair := by
  obtain ⟨k, l, hk, hl, hlt, -⟩ := keys_numeric (a := .v6 9 none) (b := .v6 16 none) rfl rfl
  exact ⟨rfl, rfl, by decide +kernel, k, l, hk, hl, hlt.2 (Or.inr ⟨rfl, by decide⟩)⟩

end PacScript.Address
