import Mathlib.Algebra.Ring.Nat
import PacScript.Proofs.Number.Order

/-!
# Rounding keeps the order

Rounding to the nearest rank is monotone (`nearestRank_mono`) and leaves the ranks as they are
(`nearestRank_unitsOfRank`). The level of a sum is therefore a monotone function of the exact sum
(`level_add`), and a sum with a number that is not negative is not smaller (`le_add`).
-/

namespace PacScript.Binary64

/-! ## Quotients -/

theorem roundHalfEven_bounds (num den : Nat) :
    num / den ≤ roundHalfEven num den ∧ roundHalfEven num den ≤ num / den + 1 := by
  simp only [roundHalfEven]
  split <;> omega

theorem roundHalfEven_mono {m n : Nat} (den : Nat) (h : m ≤ n) :
    roundHalfEven m den ≤ roundHalfEven n den := by
  have hq : m / den ≤ n / den := Nat.div_le_div_right h
  have em := Nat.div_add_mod m den
  have en := Nat.div_add_mod n den
  rcases Nat.eq_or_lt_of_le hq with heq | hlt
  · -- the same quotient, so the remainders decide
    have hr : m % den ≤ n % den := by
      rw [heq] at em
      omega
    simp only [roundHalfEven, heq]
    split
    · split <;> omega
    · rename_i hup
      have hup' : ¬(2 * (n % den) < den ∨ 2 * (n % den) = den ∧ n / den % 2 = 0) := by omega
      exact Nat.le_of_eq (if_neg hup').symm
  · have hm := (roundHalfEven_bounds m den).2
    have hn := (roundHalfEven_bounds n den).1
    omega

theorem roundHalfEven_mul {den : Nat} (hden : 0 < den) (q : Nat) :
    roundHalfEven (q * den) den = q := by
  simp [roundHalfEven, Nat.mul_div_cancel _ hden, Nat.mul_mod_left, hden]

/-! ## Ranks -/

theorem binade_eq : binade = 2 ^ 52 := rfl

theorem nearestRank_one (n : Nat) : nearestRank n 1 =
    (Nat.log2 n - 52) * 2 ^ 52 + roundHalfEven n (2 ^ (Nat.log2 n - 52)) := by
  simp [nearestRank, binade_eq, Nat.shiftLeft_eq]

/-- Rounded on the scale of its own leading digit a number has at most one digit too many. -/
theorem roundHalfEven_le_of_log2 (n shift : Nat) (h : Nat.log2 n ≤ 52 + shift) :
    roundHalfEven n (2 ^ shift) ≤ 2 ^ 53 := by
  have hlt : n < 2 ^ 53 * 2 ^ shift := by
    rw [← Nat.pow_add]
    exact Nat.lt_of_lt_of_le Nat.lt_log2_self (Nat.pow_le_pow_right (by decide) (by omega))
  have hq : n / 2 ^ shift < 2 ^ 53 := Nat.div_lt_of_lt_mul (by rwa [Nat.mul_comm])
  have := (roundHalfEven_bounds n (2 ^ shift)).2
  omega

theorem le_roundHalfEven_of_log2 (n shift : Nat) (hn : n ≠ 0) (h : 52 + shift ≤ Nat.log2 n) :
    2 ^ 52 ≤ roundHalfEven n (2 ^ shift) := by
  have hle : 2 ^ 52 * 2 ^ shift ≤ n := by
    rw [← Nat.pow_add]
    exact Nat.le_trans (Nat.pow_le_pow_right (by decide) h) (Nat.log2_self_le hn)
  have hq : 2 ^ 52 ≤ n / 2 ^ shift := (Nat.le_div_iff_mul_le (Nat.two_pow_pos shift)).2 hle
  have := (roundHalfEven_bounds n (2 ^ shift)).1
  omega

theorem nearestRank_mono {m n : Nat} (h : m ≤ n) : nearestRank m 1 ≤ nearestRank n 1 := by
  rcases Nat.eq_zero_or_pos m with rfl | hm
  · simp [nearestRank_one, roundHalfEven]
  have hlog : Nat.log2 m ≤ Nat.log2 n :=
    (Nat.le_log2 (by omega)).2 (Nat.le_trans (Nat.log2_self_le (by omega)) h)
  rw [nearestRank_one, nearestRank_one]
  rcases Nat.eq_or_lt_of_le (Nat.sub_le_sub_right hlog 52) with heq | hlt
  · rw [heq]
    exact Nat.add_le_add_left (roundHalfEven_mono _ h) _
  · -- the larger number is on a coarser scale, which begins where the finer one ends
    have hm' := roundHalfEven_le_of_log2 m (Nat.log2 m - 52) (by omega)
    have hn' := le_roundHalfEven_of_log2 n (Nat.log2 n - 52) (by omega) (by omega)
    omega

theorem log2_mul_two_pow (digits shift : Nat) (hle : 2 ^ 52 ≤ digits) (hlt : digits < 2 ^ 53) :
    Nat.log2 (digits * 2 ^ shift) = 52 + shift := by
  have hpos := Nat.two_pow_pos shift
  refine (Nat.log2_eq_iff (Nat.mul_ne_zero (by omega) (by omega))).2 ⟨?_, ?_⟩
  · rw [Nat.pow_add]
    exact Nat.mul_le_mul_right _ hle
  · rw [Nat.add_right_comm, Nat.pow_add]
    exact Nat.mul_lt_mul_of_pos_right hlt hpos

theorem nearestRank_unitsOfRank (rank : Nat) : nearestRank (unitsOfRank rank) 1 = rank := by
  rw [nearestRank_one, unitsOfRank, binade_eq, Nat.shiftLeft_eq]
  split
  · rename_i hlt
    have hlog : Nat.log2 rank - 52 = 0 := by
      rcases Nat.eq_zero_or_pos rank with rfl | hpos
      · rfl
      · have := (Nat.log2_lt (by omega)).2 hlt
        omega
    rw [hlog]
    simpa using roundHalfEven_mul Nat.one_pos rank
  · rename_i hge
    have hlog := log2_mul_two_pow (2 ^ 52 + rank % 2 ^ 52) (rank / 2 ^ 52 - 1) (by omega) (by omega)
    rw [hlog, Nat.add_sub_cancel_left, roundHalfEven_mul (Nat.two_pow_pos _)]
    omega

/-! ## Sums -/

/-- The level of the number nearest to a whole number of units. -/
def roundedLevel (units : Int) : Int :=
  place (units < 0) (min (nearestRank units.natAbs 1) ranks)

/-- The units of a finite number with its sign. -/
def signedUnits (negative : Bool) (rank : Nat) : Int :=
  if negative then -(unitsOfRank rank : Int) else unitsOfRank rank

theorem level_ofRank (negative : Bool) (rank : Nat) :
    (ofRank negative rank).level = place negative (min rank ranks) := by
  unfold ofRank
  split
  · rename_i h
    have h : rank < ranks := h
    rw [level_finite, Nat.min_eq_left (Nat.le_of_lt h)]
  · rename_i h
    have h : ¬rank < ranks := h
    rw [level_infinite, Nat.min_eq_right (by omega)]

theorem place_le_place {u v : Int} {a b : Nat} (h : u ≤ v) (hneg : v < 0 → b ≤ a)
    (hpos : ¬u < 0 → a ≤ b) : place (u < 0) a ≤ place (v < 0) b := by
  by_cases hu : u < 0
  · by_cases hv : v < 0
    · have := hneg hv
      simp only [hu, hv, decide_true, place_true]
      omega
    · simp only [hu, hv, decide_true, decide_false, place_true, place_false]
      omega
  · have hv : ¬v < 0 := by omega
    have := hpos hu
    simp only [hu, hv, decide_false, place_false]
    omega

theorem roundedLevel_mono {u v : Int} (h : u ≤ v) : roundedLevel u ≤ roundedLevel v := by
  refine place_le_place h (fun hv => ?_) fun hu => ?_
  · have := nearestRank_mono (show v.natAbs ≤ u.natAbs by omega)
    exact Nat.le_min_of_le_of_le (Nat.le_trans (Nat.min_le_left _ _) this) (Nat.min_le_right _ _)
  · have := nearestRank_mono (show u.natAbs ≤ v.natAbs by omega)
    exact Nat.le_min_of_le_of_le (Nat.le_trans (Nat.min_le_left _ _) this) (Nat.min_le_right _ _)

theorem nearestRank_zero : nearestRank 0 1 = 0 := nearestRank_unitsOfRank 0

theorem unitsOfRank_eq_zero_iff (rank : Nat) : unitsOfRank rank = 0 ↔ rank = 0 := by
  constructor
  · intro h
    have := nearestRank_unitsOfRank rank
    rwa [h, nearestRank_zero, eq_comm] at this
  · rintro rfl
    rfl

/-- A finite number is its own nearest. -/
theorem roundedLevel_signedUnits (s : Bool) (rank : Fin ranks) :
    roundedLevel (signedUnits s rank) = (finite s rank).level := by
  have hrank : rank.val ≤ ranks := Nat.le_of_lt rank.isLt
  have hnat : (signedUnits s rank).natAbs = unitsOfRank rank := by
    cases s <;> simp [signedUnits]
  rw [roundedLevel, hnat, nearestRank_unitsOfRank, Nat.min_eq_left hrank, level_finite]
  by_cases hzero : rank.val = 0
  · rw [hzero]
    cases s <;> simp [place]
  · have hunits : unitsOfRank rank ≠ 0 := by rwa [ne_eq, unitsOfRank_eq_zero_iff]
    cases s
    · rw [decide_eq_false]
      simp [signedUnits]
    · rw [decide_eq_true]
      simp only [signedUnits, if_true]
      omega

/-- Numbers of one level are the same number of units. -/
theorem signedUnits_congr {s t : Bool} {a b : Fin ranks}
    (h : (finite s a).level = (finite t b).level) : signedUnits s a = signedUnits t b := by
  have hzero : unitsOfRank 0 = 0 := (unitsOfRank_eq_zero_iff 0).2 rfl
  cases s <;> cases t <;> simp only [level_finite, place_true, place_false] at h <;>
    simp only [signedUnits, if_true, Bool.false_eq_true, if_false]
  · rw [show a.val = b.val by omega]
  · rw [show a.val = 0 by omega, show b.val = 0 by omega, hzero]
    rfl
  · rw [show a.val = 0 by omega, show b.val = 0 by omega, hzero]
    rfl
  · rw [show a.val = b.val by omega]

theorem signedUnits_mono {s t : Bool} {a b : Fin ranks}
    (h : (finite s a).level ≤ (finite t b).level) : signedUnits s a ≤ signedUnits t b := by
  rcases Int.le_total (signedUnits s a) (signedUnits t b) with hle | hle
  · exact hle
  · -- the other way round the levels are the same
    have hlevel := roundedLevel_mono hle
    rw [roundedLevel_signedUnits, roundedLevel_signedUnits] at hlevel
    exact Int.le_of_eq (signedUnits_congr (Int.le_antisymm h hlevel))

/-- A sum is the number nearest to the exact sum. -/
theorem level_add (s t : Bool) (a b : Fin ranks) :
    ((finite s a).add (finite t b)).level = roundedLevel (signedUnits s a + signedUnits t b) := by
  have hsum : ∀ sum : Int, (if sum = 0 then ofRank (s && t) 0
      else ofUnits (sum < 0) sum.natAbs 1).level = roundedLevel sum := by
    intro sum
    split
    · rename_i h
      subst h
      rw [level_ofRank, roundedLevel, Int.natAbs_zero, nearestRank_zero]
      cases s && t <;> simp [place]
    · rw [ofUnits, level_ofRank, roundedLevel]
  exact hsum _

theorem ofRank_ne_nan (negative : Bool) (rank : Nat) : ofRank negative rank ≠ .nan := by
  unfold ofRank
  split <;> simp

theorem add_ne_nan {x y : Binary64} (hx : x ≠ .nan) (hy : y ≠ .nan) (hfin : y.isInfinite = false) :
    x.add y ≠ .nan := by
  rcases y with _ | t | ⟨t, b⟩
  · exact absurd rfl hy
  · simp [isInfinite] at hfin
  · rcases x with _ | s | ⟨s, a⟩
    · exact absurd rfl hx
    · simp [add]
    · have hsum : ∀ sum : Int, (if sum = 0 then ofRank (s && t) 0
          else ofUnits (sum < 0) sum.natAbs 1) ≠ .nan := by
        intro sum
        split
        · exact ofRank_ne_nan _ _
        · exact ofRank_ne_nan _ _
      exact hsum _

/-- What can be added to a number can be added to a larger one, unless it is negative. -/
theorem add_ne_nan_of_le {x x' y : Binary64} (hy : zero.le y = true) (hsum : x.add y ≠ .nan)
    (hle : x.le x' = true) : x'.add y ≠ .nan := by
  obtain ⟨-, hx'⟩ := ne_nan_of_le hle
  rcases y with _ | _ | ⟨t, b⟩
  · exact absurd rfl (ne_nan_of_le hy).2
  · rename_i negative
    cases negative
    · -- only the least number is opposite to the infinite one, and then `x` is it as well
      rcases x' with _ | _ | ⟨s', a'⟩
      · exact absurd rfl hx'
      · rename_i negative'
        cases negative'
        · simp [add]
        · rcases x with _ | _ | ⟨s, a⟩ <;> simp [le, lt, eqv, add] at hle hsum
          rw [hle] at hsum
          exact absurd hsum (by decide)
      · simp [add]
    · simp [le, lt, eqv, zero] at hy
  · exact add_ne_nan hx' (by simp) rfl

theorem signedUnits_nonneg {t : Bool} {b : Fin ranks}
    (h : 0 ≤ (finite t b).level) : 0 ≤ signedUnits t b := by
  cases t
  · simp [signedUnits]
  · rw [level_finite, place_true] at h
    have hzero : unitsOfRank b = 0 := (unitsOfRank_eq_zero_iff b).2 (by omega)
    simp [signedUnits, hzero]

/-- A sum with a number that is not negative is not smaller. -/
theorem le_add {x y : Binary64} (hy : zero.le y = true) (hsum : x.add y ≠ .nan) :
    x.le (x.add y) = true := by
  have hy' : y ≠ .nan := (ne_nan_of_le hy).2
  have hx' : x ≠ .nan := by
    rintro rfl
    exact hsum rfl
  rw [le_iff hx' hsum]
  rw [le_iff (by simp [zero]) hy'] at hy
  have hzero : zero.level = 0 := rfl
  rw [hzero] at hy
  rcases x with _ | s | ⟨s, a⟩
  · exact absurd rfl hx'
  · rcases y with _ | t | ⟨t, b⟩
    · exact absurd rfl hy'
    · cases s <;> cases t <;> simp [add] at hsum ⊢
    · simp [add]
  · rcases y with _ | t | ⟨t, b⟩
    · exact absurd rfl hy'
    · have hranks : (0 : Int) < ranks := by decide
      have ha := place_lt_ranks s a
      cases t
      · simp only [add, level_finite, level_infinite, place_false]
        omega
      · simp only [level_infinite, place_true] at hy
        omega
    · have hb := signedUnits_nonneg hy
      rw [level_add, ← roundedLevel_signedUnits]
      exact roundedLevel_mono (by omega)

theorem level_bounds (x : Binary64) : -(ranks : Int) ≤ x.level ∧ x.level ≤ ranks := by
  have hpos : (0 : Int) < ranks := by decide
  rcases x with _ | s | ⟨s, a⟩
  · exact ⟨by simp only [level]; omega, by simp only [level]; omega⟩
  · cases s <;> simp only [level_infinite, place_false, place_true] <;> omega
  · have := place_lt_ranks s a
    rw [level_finite]
    omega

/-- The sums of two numbers with a finite one are in the order of the numbers. -/
theorem add_le_add_right {x y z : Binary64} (hz : z ≠ .nan) (hfin : z.isInfinite = false)
    (h : x.le y = true) : (x.add z).le (y.add z) = true := by
  obtain ⟨hx, hy⟩ := ne_nan_of_le h
  rw [le_iff (add_ne_nan hx hz hfin) (add_ne_nan hy hz hfin)]
  rw [le_iff hx hy] at h
  have hranks : (0 : Int) < ranks := by decide
  rcases z with _ | u | ⟨u, c⟩
  · exact absurd rfl hz
  · simp [isInfinite] at hfin
  rcases x with _ | s | ⟨s, a⟩
  · exact absurd rfl hx
  · cases s
    · -- nothing but the greatest number is as large
      rcases y with _ | t | ⟨t, b⟩
      · exact absurd rfl hy
      · cases t
        · exact Int.le_refl _
        · simp only [level_infinite, place_false, place_true] at h
          omega
      · have := place_lt_ranks t b
        simp only [level_infinite, level_finite, place_false] at h
        omega
    · exact (level_bounds _).1
  · rcases y with _ | t | ⟨t, b⟩
    · exact absurd rfl hy
    · cases t
      · exact (level_bounds _).2
      · have := place_lt_ranks s a
        simp only [level_infinite, level_finite, place_true] at h
        omega
    · rw [level_add, level_add]
      have := signedUnits_mono h
      exact roundedLevel_mono (by omega)

end PacScript.Binary64
