import PacScript.Number.Binary64

/-!
# The order of floating-point numbers

Every number has a level, its place with the infinite ones at both ends, and numbers compare as
their levels do (`lt_iff`, `le_iff`). What is not a number compares with nothing.
-/

namespace PacScript.Binary64

/-- The place of a number among all numbers. -/
def level : Binary64 → Int
  | .nan => 0
  | .infinite s => place s ranks
  | .finite s rank => place s rank

@[simp] theorem place_false (rank : Nat) : place false rank = rank := rfl

@[simp] theorem place_true (rank : Nat) : place true rank = -(rank : Int) := rfl

@[simp] theorem level_infinite (s : Bool) : (infinite s).level = place s ranks := rfl

@[simp] theorem level_finite (s : Bool) (rank : Fin ranks) :
    (finite s rank).level = place s rank := rfl

theorem place_lt_ranks (s : Bool) (rank : Fin ranks) :
    -(ranks : Int) < place s rank ∧ place s rank < ranks := by
  have h : rank.val < ranks := rank.isLt
  cases s <;> simp only [place_false, place_true] <;> omega

variable {x y : Binary64}

theorem lt_iff (hx : x ≠ .nan) (hy : y ≠ .nan) : x.lt y = true ↔ x.level < y.level := by
  have hpos : (0 : Int) < ranks := by decide
  rcases x with _ | s | ⟨s, a⟩
  · exact absurd rfl hx
  · rcases y with _ | t | ⟨t, b⟩
    · exact absurd rfl hy
    · cases s <;> cases t <;> simp only [lt, level_infinite, place_false, place_true, Bool.not_true,
        Bool.not_false, Bool.and_true, Bool.and_false, Bool.false_eq_true, false_iff, true_iff] <;>
        omega
    · have := place_lt_ranks t b
      cases s <;> simp only [lt, level_infinite, level_finite, place_false, place_true,
        Bool.false_eq_true, false_iff, true_iff] <;> omega
  · rcases y with _ | t | ⟨t, b⟩
    · exact absurd rfl hy
    · have := place_lt_ranks s a
      cases t <;> simp only [lt, level_infinite, level_finite, place_false, place_true,
        Bool.not_true, Bool.not_false, Bool.false_eq_true, false_iff, true_iff] <;> omega
    · simp [lt]

theorem eqv_iff (hx : x ≠ .nan) (hy : y ≠ .nan) : x.eqv y = true ↔ x.level = y.level := by
  have hpos : (0 : Int) < ranks := by decide
  rcases x with _ | s | ⟨s, a⟩
  · exact absurd rfl hx
  · rcases y with _ | t | ⟨t, b⟩
    · exact absurd rfl hy
    · cases s <;> cases t <;> simp [eqv] <;> omega
    · have := place_lt_ranks t b
      cases s <;> simp only [eqv, level_infinite, level_finite, place_false, place_true,
        Bool.false_eq_true, false_iff] <;> omega
  · rcases y with _ | t | ⟨t, b⟩
    · exact absurd rfl hy
    · have := place_lt_ranks s a
      cases t <;> simp only [eqv, level_infinite, level_finite, place_false, place_true,
        Bool.false_eq_true, false_iff] <;> omega
    · simp [eqv]

theorem le_iff (hx : x ≠ .nan) (hy : y ≠ .nan) : x.le y = true ↔ x.level ≤ y.level := by
  rw [le, Bool.or_eq_true, lt_iff hx hy, eqv_iff hx hy]
  omega

theorem le_self (hx : x ≠ .nan) : x.le x = true := (le_iff hx hx).2 (Int.le_refl _)

theorem ne_nan_of_lt (h : x.lt y = true) : x ≠ .nan ∧ y ≠ .nan := by
  constructor
  · rintro rfl
    simp [lt] at h
  · rintro rfl
    cases x <;> simp [lt] at h

theorem ne_nan_of_le (h : x.le y = true) : x ≠ .nan ∧ y ≠ .nan := by
  constructor
  · rintro rfl
    simp [le, lt, eqv] at h
  · rintro rfl
    cases x <;> simp [le, lt, eqv] at h

theorem le_of_lt (h : x.lt y = true) : x.le y = true := by
  rw [le, h, Bool.true_or]

theorem le_trans {z : Binary64} (hxy : x.le y = true) (hyz : y.le z = true) : x.le z = true := by
  obtain ⟨hx, hy⟩ := ne_nan_of_le hxy
  have hz := (ne_nan_of_le hyz).2
  rw [le_iff hx hy] at hxy
  rw [le_iff hy hz] at hyz
  rw [le_iff hx hz]
  omega

theorem lt_of_lt_of_le {z : Binary64} (hxy : x.lt y = true) (hyz : y.le z = true) :
    x.lt z = true := by
  obtain ⟨hx, hy⟩ := ne_nan_of_lt hxy
  have hz := (ne_nan_of_le hyz).2
  rw [lt_iff hx hy] at hxy
  rw [le_iff hy hz] at hyz
  rw [lt_iff hx hz]
  omega

theorem lt_of_le_of_lt {z : Binary64} (hxy : x.le y = true) (hyz : y.lt z = true) :
    x.lt z = true := by
  obtain ⟨hx, hy⟩ := ne_nan_of_le hxy
  have hz := (ne_nan_of_lt hyz).2
  rw [le_iff hx hy] at hxy
  rw [lt_iff hy hz] at hyz
  rw [lt_iff hx hz]
  omega

theorem le_of_not_lt (hx : x ≠ .nan) (hy : y ≠ .nan) (h : x.lt y = false) : y.le x = true := by
  rw [le_iff hy hx]
  rw [← Bool.not_eq_true, lt_iff hx hy] at h
  omega

theorem lt_of_not_le (hx : x ≠ .nan) (hy : y ≠ .nan) (h : x.le y = false) : y.lt x = true := by
  rw [lt_iff hy hx]
  rw [← Bool.not_eq_true, le_iff hx hy] at h
  omega

theorem not_lt_of_le (h : x.le y = true) : y.lt x = false := by
  obtain ⟨hx, hy⟩ := ne_nan_of_le h
  rw [← Bool.not_eq_true, lt_iff hy hx]
  rw [le_iff hx hy] at h
  omega

theorem not_le_of_lt (h : x.lt y = true) : y.le x = false := by
  obtain ⟨hx, hy⟩ := ne_nan_of_lt h
  rw [← Bool.not_eq_true, le_iff hy hx]
  rw [lt_iff hx hy] at h
  omega

end PacScript.Binary64
