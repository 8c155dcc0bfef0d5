import Mathlib.Data.Int.Order.Basic
import Mathlib.Data.List.Lex
import Mathlib.Tactic.SplitIfs
import PacScript.Period.Range

/-!
# Values between two bounds

Rows of numbers are compared as words are in a dictionary (`rowLe_iff`). Where values go round, as
the seconds of a day do, a value lies between two bounds when it is no further after the first bound
than the second bound is (`between_circular`). Rounds can be counted: a value of some round lies
between two bounds exactly when it does so on the line of all rounds, from the first bound of one
round to the last bound of the same round or, where that would be earlier, of the next
(`between_rounds`).
-/

namespace PacScript.Period

variable {m s a b : Int} {as bs : List Int}

@[simp] theorem rowLe_singleton : rowLe [a] [b] = true ↔ a ≤ b := by
  simp only [rowLe, Bool.and_true, Bool.or_eq_true, decide_eq_true_eq, beq_iff_eq]
  omega

theorem between_singleton : between [s] [a] [b] true = true ↔
    if a ≤ b then a ≤ s ∧ s ≤ b else a ≤ s ∨ s ≤ b := by
  unfold between
  split_ifs <;> simp_all

/-- How far a value is after another one on a circle. -/
theorem emod_sub_of_lt (hs : 0 ≤ s ∧ s < m) (ha : 0 ≤ a ∧ a < m) :
    (s - a) % m = if a ≤ s then s - a else s - a + m := by
  split_ifs with h
  · exact Int.emod_eq_of_lt (by omega) (by omega)
  · rw [← Int.add_emod_right]
    exact Int.emod_eq_of_lt (by omega) (by omega)

theorem between_circular (hs : 0 ≤ s ∧ s < m) (ha : 0 ≤ a ∧ a < m) (hb : 0 ≤ b ∧ b < m) :
    between [s] [a] [b] true = true ↔ (s - a) % m ≤ (b - a) % m := by
  rw [between_singleton, emod_sub_of_lt hs ha, emod_sub_of_lt hb ha]
  split_ifs <;> omega

/-! ## Rows of numbers -/

theorem cons_le_cons_iff : a :: as ≤ b :: bs ↔ a < b ∨ a = b ∧ as ≤ bs := by
  rw [← not_lt, List.cons_lt_cons_iff, ← not_lt]
  rcases lt_trichotomy a b with h | rfl | h
  · simp [h, h.not_gt, h.ne']
  · simp
  · simp [h, h.not_gt, h.ne']

theorem rowLe_iff : rowLe as bs = true ↔ as ≤ bs := by
  induction as generalizing bs with
  | nil => simp [rowLe, ← not_lt]
  | cons a as ih =>
    rcases bs with _ | ⟨b, bs⟩
    · simp [rowLe, ← not_lt]
    · simp [rowLe, cons_le_cons_iff, ih]

variable {value start stop : List Int} {wraps : Bool}

theorem between_of_le (h : start ≤ stop) :
    between value start stop wraps = true ↔ start ≤ value ∧ value ≤ stop := by
  rw [between, if_pos (rowLe_iff.2 h), Bool.and_eq_true, rowLe_iff, rowLe_iff]

theorem between_of_lt (h : stop < start) : between value start stop wraps = true ↔
    wraps = true ∧ (start ≤ value ∨ value ≤ stop) := by
  rw [between, if_neg (fun hle => (rowLe_iff.1 hle).not_gt h)]
  cases wraps <;> simp [rowLe_iff]

/-- What lies between two values lies between the bounds as well, where these do not go round. -/
theorem between_of_between {first last : List Int} (hfirst : between first start stop false = true)
    (hlast : between last start stop false = true) (h : first ≤ value) (h' : value ≤ last) :
    between value start stop false = true := by
  rcases le_or_gt start stop with hle | hlt
  · rw [between_of_le hle] at hfirst hlast ⊢
    exact ⟨hfirst.1.trans h, h'.trans hlast.2⟩
  · rw [between_of_lt hlt] at hfirst
    exact absurd hfirst.1 Bool.false_ne_true

theorem between_rounds (round : Int) : between value start stop true = true ↔
    ∃ k, k :: start ≤ round :: value ∧
      round :: value ≤ (if start ≤ stop then k else k + 1) :: stop := by
  rcases le_or_gt start stop with h | h
  · simp only [between_of_le h, if_pos h, cons_le_cons_iff]
    constructor
    · exact fun hvalue => ⟨round, Or.inr ⟨rfl, hvalue.1⟩, Or.inr ⟨rfl, hvalue.2⟩⟩
    · rintro ⟨k, hfirst, hlast⟩
      obtain rfl : k = round := by omega
      simpa using And.intro hfirst hlast
  · simp only [between_of_lt h, if_neg h.not_ge, cons_le_cons_iff, true_and]
    constructor
    · rintro (hvalue | hvalue)
      · exact ⟨round, Or.inr ⟨rfl, hvalue⟩, Or.inl (Int.lt_succ round)⟩
      · exact ⟨round - 1, Or.inl (by omega), Or.inr ⟨by omega, hvalue⟩⟩
    · rintro ⟨k, hfirst, hlast⟩
      rcases hfirst with hfirst | ⟨-, hfirst⟩
      · exact Or.inr (hlast.resolve_left (by omega)).2
      · exact Or.inl hfirst

end PacScript.Period
