import Mathlib.Order.Monotone.Basic
import Mathlib.Tactic.SplitIfs
import PacScript.Calendar.Date

/-!
# Dates and day numbers

Day numbers go through the calendar without a gap. Every number is that of a date that the calendar
has (`ofDayNumber_spec`), and of two such dates the one with the smaller number is the earlier by
year, month and day (`dayNumber_le_iff`).
-/

namespace PacScript.Date

/-- The date is one of the Gregorian calendar, carried back to year 1 and on without end. -/
structure IsReal (d : Date) : Prop where
  year : 1 ≤ d.year
  month : 1 ≤ d.month ∧ d.month ≤ 12
  day : 1 ≤ d.day ∧ d.day ≤ daysInMonth d.year d.month

/-! ## Months of a year -/

theorem foldl_add_cons (n : Nat) (ns : List Nat) :
    (n :: ns).foldl (· + ·) 0 = n + ns.foldl (· + ·) 0 := by
  rw [List.foldl_cons, Nat.zero_add]
  exact @List.foldl_assoc Nat (· + ·) _ ns n 0

/-- The days before a month and those of the month come to the days before the next one. -/
theorem daysBeforeMonth_succ (year month : Nat) :
    daysBeforeMonth year (month + 2) =
      daysBeforeMonth year (month + 1) + daysInMonth year (month + 1) := by
  simp only [daysBeforeMonth, daysInMonth]
  show List.foldl _ 0 ((monthLengths (isLeap year)).take (month + 1)) = _
  rw [List.take_add_one, List.foldl_append]
  rcases (monthLengths (isLeap year))[month]? with _ | n <;> rfl

/-- The number of days of a year. -/
def daysInYear (year : Nat) : Nat := if isLeap year then 366 else 365

theorem daysBeforeMonth_last (year : Nat) : daysBeforeMonth year 13 = daysInYear year := by
  unfold daysBeforeMonth daysInYear
  cases isLeap year <;> rfl

theorem daysBeforeMonth_le {year m n : Nat} (hm : 1 ≤ m) (h : m < n) :
    daysBeforeMonth year m + daysInMonth year m ≤ daysBeforeMonth year n := by
  obtain ⟨m, rfl⟩ : ∃ k, m = k + 1 := ⟨m - 1, by omega⟩
  induction n, h using Nat.le_induction with
  | base => exact (daysBeforeMonth_succ year m).ge
  | succ n hn ih =>
    obtain ⟨n, rfl⟩ : ∃ k, n = k + 1 := ⟨n - 1, by omega⟩
    rw [daysBeforeMonth_succ]
    omega

/-! ## Years -/

theorem isLeap_iff {year : Nat} :
    isLeap year = true ↔ year % 4 = 0 ∧ (year % 100 ≠ 0 ∨ year % 400 = 0) := by
  simp [isLeap]

theorem daysInYear_ge (year : Nat) : 365 ≤ daysInYear year := by
  unfold daysInYear
  split_ifs <;> omega

theorem succ_div_eq (year k : Nat) :
    (year + 1) / k = year / k + if (year + 1) % k = 0 then 1 else 0 := by
  simp only [Nat.succ_div, Nat.dvd_iff_mod_eq_zero]

theorem daysBeforeYear_succ {year : Nat} (h : 1 ≤ year) :
    daysBeforeYear (year + 1) = daysBeforeYear year + daysInYear year := by
  obtain ⟨y, rfl⟩ : ∃ y, year = y + 1 := ⟨year - 1, by omega⟩
  have hfour : (y + 1) % 100 = 0 → (y + 1) % 4 = 0 := by omega
  have hcentury : (y + 1) % 400 = 0 → (y + 1) % 100 = 0 := by omega
  have hfewer : y / 100 ≤ y / 4 := Nat.div_le_div_left (by decide) (by decide)
  simp only [daysBeforeYear, daysInYear, isLeap_iff, Nat.add_sub_cancel, succ_div_eq]
  generalize y / 4 = fours at *
  generalize y / 100 = centuries at *
  split_ifs <;> omega

theorem daysBeforeYear_le {m n : Nat} (hm : 1 ≤ m) (h : m < n) :
    daysBeforeYear m + daysInYear m ≤ daysBeforeYear n := by
  induction n, h using Nat.le_induction with
  | base => exact (daysBeforeYear_succ hm).ge
  | succ n hn ih =>
    rw [daysBeforeYear_succ (by omega)]
    omega

/-! ## The order of days -/

variable {d e : Date}

theorem IsReal.dayNumber_lt (h : d.IsReal) :
    d.dayNumber < daysBeforeYear d.year + (daysBeforeMonth d.year d.month +
      daysInMonth d.year d.month) := by
  have := h.day
  unfold dayNumber
  omega

theorem dayNumber_ge (d : Date) :
    daysBeforeYear d.year + daysBeforeMonth d.year d.month ≤ d.dayNumber := by
  unfold dayNumber
  omega

theorem IsReal.month_lt (h : d.IsReal) :
    daysBeforeMonth d.year d.month + daysInMonth d.year d.month ≤ daysInYear d.year := by
  rw [← daysBeforeMonth_last]
  exact daysBeforeMonth_le h.month.1 (Nat.lt_succ_of_le h.month.2)

theorem dayNumber_lt_of_year (hd : d.IsReal) (h : d.year < e.year) : d.dayNumber < e.dayNumber := by
  have := hd.dayNumber_lt
  have := hd.month_lt
  have := daysBeforeYear_le hd.year h
  have := dayNumber_ge e
  omega

theorem dayNumber_lt_of_month (hd : d.IsReal) (hyear : d.year = e.year) (h : d.month < e.month) :
    d.dayNumber < e.dayNumber := by
  have hlt := hd.dayNumber_lt
  have hle : daysBeforeMonth d.year d.month + _ ≤ _ := daysBeforeMonth_le hd.month.1 h
  have hge := dayNumber_ge e
  rw [← hyear] at hge
  omega

theorem dayNumber_le_iff (hd : d.IsReal) (he : e.IsReal) : d.dayNumber ≤ e.dayNumber ↔
    d.year < e.year ∨ d.year = e.year ∧
      (d.month < e.month ∨ d.month = e.month ∧ d.day ≤ e.day) := by
  rcases Nat.lt_trichotomy d.year e.year with hyear | hyear | hyear
  · have := dayNumber_lt_of_year hd hyear
    omega
  · rcases Nat.lt_trichotomy d.month e.month with hmonth | hmonth | hmonth
    · have := dayNumber_lt_of_month hd hyear hmonth
      omega
    · have := hd.day
      have := he.day
      unfold dayNumber
      rw [hyear, hmonth]
      omega
    · have := dayNumber_lt_of_month he hyear.symm hmonth
      omega
  · have := dayNumber_lt_of_year he hyear
    omega

/-! ## The date of a day -/

theorem inMonths_spec (lengths : List Nat) (month rest : Nat)
    (h : rest < lengths.foldl (· + ·) 0) : ∃ i n day, lengths[i]? = some n ∧ day < n ∧
      inMonths lengths month rest = (month + i, day + 1) ∧
      (lengths.take i).foldl (· + ·) 0 + day = rest := by
  induction lengths generalizing month rest with
  | nil => exact absurd h (Nat.not_lt_zero _)
  | cons n more ih =>
    unfold inMonths
    split_ifs with hrest
    · exact ⟨0, n, rest, rfl, hrest, rfl, Nat.zero_add _⟩
    · rw [foldl_add_cons] at h
      obtain ⟨i, k, day, hi, hday, heq, hsum⟩ := ih (month + 1) (rest - n) (by omega)
      refine ⟨i + 1, k, day, hi, hday, ?_, ?_⟩
      · rw [heq, Nat.add_assoc, Nat.add_comm 1]
      · rw [List.take_succ_cons, foldl_add_cons]
        omega

/-- The day of a year, counted from zero, is a real date of the year. -/
theorem inMonths_real {year rest : Nat} (hyear : 1 ≤ year) (h : rest < daysInYear year) :
    ∃ month day, inMonths (monthLengths (isLeap year)) 1 rest = (month, day) ∧
      IsReal ⟨year, month, day⟩ ∧ daysBeforeMonth year month + (day - 1) = rest := by
  have htotal : rest < (monthLengths (isLeap year)).foldl (· + ·) 0 := by
    rw [← daysBeforeMonth_last] at h
    exact h
  obtain ⟨i, n, day, hi, hday, heq, hsum⟩ := inMonths_spec _ 1 rest htotal
  have hlength : i < 12 := (List.getElem?_eq_some_iff.1 hi).1
  refine ⟨i + 1, day + 1, by rw [heq, Nat.add_comm], ⟨hyear, ⟨Nat.succ_pos i, hlength⟩, ?_⟩, hsum⟩
  have hn : daysInMonth year (i + 1) = n := by rw [daysInMonth, hi]; rfl
  simp only [hn]
  omega

/-- A year by its place in its four years, these in their century, and this in its four. -/
theorem daysBeforeYear_parts {a b c e : Nat} (hb : b ≤ 3) (hc : c ≤ 24) (he : e ≤ 3) :
    daysBeforeYear (a * 400 + b * 100 + c * 4 + e + 1) =
      a * 146097 + b * 36524 + c * 1461 + e * 365 := by
  unfold daysBeforeYear
  have hfour : (a * 400 + b * 100 + c * 4 + e) / 4 = a * 100 + b * 25 + c := by omega
  have hcentury : (a * 400 + b * 100 + c * 4 + e) / 100 = a * 4 + b := by omega
  have hcenturies : (a * 400 + b * 100 + c * 4 + e) / 400 = a := by omega
  simp only [Nat.add_sub_cancel, hfour, hcentury, hcenturies]
  omega

/-- A year that ends its four years has a day more, unless it ends a century as well. -/
theorem isLeap_parts {a b c : Nat} (hc : c ≤ 24) (hcentury : c = 24 → b = 3) :
    isLeap (a * 400 + b * 100 + c * 4 + 3 + 1) = true := by
  rw [isLeap_iff]
  refine ⟨by omega, ?_⟩
  by_cases hlast : c = 24
  · exact Or.inr (by omega)
  · exact Or.inl (by omega)

theorem ofDayNumber_eq (n : Nat) : ∃ year rest, 1 ≤ year ∧ rest < daysInYear year ∧
    daysBeforeYear year + rest = n ∧
    ofDayNumber n = ⟨year, (inMonths (monthLengths (isLeap year)) 1 rest).1,
      (inMonths (monthLengths (isLeap year)) 1 rest).2⟩ := by
  -- the days that are left at each division, and what bounds them
  obtain ⟨a, r₁, ha, hr₁, hn⟩ : ∃ a r₁, a = n / 146097 ∧ r₁ = n % 146097 ∧ n = a * 146097 + r₁ :=
    ⟨_, _, rfl, rfl, by omega⟩
  obtain ⟨b, r₂, hb, hr₂, hcentury⟩ : ∃ b r₂, b = min 3 (r₁ / 36524) ∧ r₂ = r₁ - b * 36524 ∧
      r₁ = b * 36524 + r₂ := ⟨_, _, rfl, rfl, by omega⟩
  obtain ⟨c, r₃, hc, hr₃, hfour⟩ : ∃ c r₃, c = r₂ / 1461 ∧ r₃ = r₂ % 1461 ∧
      r₂ = c * 1461 + r₃ := ⟨_, _, rfl, rfl, by omega⟩
  obtain ⟨e, rest, he, hrest, hyear⟩ : ∃ e rest, e = min 3 (r₃ / 365) ∧ rest = r₃ - e * 365 ∧
      r₃ = e * 365 + rest := ⟨_, _, rfl, rfl, by omega⟩
  have hparts := @daysBeforeYear_parts a b c e (by omega) (by omega) (by omega)
  have hlt : rest < daysInYear (a * 400 + b * 100 + c * 4 + e + 1) := by
    by_cases hshort : rest < 365
    · exact Nat.lt_of_lt_of_le hshort (daysInYear_ge _)
    · obtain rfl : e = 3 := by omega
      rw [daysInYear, if_pos (isLeap_parts (by omega) (by omega))]
      omega
  refine ⟨a * 400 + b * 100 + c * 4 + e + 1, rest, Nat.succ_pos _, hlt, by omega, ?_⟩
  subst ha hr₁ hb hr₂ hc hr₃ he hrest
  rfl

theorem ofDayNumber_spec (n : Nat) : (ofDayNumber n).IsReal ∧ (ofDayNumber n).dayNumber = n := by
  obtain ⟨year, rest, hyear, hrest, hn, heq⟩ := ofDayNumber_eq n
  obtain ⟨month, day, hmonths, hreal, hsum⟩ := inMonths_real hyear hrest
  rw [heq, hmonths]
  refine ⟨hreal, ?_⟩
  simp only [dayNumber]
  omega

end PacScript.Date
