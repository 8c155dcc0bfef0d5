import PacScript.Proofs.Calendar.Date

/-!
# Days of the week

The first of January 1970 was a Thursday, and the weekday advances by one with each day. Since every
date is reached from that one day by day, forward or back, this says on which weekday each date
falls (`FallsOn`), and it is the weekday of the date's number (`fallsOn_iff`).
-/

namespace PacScript.Date

/-- The day after. -/
def next (d : Date) : Date :=
  if d.day < daysInMonth d.year d.month then ⟨d.year, d.month, d.day + 1⟩
  else if d.month < 12 then ⟨d.year, d.month + 1, 1⟩
  else ⟨d.year + 1, 1, 1⟩

/-- The weekday on which a date falls, counted from Sunday. -/
inductive FallsOn : Date → Nat → Prop
  | thursday : FallsOn ⟨1970, 1, 1⟩ 4
  | next {d : Date} {n : Nat} (h : FallsOn d n) : FallsOn d.next ((n + 1) % 7)
  | previous {d : Date} {n : Nat} (hd : d.IsReal) (hn : n < 7) (h : FallsOn d.next ((n + 1) % 7)) :
      FallsOn d n

/-! ## The day after -/

variable {d e : Date} {n : Nat}

theorem daysInMonth_pos (year : Nat) {month : Nat} (h : 1 ≤ month ∧ month ≤ 12) :
    1 ≤ daysInMonth year month := by
  obtain ⟨m, rfl⟩ : ∃ m, month = m + 1 := ⟨month - 1, by omega⟩
  have hlength : m < (monthLengths (isLeap year)).length := h.2
  have hlengths : ∀ leap, ∀ n ∈ monthLengths leap, 1 ≤ n := by decide
  rw [daysInMonth, List.getElem?_eq_getElem hlength]
  exact hlengths _ _ (List.getElem_mem hlength)

theorem IsReal.next (h : d.IsReal) : d.next.IsReal := by
  obtain ⟨hyear, hmonth, hday⟩ := h
  unfold Date.next
  split_ifs with hlast hyearEnd
  · exact ⟨hyear, hmonth, Nat.succ_pos _, hlast⟩
  · have hmonth' : 1 ≤ d.month + 1 ∧ d.month + 1 ≤ 12 := ⟨Nat.succ_pos _, hyearEnd⟩
    exact ⟨hyear, hmonth', Nat.le_refl 1, daysInMonth_pos _ hmonth'⟩
  · have hmonth' : 1 ≤ 1 ∧ 1 ≤ 12 := by decide
    exact ⟨Nat.succ_pos _, hmonth', Nat.le_refl 1, daysInMonth_pos _ hmonth'⟩

theorem IsReal.dayNumber_next (h : d.IsReal) : d.next.dayNumber = d.dayNumber + 1 := by
  obtain ⟨hyear, hmonth, hday⟩ := h
  unfold Date.next
  split_ifs with hlast hyearEnd
  · simp only [dayNumber]
    omega
  · obtain ⟨m, hm⟩ : ∃ m, d.month = m + 1 := ⟨d.month - 1, by omega⟩
    rw [hm] at hday hlast
    simp only [dayNumber, hm, daysBeforeMonth_succ]
    omega
  · have hdecember : d.month = 12 := by omega
    have hmonths : daysBeforeMonth d.year 13 =
        daysBeforeMonth d.year 12 + daysInMonth d.year 12 := daysBeforeMonth_succ d.year 11
    have hlastMonth := daysBeforeMonth_last d.year
    have hfirst : daysBeforeMonth (d.year + 1) 1 = 0 := rfl
    rw [hdecember] at hday hlast
    simp only [dayNumber, hdecember, daysBeforeYear_succ hyear, hfirst]
    omega

theorem eq_of_dayNumber_eq (hd : d.IsReal) (he : e.IsReal) (h : d.dayNumber = e.dayNumber) :
    d = e := by
  have hle := (dayNumber_le_iff hd he).1 h.le
  have hge := (dayNumber_le_iff he hd).1 h.ge
  obtain ⟨year, month, day⟩ := d
  obtain ⟨year', month', day'⟩ := e
  simp only [mk.injEq] at hle hge ⊢
  omega

theorem ofDayNumber_succ (n : Nat) : ofDayNumber (n + 1) = (ofDayNumber n).next := by
  obtain ⟨hreal, hnumber⟩ := ofDayNumber_spec n
  obtain ⟨hreal', hnumber'⟩ := ofDayNumber_spec (n + 1)
  refine eq_of_dayNumber_eq hreal' hreal.next ?_
  rw [hreal.dayNumber_next, hnumber, hnumber']

/-! ## Weekdays -/

theorem weekdayOf_succ (n : Nat) : weekdayOf (n + 1) = (weekdayOf n + 1) % 7 := by
  unfold weekdayOf
  omega

/-- The number of the first of January 1970. -/
def firstThursday : Nat := 719162

theorem ofDayNumber_firstThursday : ofDayNumber firstThursday = ⟨1970, 1, 1⟩ := by decide +kernel

theorem FallsOn.weekdayOf_dayNumber (h : FallsOn d n) : d.IsReal ∧ n = weekdayOf d.dayNumber := by
  induction h with
  | thursday =>
    rw [← ofDayNumber_firstThursday]
    obtain ⟨hreal, hnumber⟩ := ofDayNumber_spec firstThursday
    rw [hnumber]
    exact ⟨hreal, rfl⟩
  | next _ ih =>
    obtain ⟨hreal, rfl⟩ := ih
    exact ⟨hreal.next, by rw [hreal.dayNumber_next, weekdayOf_succ]⟩
  | previous hd hn _ ih =>
    obtain ⟨-, heq⟩ := ih
    rw [hd.dayNumber_next] at heq
    refine ⟨hd, ?_⟩
    unfold weekdayOf at heq ⊢
    omega

/-- Days before the first of January 1970 are counted back from it, and later ones forward. -/
theorem fallsOn_ofDayNumber (n : Nat) : FallsOn (ofDayNumber n) (weekdayOf n) := by
  have hthursday : FallsOn (ofDayNumber firstThursday) (weekdayOf firstThursday) := by
    rw [ofDayNumber_firstThursday]
    exact .thursday
  rcases Nat.le_total firstThursday n with h | h
  · induction n, h using Nat.le_induction with
    | base => exact hthursday
    | succ n _ ih =>
      rw [ofDayNumber_succ, weekdayOf_succ]
      exact .next ih
  · induction h using Nat.decreasingInduction with
    | self => exact hthursday
    | of_succ n _ ih =>
      rw [ofDayNumber_succ, weekdayOf_succ] at ih
      exact .previous (ofDayNumber_spec n).1 (Nat.mod_lt _ (by decide)) ih

theorem fallsOn_iff : FallsOn d n ↔ d.IsReal ∧ n = weekdayOf d.dayNumber := by
  refine ⟨FallsOn.weekdayOf_dayNumber, ?_⟩
  rintro ⟨hreal, rfl⟩
  obtain ⟨hreal', hnumber⟩ := ofDayNumber_spec d.dayNumber
  rw [← eq_of_dayNumber_eq hreal' hreal hnumber, hnumber]
  exact fallsOn_ofDayNumber _

end PacScript.Date
