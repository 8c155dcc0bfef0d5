import PacScript.Proofs.Calendar.Date
import PacScript.Proofs.Period.Between
import PacScript.Proofs.Period.DateReading

/-!
# Dates that recur

A range of dates without a year comes back every year, or every month when it has days only. Each
time it is one interval of dates, which goes on into the next year or month where its last bound
comes before its first (`recurs`). With a year it comes once, and not at all where its last bound
comes before its first.
-/

namespace PacScript.DateRange

open PacScript.Period

/-- The value of a year lies in an interval that starts in some year and ends in the same year or,
where the last bound comes before the first, in the next. -/
def InYears (year : Int) (value start stop : List Int) : Prop :=
  ∃ y : Int, y :: start ≤ year :: value ∧
    year :: value ≤ (if start ≤ stop then y else y + 1) :: stop

/-- The month after a month of a year. -/
def nextMonth (year month : Int) : Int × Int :=
  if month = 12 then (year + 1, 1) else (year, month + 1)

/-- The value of a month of a year lies in an interval that starts in some month and ends in the
same month or, where the last bound comes before the first, in the next. -/
def InMonths (year month : Int) (value start stop : List Int) : Prop :=
  ∃ y m : Int, (1 ≤ m ∧ m ≤ 12) ∧ y :: m :: start ≤ year :: month :: value ∧
    ∃ y' m', (y', m') = (if start ≤ stop then (y, m) else nextMonth y m) ∧
      year :: month :: value ≤ y' :: m' :: stop

/-- Months can be counted through the years. -/
theorem month_le_iff {y m y' m' : Int} {as bs : List Int} (hm : 1 ≤ m ∧ m ≤ 12)
    (hm' : 1 ≤ m' ∧ m' ≤ 12) :
    y :: m :: as ≤ y' :: m' :: bs ↔ (12 * y + m) :: as ≤ (12 * y' + m') :: bs := by
  simp only [cons_le_cons_iff]
  constructor
  · rintro (h | ⟨rfl, h | ⟨rfl, h⟩⟩)
    · exact Or.inl (by omega)
    · exact Or.inl (by omega)
    · exact Or.inr ⟨rfl, h⟩
  · rintro (h | ⟨heq, h⟩)
    · omega
    · exact Or.inr ⟨by omega, Or.inr ⟨by omega, h⟩⟩

theorem exists_month (k : Int) : ∃ y m : Int, (1 ≤ m ∧ m ≤ 12) ∧ k = 12 * y + m :=
  ⟨(k - 1) / 12, (k - 1) % 12 + 1, by omega, by omega⟩

theorem nextMonth_spec {y m y' m' : Int} (hm : 1 ≤ m ∧ m ≤ 12) (h : (y', m') = nextMonth y m) :
    (1 ≤ m' ∧ m' ≤ 12) ∧ 12 * y' + m' = 12 * y + m + 1 := by
  unfold nextMonth at h
  split_ifs at h <;> cases h <;> omega

variable {value start stop : List Int}

theorem between_iff_inYears (year : Int) :
    between value start stop true = true ↔ InYears year value start stop :=
  between_rounds year

theorem between_iff_inMonths (year : Int) {month : Int} (hmonth : 1 ≤ month ∧ month ≤ 12) :
    between value start stop true = true ↔ InMonths year month value start stop := by
  have hround (y m y' m' : Int) (hm : 1 ≤ m ∧ m ≤ 12)
      (h : (y', m') = if start ≤ stop then (y, m) else nextMonth y m) : (1 ≤ m' ∧ m' ≤ 12) ∧
        12 * y' + m' = if start ≤ stop then 12 * y + m else 12 * y + m + 1 := by
    split_ifs at h ⊢
    · cases h
      exact ⟨hm, rfl⟩
    · exact nextMonth_spec hm h
  rw [between_rounds (12 * year + month)]
  constructor
  · rintro ⟨k, hfirst, hlast⟩
    obtain ⟨y, m, hm, rfl⟩ := exists_month k
    obtain ⟨y', m', h⟩ : ∃ y' m', (y', m') = if start ≤ stop then (y, m) else nextMonth y m :=
      ⟨_, _, rfl⟩
    obtain ⟨hm', heq⟩ := hround y m y' m' hm h
    refine ⟨y, m, hm, (month_le_iff hm hmonth).2 hfirst, y', m', h, (month_le_iff hmonth hm').2 ?_⟩
    rwa [heq]
  · rintro ⟨y, m, hm, hfirst, y', m', h, hlast⟩
    obtain ⟨hm', heq⟩ := hround y m y' m' hm h
    refine ⟨12 * y + m, (month_le_iff hm hmonth).1 hfirst, ?_⟩
    rw [← heq]
    exact (month_le_iff hmonth hm').1 hlast

variable {args : List Value} {r : DateRange}

/-- The fields of a range are those of a partial date. -/
theorem exists_bound_of_ofArgs (hr : ofArgs args = .ok r) :
    (r.fields = [.month] ∨ r.fields = [.month, .day] ∨ r.fields = [.day]) ∨
      r.fields = [.year] ∨ r.fields = [.year, .month] ∨ r.fields = [.year, .month, .day] := by
  obtain ⟨values, gmt, -, h | h⟩ := ofArgs_ok_iff.1 hr
  · cases h <;> simp
  · cases h <;> simp

theorem includes_of_project {system : SystemClock} {now moment : Instant} {local? : Option Zone}
    (h : now.project system r.gmt local? = .ok moment) : r.includes system now local? =
      .ok (between (r.fields.map (DateField.of moment.date)) r.start r.stop
        (!r.fields.contains .year)) := by
  rw [includes, h]
  rfl

/-- A range without a year includes an instant exactly when the date that clocks show lies in one of
its yearly or monthly intervals. A range with a year includes none when its last bound comes before
its first. -/
theorem recurs (hr : ofArgs args = .ok r) {system : SystemClock} {now moment : Instant}
    {local? : Option Zone} (hmoment : now.project system r.gmt local? = .ok moment) :
    ∃ included year month day, r.includes system now local? = .ok included ∧
      moment.date = ⟨year, month, day⟩ ∧
      (r.fields = [.month] → (included = true ↔ InYears year [month] r.start r.stop)) ∧
      (r.fields = [.month, .day] → (included = true ↔ InYears year [month, day] r.start r.stop)) ∧
      (r.fields = [.day] → (included = true ↔ InMonths year month [day] r.start r.stop)) ∧
      (.year ∉ r.fields → r.fields = [.month] ∨ r.fields = [.month, .day] ∨ r.fields = [.day]) ∧
      (.year ∈ r.fields → r.stop < r.start → included = false) := by
  have hmonth : 1 ≤ (moment.date.month : Int) ∧ (moment.date.month : Int) ≤ 12 := by
    have := (Date.ofDayNumber_spec moment.dayNumber).1.month
    exact ⟨by exact_mod_cast this.1, by exact_mod_cast this.2⟩
  refine ⟨_, _, _, _, includes_of_project hmoment, rfl, ?_, ?_, ?_, ?_, ?_⟩
  · intro hfields
    simp only [hfields]
    exact between_iff_inYears _
  · intro hfields
    simp only [hfields]
    exact between_iff_inYears _
  · intro hfields
    simp only [hfields]
    exact between_iff_inMonths _ hmonth
  · intro hyear
    refine (exists_bound_of_ofArgs hr).resolve_right ?_
    rintro (h | h | h) <;> simp [h] at hyear
  · intro hyear hbefore
    rw [← Bool.not_eq_true, between_of_lt hbefore]
    simp [hyear]

/-- From the 28th to the 20th, on the day after a leap day. -/
theorem recurs_leapMonth :
    let r : DateRange := ⟨[.day], [28], [20], false, false⟩
    let system := Zones.universal.system
    let z : Zone := ⟨none, fun _ => 345 * Instant.microsPerMinute⟩
    let now := Instant.ofParts ⟨2024, 2, 29⟩ 84600 0 (some 0)
    let moment := Instant.ofParts ⟨2024, 3, 1⟩ 18900 0 (some (345 * Instant.microsPerMinute))
    (ofArgs [.int 28, .int 20] = .ok r ∧ now.project system false (some z) = .ok moment) ∧
      r.includes system now (some z) = .ok true := by
  intro r system z now moment
  have hr : ofArgs [.int 28, .int 20] = .ok r := rfl
  have hmoment : now.project system false (some z) = .ok moment := by decide +kernel
  obtain ⟨included, year, month, day, hincludes, hdate, -, -, hdays, -⟩ := recurs hr hmoment
  have hshown : moment.date = ⟨2024, 3, 1⟩ := by decide +kernel
  obtain ⟨rfl, rfl, rfl⟩ : 2024 = year ∧ 3 = month ∧ 1 = day := by
    simpa using hshown.symm.trans hdate
  have hin : InMonths 2024 3 [1] [28] [20] :=
    ⟨2024, 2, by decide, by decide, 2024, 3, by decide, by decide⟩
  obtain rfl := (hdays rfl).2 hin
  exact ⟨⟨hr, hmoment⟩, hincludes⟩

end PacScript.DateRange
