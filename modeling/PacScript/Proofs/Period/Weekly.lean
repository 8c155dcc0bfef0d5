import PacScript.Proofs.Calendar.Weekday
import PacScript.Proofs.Period.Lasting
import PacScript.Proofs.Period.WeekdayReading

/-!
# Weeks

On clocks that are always the same time ahead of universal time, each day later shows the next day
(`dayNumber_daysLater`). So a range from one weekday to another includes, of any seven days in a
row, as many as there are from the one weekday to the other, and the same ones in every week
(`weekly`).
-/

namespace PacScript

namespace Instant

/-- The instant some days later, on the same clock. -/
def daysLater (i : Instant) (days : Nat) : Instant := i.later (days * microsPerDay)

variable {system : SystemClock} {i m m' : Instant} {z : Zone} {moment : Int} {gmt : Bool}
  {local? : Option Zone} {n : Nat}

theorem fallsOn_date_iff : i.date.FallsOn n ↔ n = i.weekday := by
  obtain ⟨hreal, hnumber⟩ := Date.ofDayNumber_spec i.dayNumber
  rw [Date.fallsOn_iff]
  unfold date weekday
  rw [hnumber]
  exact and_iff_right hreal

theorem weekday_lt (i : Instant) : i.weekday < 7 := Nat.mod_lt _ (by decide)

/-- The clock face some time later shows the moment that much later, if the clocks of the zone are
never put forward or back. -/
theorem Denotes.later {offset : Int} (hfixed : z.IsFixed offset) (h : i.Denotes z moment)
    (duration : Int) : (i.later duration).Denotes z (moment + duration) where
  offset := by
    refine h.offset.trans (congrArg some ?_)
    show i.wall - moment = i.wall + duration - (moment + duration)
    omega
  shown hon := by
    have hshown := h.shown hon
    rw [hfixed] at hshown ⊢
    show offset = i.wall + duration - (moment + duration)
    omega

/-- Clocks show instants of the calendar in the calendar. -/
theorem inCalendar_of_project (hi : i.Denotes (Zone.asked system gmt local?) moment)
    (hcalendar : inCalendar i.wall = true) (hm : i.project system gmt local? = .ok m) :
    inCalendar m.wall = true := by
  rw [project_eq hi.offset] at hm
  rcases hon : i.isOn (Zone.asked system gmt local?) with _ | _
  · obtain ⟨-, hshown, rfl⟩ := (hi.inZone_eq_ok_iff hon).1 hm
    exact hshown
  · rw [inZone_of_isOn hon] at hm
    cases hm
    exact hcalendar

section Fixed

variable (hclock : OnFixed gmt local?) (hi : i.Denotes (Zone.asked system gmt local?) moment)
  (hm : i.project system gmt local? = .ok m)

include hclock hi hm

theorem wall_daysLater (hm' : (i.daysLater n).project system gmt local? = .ok m') :
    m'.wall = m.wall + n * microsPerDay := by
  obtain ⟨offset, hfixed⟩ := @hclock.exists_offset system
  rw [wall_of_project hi hm, wall_of_project (hi.later hfixed _) hm', hfixed, hfixed]
  omega

section Calendar

variable (hcalendar : inCalendar i.wall = true)
  (hm' : (i.daysLater n).project system gmt local? = .ok m')

include hcalendar hm'

/-- Days later, clocks show as many days more. -/
theorem dayNumber_daysLater : m'.dayNumber = m.dayNumber + n := by
  have hpos : 0 ≤ m.wall / microsPerDay := by
    have hshown := inCalendar_of_project hi hcalendar hm
    simp only [inCalendar, Bool.and_eq_true, decide_eq_true_eq] at hshown
    exact Int.ediv_nonneg hshown.1 (by decide)
  unfold dayNumber
  rw [wall_daysLater hclock hi hm hm', Int.add_mul_ediv_right _ _ (by decide)]
  omega

theorem weekday_daysLater : m'.weekday = (m.weekday + n) % 7 := by
  unfold weekday Date.weekdayOf
  rw [dayNumber_daysLater hclock hi hm hcalendar hm']
  omega

end Calendar

theorem exists_project_daysLater {k : Nat} (hnk : n ≤ k)
    (hm' : (i.daysLater k).project system gmt local? = .ok m') :
    ∃ shown, (i.daysLater n).project system gmt local? = .ok shown := by
  obtain ⟨offset, hfixed⟩ := @hclock.exists_offset system
  have hn := hi.later hfixed (n * microsPerDay)
  have hk := hi.later hfixed (k * microsPerDay)
  unfold daysLater at hm' ⊢
  rw [project_eq hi.offset] at hm
  rw [project_eq hk.offset] at hm'
  rw [project_eq hn.offset]
  rcases hon : i.isOn (Zone.asked system gmt local?) with _ | _
  · -- What the clocks show on that day lies between what they show on the first and on the last.
    obtain ⟨hutc, hshown, -⟩ := (hi.inZone_eq_ok_iff hon).1 hm
    obtain ⟨hutc', hshown', -⟩ := (hk.inZone_eq_ok_iff hon).1 hm'
    have hpos : 0 ≤ (n : Int) * microsPerDay := Int.mul_nonneg (Int.natCast_nonneg n) (by decide)
    have hdays : (n : Int) * microsPerDay ≤ k * microsPerDay :=
      Int.mul_le_mul_of_nonneg_right (Int.ofNat_le.2 hnk) (by decide)
    simp only [hfixed _, inCalendar, Bool.and_eq_true, decide_eq_true_eq]
      at hutc hshown hutc' hshown'
    refine ⟨_, (hn.inZone_eq_ok_iff hon).2 ⟨?_, ?_, rfl⟩⟩
    · simp only [inCalendar, Bool.and_eq_true, decide_eq_true_eq]
      omega
    · simp only [hfixed _, inCalendar, Bool.and_eq_true, decide_eq_true_eq]
      omega
  · exact ⟨_, inZone_of_isOn hon⟩

end Fixed

end Instant

theorem Period.NamesWeekday.bounds {v : Value} {d : Int} (h : NamesWeekday v d) :
    0 ≤ d ∧ d < 7 := by
  obtain ⟨s, i, -, hi, rfl⟩ := h
  have hlength : i < 7 := (List.getElem?_eq_some_iff.1 hi).1
  omega

namespace WeekdayRange

open Period

variable {v w : Value} {a b : Int} {r : WeekdayRange} {system : SystemClock} {now shown : Instant}
  {moment : Int} {local? : Option Zone}

/-- A range includes the weekdays that are no further after its first one, around the week, than its
last one is. -/
theorem includes_eq (hstart : 0 ≤ r.start ∧ r.start < 7) (hstop : 0 ≤ r.stop ∧ r.stop < 7)
    (h : now.project system r.gmt local? = .ok shown) : r.includes system now local? =
      .ok (decide (((shown.weekday : Int) - r.start) % 7 ≤ (r.stop - r.start) % 7)) := by
  have hweekday : 0 ≤ (shown.weekday : Int) ∧ (shown.weekday : Int) < 7 := by
    have := shown.weekday_lt
    omega
  have hbetween : between [(shown.weekday : Int)] [r.start] [r.stop] true =
      decide (((shown.weekday : Int) - r.start) % 7 ≤ (r.stop - r.start) % 7) := by
    rw [Bool.eq_iff_iff, decide_eq_true_iff]
    exact between_circular hweekday hstart hstop
  rw [includes, h, ← hbetween]
  rfl

/-- Seven numbers in a row leave each remainder by seven once. -/
theorem countP_range_seven (x y : Fin 7) :
    (List.range 7).countP (fun n => decide ((x.val + n) % 7 ≤ y.val)) = y.val + 1 := by
  revert x y
  decide

section Days

variable (hstart : 0 ≤ r.start ∧ r.start < 7) (hstop : 0 ≤ r.stop ∧ r.stop < 7)
  (hclock : Instant.OnFixed r.gmt local?)
  (hnow : now.Denotes (Zone.asked system r.gmt local?) moment)
  (hcalendar : Instant.inCalendar now.wall = true)
  (hshown : now.project system r.gmt local? = .ok shown)

include hstart hstop hclock hnow hcalendar hshown

theorem includes_daysLater {n : Nat} {later : Instant}
    (hlater : (now.daysLater n).project system r.gmt local? = .ok later) :
    r.includes system (now.daysLater n) local? = .ok (decide
      ((((shown.weekday : Int) - r.start) % 7 + n) % 7 ≤ (r.stop - r.start) % 7)) := by
  rw [includes_eq hstart hstop hlater,
    Instant.weekday_daysLater hclock hnow hshown hcalendar hlater]
  congr 3
  omega

/-- Of seven days in a row, the range includes as many as there are from its first weekday to its
last one. -/
theorem countP_includes {last : Instant}
    (hlast : (now.daysLater 6).project system r.gmt local? = .ok last) :
    ((List.range 7).countP
      (fun n => decide (r.includes system (now.daysLater n) local? = .ok true)) : Int) =
        (r.stop - r.start) % 7 + 1 := by
  obtain ⟨x, hx⟩ : ∃ x : Fin 7, (x.val : Int) = ((shown.weekday : Int) - r.start) % 7 :=
    ⟨⟨(((shown.weekday : Int) - r.start) % 7).toNat, by omega⟩, by simp only; omega⟩
  obtain ⟨y, hy⟩ : ∃ y : Fin 7, (y.val : Int) = (r.stop - r.start) % 7 :=
    ⟨⟨((r.stop - r.start) % 7).toNat, by omega⟩, by simp only; omega⟩
  have hcount : (List.range 7).countP
      (fun n => decide (r.includes system (now.daysLater n) local? = .ok true)) = y.val + 1 := by
    rw [← countP_range_seven x y]
    refine List.countP_congr fun n hn => ?_
    obtain ⟨later, hlater⟩ := Instant.exists_project_daysLater hclock hnow hshown
      (Nat.le_of_lt_succ (List.mem_range.1 hn)) hlast
    rw [includes_daysLater hstart hstop hclock hnow hcalendar hshown hlater, ← hx, ← hy]
    simp only [Except.ok.injEq, decide_eq_true_eq]
    omega
  rw [hcount, ← hy]
  rfl

theorem includes_week {later : Instant}
    (hlater : (now.daysLater 7).project system r.gmt local? = .ok later) :
    r.includes system (now.daysLater 7) local? = r.includes system now local? := by
  rw [includes_daysLater hstart hstop hclock hnow hcalendar hshown hlater,
    includes_eq hstart hstop hshown]
  congr 3
  omega

end Days

/-- The names of two weekdays give a range. It includes an instant exactly when the weekday of the
date that clocks show is no further after the first of the two, around the week, than the second is.
On clocks that are always the same time ahead of universal time, it includes of seven days in a
row as many as there are from the first weekday to the second, and it says of an instant what it
says of the one a week later. -/
theorem weekly (hv : NamesWeekday v a) (hw : NamesWeekday w b) {args : List Value} {gmt : Bool}
    (hargs : Given args [v, w] gmt) (system : SystemClock) : ∃ r, ofArgs args = .ok r ∧
      (∀ (now shown : Instant) (local? : Option Zone), now.project system gmt local? = .ok shown →
        ∃ day included, (∀ n, shown.date.FallsOn n ↔ n = day) ∧
          r.includes system now local? = .ok included ∧
          (included = true ↔ ((day : Int) - a) % 7 ≤ (b - a) % 7)) ∧
      ∀ (now shown : Instant) (local? : Option Zone),
        (∃ moment, now.Denotes (Zone.asked system gmt local?) moment) →
        Instant.inCalendar now.wall = true → Instant.OnFixed gmt local? →
        now.project system gmt local? = .ok shown →
        (∀ last, (now.daysLater 6).project system gmt local? = .ok last →
          ((List.range 7).countP
            (fun n => decide (r.includes system (now.daysLater n) local? = .ok true)) : Int) =
              (b - a) % 7 + 1) ∧
        ∀ later, (now.daysLater 7).project system gmt local? = .ok later →
          r.includes system (now.daysLater 7) local? = r.includes system now local? := by
  have ha := hv.bounds
  have hb := hw.bounds
  refine ⟨⟨a, b, gmt, false⟩, ofArgs_ok_iff.2 ⟨_, _, hargs, .days hv hw⟩, ?_, ?_⟩
  · intro now shown local? hshown
    refine ⟨shown.weekday, _, fun n => Instant.fallsOn_date_iff, includes_eq ha hb hshown, ?_⟩
    exact decide_eq_true_iff
  · rintro now shown local? ⟨moment, hnow⟩ hcalendar hclock hshown
    exact
      ⟨fun last => countP_includes (r := ⟨a, b, gmt, false⟩) ha hb hclock hnow hcalendar hshown,
        fun later => includes_week (r := ⟨a, b, gmt, false⟩) ha hb hclock hnow hcalendar hshown⟩

/-- From Friday to Monday, on a Saturday before the turn of the year. -/
theorem weekly_newYear :
    let args : List Value := [.text " fri ", .null, .text "Mon", .text "gmt"]
    let system := Zones.universal.system
    let now := Instant.ofParts ⟨2023, 12, 30⟩ 84600 0 (some (120 * Instant.microsPerMinute))
    (NamesWeekday (.text " fri ") 5 ∧ NamesWeekday (.text "Mon") 1 ∧
      Given args [.text " fri ", .text "Mon"] true ∧
      now.Denotes .utc (now.wall - 120 * Instant.microsPerMinute)) ∧
    ∃ r, ofArgs args = .ok r ∧ r.includes system now none = .ok true ∧
      ((List.range 7).countP
        (fun n => decide (r.includes system (now.daysLater n) none = .ok true)) : Int) = 4 ∧
      r.includes system (now.daysLater 7) none = .ok true := by
  intro args system now
  have hfriday : NamesWeekday (.text " fri ") 5 := ⟨_, 5, rfl, by decide +kernel, rfl⟩
  have hmonday : NamesWeekday (.text "Mon") 1 := ⟨_, 1, rfl, by decide +kernel, rfl⟩
  have hgiven : Given args [.text " fri ", .text "Mon"] true :=
    .gmt rfl ⟨_, rfl, by decide +kernel⟩
  have hnow : now.Denotes .utc (now.wall - 120 * Instant.microsPerMinute) :=
    ⟨by decide +kernel, by decide +kernel⟩
  obtain ⟨r, hr, hincludes, hdays⟩ := weekly hfriday hmonday hgiven system
  have hshown : now.project system true none =
      .ok (Instant.ofParts ⟨2023, 12, 30⟩ 77400 0 (some 0)) := by decide +kernel
  have hshown' : (now.daysLater 6).project system true none =
      .ok (Instant.ofParts ⟨2024, 1, 5⟩ 77400 0 (some 0)) := by decide +kernel
  have hshown'' : (now.daysLater 7).project system true none =
      .ok (Instant.ofParts ⟨2024, 1, 6⟩ 77400 0 (some 0)) := by decide +kernel
  obtain ⟨hcount, hweek⟩ :=
    hdays now _ none ⟨_, hnow⟩ (by decide +kernel) (Or.inl rfl) hshown
  obtain ⟨day, included, hday, hincluded, hiff⟩ := hincludes now _ none hshown
  have hsaturday : day = 6 := ((hday 6).1 (Instant.fallsOn_date_iff.2 (by decide +kernel))).symm
  obtain rfl := hiff.2 (by rw [hsaturday]; decide)
  exact ⟨⟨hfriday, hmonday, hgiven, hnow⟩, r, hr, hincluded, hcount _ hshown',
    (hweek _ hshown'').trans hincluded⟩

end WeekdayRange

end PacScript
