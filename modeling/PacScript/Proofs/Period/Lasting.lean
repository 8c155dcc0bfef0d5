import PacScript.Proofs.Period.Instants
import PacScript.Proofs.Period.Recurring

/-!
# Ranges that last

On clocks that are always the same time ahead of universal time, later instants show later dates
(`date_mono`). So a range of dates with a year lasts from its first instant to its last without a
gap, and one between two full dates holds on the days between them, as days are numbered (`lasts`).
-/

namespace PacScript

namespace Instant

/-- What is read on universal clocks, or else on local ones, is read on clocks that are always the
same time ahead of universal time. -/
def OnFixed (gmt : Bool) (local? : Option Zone) : Prop :=
  gmt = true ∨ ∃ z offset, local? = some z ∧ z.IsFixed offset

variable {system : SystemClock} {i j k m n : Instant} {gmt : Bool} {local? : Option Zone}

theorem OnFixed.exists_offset (h : OnFixed gmt local?) :
    ∃ offset, (Zone.asked system gmt local?).IsFixed offset := by
  rcases h with rfl | ⟨z, offset, rfl, hfixed⟩
  · exact ⟨0, fun _ => rfl⟩
  · cases gmt with
    | true => exact ⟨0, fun _ => rfl⟩
    | false => exact ⟨offset, hfixed⟩

/-- The first instant is of no later moment than the second. -/
def NotAfter (z : Zone) (i j : Instant) : Prop :=
  ∃ moment moment', i.Denotes z moment ∧ j.Denotes z moment' ∧ moment ≤ moment'

/-- Clocks show later instants later. -/
theorem wall_mono (hclock : OnFixed gmt local?) (hij : i.NotAfter (Zone.asked system gmt local?) j)
    (hm : i.project system gmt local? = .ok m) (hn : j.project system gmt local? = .ok n) :
    m.wall ≤ n.wall := by
  obtain ⟨offset, hfixed⟩ := @hclock.exists_offset system
  obtain ⟨moment, moment', hi, hj, hle⟩ := hij
  rw [wall_of_project hi hm, wall_of_project hj hn, hfixed, hfixed]
  exact Int.add_le_add_right hle offset

theorem dayNumber_mono (h : m.wall ≤ n.wall) : m.dayNumber ≤ n.dayNumber :=
  Int.toNat_le_toNat (Int.ediv_le_ediv (by decide) h)

end Instant

namespace DateRange

open Period

/-- The components of a date, largest first. -/
def row (d : Date) : List Int := [DateField.year, .month, .day].map (DateField.of d)

variable {d e : Date}

theorem row_le_iff (hd : d.IsReal) (he : e.IsReal) : row d ≤ row e ↔ d.dayNumber ≤ e.dayNumber := by
  rw [Date.dayNumber_le_iff hd he]
  simp only [row, List.map_cons, List.map_nil, DateField.of, cons_le_cons_iff, Std.le_refl,
    and_true]
  omega

/-- A later date is no smaller when its last components are left out. -/
theorem map_of_le {fields : List DateField}
    (hfields : fields = [.year] ∨ fields = [.year, .month] ∨ fields = [.year, .month, .day])
    (h : row d ≤ row e) : fields.map (DateField.of d) ≤ fields.map (DateField.of e) := by
  rcases hfields with rfl | rfl | rfl
  · simp only [row, List.map_cons, List.map_nil, cons_le_cons_iff, Std.le_refl, and_true] at h ⊢
    omega
  · simp only [row, List.map_cons, List.map_nil, cons_le_cons_iff, Std.le_refl, and_true] at h ⊢
    omega
  · exact h

theorem date_mono {m n : Instant} (h : m.wall ≤ n.wall) : row m.date ≤ row n.date := by
  obtain ⟨hm, hday⟩ := Date.ofDayNumber_spec m.dayNumber
  obtain ⟨hn, hday'⟩ := Date.ofDayNumber_spec n.dayNumber
  refine (row_le_iff hm hn).2 ?_
  rw [hday, hday']
  exact Instant.dayNumber_mono h

/-- An instant that the range includes can be shown by the clocks that it is read on. -/
theorem exists_project_of_includes {r : DateRange} {system : SystemClock} {now : Instant}
    {local? : Option Zone} (h : r.includes system now local? = .ok true) :
    ∃ shown, now.project system r.gmt local? = .ok shown ∧
      between (r.fields.map (DateField.of shown.date)) r.start r.stop
        (!r.fields.contains .year) = true := by
  obtain ⟨shown, hshown, hbetween⟩ := bind_ok_iff.1 h
  exact ⟨shown, hshown, Except.ok.inj hbetween⟩

/-- A range with a year includes every instant between two that it includes, on clocks that are
always the same time ahead of universal time. Between two full dates of the calendar, it includes
the instants for which clocks show one of the days from the first date to the last. -/
theorem lasts {args : List Value} {r : DateRange} (hr : ofArgs args = .ok r)
    (hyear : .year ∈ r.fields) (system : SystemClock) {local? : Option Zone}
    (hclock : Instant.OnFixed r.gmt local?) :
    let z := Zone.asked system r.gmt local?
    (∀ first now last shown : Instant, first.NotAfter z now → now.NotAfter z last →
      now.project system r.gmt local? = .ok shown →
      r.includes system first local? = .ok true → r.includes system last local? = .ok true →
      r.includes system now local? = .ok true) ∧
    (r.fields = [.year, .month, .day] → ∀ start stop : Date, start.IsReal → stop.IsReal →
      r.start = [(start.year : Int), start.month, start.day] →
      r.stop = [(stop.year : Int), stop.month, stop.day] →
      ∀ now shown : Instant, now.project system r.gmt local? = .ok shown →
        ∃ included, r.includes system now local? = .ok included ∧ (included = true ↔
          start.dayNumber ≤ shown.date.dayNumber ∧ shown.date.dayNumber ≤ stop.dayNumber)) := by
  intro z
  have hwraps : (!r.fields.contains .year) = false := by simpa using hyear
  constructor
  · intro first now last shown hfirst hlast hshown hincludes hincludes'
    obtain ⟨m, hm, hbetween⟩ := exists_project_of_includes hincludes
    obtain ⟨n, hn, hbetween'⟩ := exists_project_of_includes hincludes'
    have hmp := Instant.wall_mono hclock hfirst hm hshown
    have hpn := Instant.wall_mono hclock hlast hshown hn
    have hfields : r.fields = [.year] ∨ r.fields = [.year, .month] ∨
        r.fields = [.year, .month, .day] := by
      refine (exists_bound_of_ofArgs hr).resolve_left ?_
      rintro (h | h | h) <;> simp [h] at hyear
    rw [hwraps] at hbetween hbetween'
    rw [includes_of_project hshown, hwraps]
    exact congrArg Except.ok (between_of_between hbetween hbetween'
      (map_of_le hfields (date_mono hmp)) (map_of_le hfields (date_mono hpn)))
  · intro hfields start stop hstart hstop hrow hrow' now shown hshown
    have hreal : shown.date.IsReal := (Date.ofDayNumber_spec shown.dayNumber).1
    refine ⟨_, includes_of_project hshown, ?_⟩
    rw [hwraps, hfields, hrow, hrow']
    show between (row shown.date) (row start) (row stop) false = true ↔ _
    rcases le_or_gt (row start) (row stop) with hle | hlt
    · rw [between_of_le hle, row_le_iff hstart hreal, row_le_iff hreal hstop]
    · have hdays : stop.dayNumber < start.dayNumber := by
        rw [← Nat.not_le, ← row_le_iff hstart hstop]
        exact hlt.not_ge
      rw [between_of_lt hlt]
      simp only [Bool.false_eq_true, false_and, false_iff]
      omega

/-- From the day before a leap day to the day after it. -/
theorem lasts_leapDay :
    let r : DateRange := ⟨[.year, .month, .day], [2024, 2, 28], [2024, 3, 1], false, false⟩
    let system := Zones.universal.system
    let z := Zone.ahead 345
    let first := Instant.ofParts ⟨2024, 2, 27⟩ 84600 0 (some 0)
    let now := Instant.ofParts ⟨2024, 2, 29⟩ 43200 0 (some (120 * Instant.microsPerMinute))
    let last := Instant.ofParts ⟨2024, 3, 1⟩ 43200 0 (some (345 * Instant.microsPerMinute))
    let shown := Instant.ofParts ⟨2024, 3, 1⟩ 43200 0 (some (345 * Instant.microsPerMinute))
    (ofArgs [.int 28, .int 2, .int 2024, .int 1, .int 3, .int 2024] = .ok r ∧
      first.NotAfter z now ∧ now.NotAfter z last ∧
      last.project system false (some z) = .ok shown) ∧
      r.includes system first (some z) = .ok true ∧ r.includes system last (some z) = .ok true ∧
      r.includes system now (some z) = .ok true := by
  intro r system z first now last shown
  have hr : ofArgs [.int 28, .int 2, .int 2024, .int 1, .int 3, .int 2024] = .ok r := rfl
  have hclock : Instant.OnFixed r.gmt (some z) := Or.inr ⟨_, _, rfl, Zone.isFixed_ahead 345⟩
  obtain ⟨hbetween, hdays⟩ := lasts hr (by decide) system hclock
  have hfirst : first.NotAfter z now :=
    ⟨first.wall, now.wall - 120 * Instant.microsPerMinute, ⟨by decide +kernel, by decide +kernel⟩,
      ⟨by decide +kernel, by decide +kernel⟩, by decide +kernel⟩
  have hlast : now.NotAfter z last :=
    ⟨now.wall - 120 * Instant.microsPerMinute, last.wall - 345 * Instant.microsPerMinute,
      ⟨by decide +kernel, by decide +kernel⟩, ⟨by decide +kernel, by decide +kernel⟩,
      by decide +kernel⟩
  have hshown : first.project system false (some z) = .ok (Instant.ofParts ⟨2024, 2, 28⟩ 18900 0
      (some (345 * Instant.microsPerMinute))) := by decide +kernel
  have hshown' : last.project system false (some z) = .ok shown := by decide +kernel
  have hshown'' : now.project system false (some z) = .ok (Instant.ofParts ⟨2024, 2, 29⟩ 56700 0
      (some (345 * Instant.microsPerMinute))) := by decide +kernel
  have hstart : Date.IsReal ⟨2024, 2, 28⟩ := ⟨by decide, by decide, by decide⟩
  have hstop : Date.IsReal ⟨2024, 3, 1⟩ := ⟨by decide, by decide, by decide⟩
  have hholds := hdays rfl ⟨2024, 2, 28⟩ ⟨2024, 3, 1⟩ hstart hstop rfl rfl
  obtain ⟨included, hincluded, hiff⟩ := hholds first _ hshown
  obtain rfl := hiff.2 (by decide +kernel)
  obtain ⟨included', hincluded', hiff'⟩ := hholds last _ hshown'
  obtain rfl := hiff'.2 (by decide +kernel)
  exact ⟨⟨hr, hfirst, hlast, hshown'⟩, hincluded, hincluded',
    hbetween first now last _ hfirst hlast hshown'' hincluded hincluded'⟩

end DateRange

end PacScript
