import PacScript.Period.Reading
import PacScript.Proofs.Period.Argument
import PacScript.Proofs.Period.Between

/-!
# Ranges of times of day

Arguments give a range of times when, without a final `GMT`, they have one of the forms of `Reads`
(`ofArgs_ok_iff`). What such a range includes is told on the circle of the seconds of a day
(`ofArgs_circular`).
-/

namespace PacScript

theorem Instant.secondOfDay_lt (i : Instant) : i.secondOfDay < 86400 := by
  unfold secondOfDay microsPerDay microsPerSecond
  omega

namespace TimeRange

open PacScript.Period

/-- The second of the day when clocks show a time. -/
def clock (h m s : Int) : Int := h * 3600 + m * 60 + s

/-- The value denotes a whole number from zero to a limit. -/
def Within (limit : Int) (v : Value) (n : Int) : Prop := Denotes v n ∧ 0 ≤ n ∧ n ≤ limit

/-- The range of times that values give: an hour, or two different hours, or times with minutes, or
with minutes and seconds. -/
inductive Reads (gmt : Bool) : List Value → TimeRange → Prop
  | hour {v : Value} {h : Int} (hv : Within 23 v h) :
      Reads gmt [v] ⟨clock h 0 0, clock h 59 59, gmt, true⟩
  | sameHour {v w : Value} {h : Int} (hv : Within 23 v h) (hw : Within 23 w h) :
      Reads gmt [v, w] ⟨clock h 0 0, clock h 59 59, gmt, true⟩
  | hours {v w : Value} {h k : Int} (hv : Within 23 v h) (hw : Within 23 w k) (hne : h ≠ k) :
      Reads gmt [v, w] ⟨clock h 0 0, clock k 0 59, gmt, false⟩
  | minutes {v₁ v₂ w₁ w₂ : Value} {h₁ m₁ h₂ m₂ : Int}
      (hh₁ : Within 23 v₁ h₁) (hm₁ : Within 59 v₂ m₁)
      (hh₂ : Within 23 w₁ h₂) (hm₂ : Within 59 w₂ m₂) :
      Reads gmt [v₁, v₂, w₁, w₂] ⟨clock h₁ m₁ 0, clock h₂ m₂ 59, gmt, false⟩
  | seconds {v₁ v₂ v₃ w₁ w₂ w₃ : Value} {h₁ m₁ s₁ h₂ m₂ s₂ : Int}
      (hh₁ : Within 23 v₁ h₁) (hm₁ : Within 59 v₂ m₁) (hs₁ : Within 59 v₃ s₁)
      (hh₂ : Within 23 w₁ h₂) (hm₂ : Within 59 w₂ m₂) (hs₂ : Within 59 w₃ s₂) :
      Reads gmt [v₁, v₂, v₃, w₁, w₂, w₃] ⟨clock h₁ m₁ s₁, clock h₂ m₂ s₂, gmt, false⟩

theorem hour_ok_iff {v : Value} {n : Int} : hour v = .ok n ↔ Within 23 v n := bounded_ok_iff

theorem minute_ok_iff {v : Value} {n : Int} : minute v = .ok n ↔ Within 59 v n := bounded_ok_iff

theorem second_ok_iff {v : Value} {n : Int} : second v = .ok n ↔ Within 59 v n := bounded_ok_iff

theorem ofHour_eq (h : Int) (gmt : Bool) :
    ofHour h gmt = ⟨clock h 0 0, clock h 59 59, gmt, true⟩ := by
  simp [ofHour, clock, Int.add_assoc]

/-! ## The forms -/

section Forms

variable {args : List Value} {gmt : Bool} {r : TimeRange}

theorem ofArgs_one {v : Value} (hs : splitGmt args = ([v], gmt)) :
    ofArgs args = .ok r ↔ Reads gmt [v] r := by
  simp only [ofArgs, hs, bind_ok_iff, hour_ok_iff, ofHour_eq, Except.ok.injEq]
  constructor
  · rintro ⟨h, hv, rfl⟩
    exact .hour hv
  · intro h
    cases h with
    | hour hv => exact ⟨_, hv, rfl⟩

theorem ofArgs_two {v w : Value} (hs : splitGmt args = ([v, w], gmt)) :
    ofArgs args = .ok r ↔ Reads gmt [v, w] r := by
  simp only [ofArgs, hs, bind_ok_iff, hour_ok_iff, ofHour_eq]
  constructor
  · rintro ⟨h, hv, k, hw, heq⟩
    split at heq
    · rename_i hhk
      subst hhk
      cases heq
      exact .sameHour hv hw
    · rename_i hhk
      cases heq
      have hreads := @Reads.hours gmt _ _ _ _ hv hw hhk
      simpa [clock] using hreads
  · intro h
    cases h with
    | sameHour hv hw => exact ⟨_, hv, _, hw, if_pos rfl⟩
    | hours hv hw hne => exact ⟨_, hv, _, hw, by rw [if_neg hne]; simp [clock]⟩

theorem ofArgs_four {v₁ v₂ w₁ w₂ : Value} (hs : splitGmt args = ([v₁, v₂, w₁, w₂], gmt)) :
    ofArgs args = .ok r ↔ Reads gmt [v₁, v₂, w₁, w₂] r := by
  simp only [ofArgs, hs, bind_ok_iff, hour_ok_iff, minute_ok_iff, Except.ok.injEq]
  constructor
  · rintro ⟨h₁, hh₁, m₁, hm₁, h₂, hh₂, m₂, hm₂, rfl⟩
    have hreads := @Reads.minutes gmt _ _ _ _ _ _ _ _ hh₁ hm₁ hh₂ hm₂
    simpa [clock] using hreads
  · intro h
    cases h with
    | minutes hh₁ hm₁ hh₂ hm₂ => exact ⟨_, hh₁, _, hm₁, _, hh₂, _, hm₂, by simp [clock]⟩

theorem ofArgs_six {v₁ v₂ v₃ w₁ w₂ w₃ : Value}
    (hs : splitGmt args = ([v₁, v₂, v₃, w₁, w₂, w₃], gmt)) :
    ofArgs args = .ok r ↔ Reads gmt [v₁, v₂, v₃, w₁, w₂, w₃] r := by
  simp only [ofArgs, hs, bind_ok_iff, hour_ok_iff, minute_ok_iff, second_ok_iff, Except.ok.injEq]
  constructor
  · rintro ⟨h₁, hh₁, m₁, hm₁, s₁, hs₁, h₂, hh₂, m₂, hm₂, s₂, hs₂, rfl⟩
    exact .seconds hh₁ hm₁ hs₁ hh₂ hm₂ hs₂
  · intro h
    cases h with
    | seconds hh₁ hm₁ hs₁ hh₂ hm₂ hs₂ =>
      exact ⟨_, hh₁, _, hm₁, _, hs₁, _, hh₂, _, hm₂, _, hs₂, rfl⟩

end Forms

theorem ofArgs_ok_iff {args : List Value} {r : TimeRange} :
    ofArgs args = .ok r ↔ ∃ values gmt, Given args values gmt ∧ Reads gmt values r := by
  obtain ⟨values, gmt, hs⟩ : ∃ values gmt, splitGmt args = (values, gmt) := ⟨_, _, rfl⟩
  rw [exists_given_iff hs]
  rcases values with _ | ⟨v₁, _ | ⟨v₂, _ | ⟨v₃, _ | ⟨v₄, _ | ⟨v₅, _ | ⟨v₆, _ | ⟨v₇, rest⟩⟩⟩⟩⟩⟩⟩
  case cons.nil => exact ofArgs_one hs
  case cons.cons.nil => exact ofArgs_two hs
  case cons.cons.cons.cons.nil => exact ofArgs_four hs
  case cons.cons.cons.cons.cons.cons.nil => exact ofArgs_six hs
  all_goals
    simp only [ofArgs, hs]
    exact ⟨fun h => (nomatch h), fun h => (nomatch h)⟩

/-! ## What a range includes -/

theorem Reads.bounds {gmt : Bool} {values : List Value} {r : TimeRange} (h : Reads gmt values r) :
    (0 ≤ r.start ∧ r.start < 86400) ∧ 0 ≤ r.stop ∧ r.stop < 86400 := by
  cases h <;> simp only [Within] at * <;> simp only [clock] <;> omega

/-- Arguments give a range of times exactly when they have one of the forms. Whenever clocks show a
time, the range includes it exactly when it is no further after the first bound, around the clock,
than the last bound is; so a range that ends before it starts goes past midnight, and both bounds
are included. -/
theorem ofArgs_circular (args : List Value) :
    (∀ r, ofArgs args = .ok r ↔ ∃ values gmt, Given args values gmt ∧ Reads gmt values r) ∧
    ∀ r, ofArgs args = .ok r →
      ∀ (system : SystemClock) (now : Instant) (local? : Option Zone) (shown : Instant),
      now.project system r.gmt local? = .ok shown →
      ∃ included, r.includes system now local? = .ok included ∧
        (included = true ↔
          ((shown.secondOfDay : Int) - r.start) % 86400 ≤ (r.stop - r.start) % 86400) ∧
        (r.stop < r.start →
          (included = true ↔ r.start ≤ shown.secondOfDay ∨ shown.secondOfDay ≤ r.stop)) ∧
        (shown.secondOfDay = r.start ∨ shown.secondOfDay = r.stop → included = true) := by
  refine ⟨fun r => ofArgs_ok_iff, fun r hr system now local? shown hshown => ?_⟩
  obtain ⟨values, gmt, -, hreads⟩ := ofArgs_ok_iff.1 hr
  obtain ⟨hstart, hstop⟩ := hreads.bounds
  have hsecond : 0 ≤ (shown.secondOfDay : Int) ∧ (shown.secondOfDay : Int) < 86400 := by
    have := shown.secondOfDay_lt
    omega
  refine ⟨between [(shown.secondOfDay : Int)] [r.start] [r.stop] true, ?_,
    between_circular hsecond hstart hstop, fun hwraps => ?_, fun hbound => ?_⟩
  · simp only [includes, hshown]
    rfl
  · rw [between_singleton, if_neg (by omega)]
  · rw [between_singleton]
    split <;> omega

/-- From half past ten at night to six in the morning, a quarter past midnight. -/
theorem ofArgs_circular_midnight :
    let args : List Value := [.text " 22 ", .int 30, .null, .int 6, .int 0, .text "gmt"]
    let r : TimeRange := ⟨81000, 21659, true, false⟩
    let system := Zones.universal.system
    let now := Instant.ofParts ⟨2024, 2, 28⟩ 8100 0 (some (120 * Instant.microsPerMinute))
    (Given args [.text " 22 ", .int 30, .int 6, .int 0] true ∧
      Reads true [.text " 22 ", .int 30, .int 6, .int 0] r) ∧
    ofArgs args = .ok r ∧ r.includes system now none = .ok true := by
  intro args r system now
  have hgiven : Given args [.text " 22 ", .int 30, .int 6, .int 0] true :=
    .gmt rfl ⟨_, rfl, by decide +kernel⟩
  have hten : Within 23 (.text " 22 ") 22 :=
    ⟨whole?_eq_some_iff.1 (by decide +kernel), by decide, by decide⟩
  have hthirty : Within 59 (.int 30) 30 :=
    ⟨whole?_eq_some_iff.1 (by decide +kernel), by decide, by decide⟩
  have hsix : Within 23 (.int 6) 6 :=
    ⟨whole?_eq_some_iff.1 (by decide +kernel), by decide, by decide⟩
  have hzero : Within 59 (.int 0) 0 :=
    ⟨whole?_eq_some_iff.1 (by decide +kernel), by decide, by decide⟩
  have hreads : Reads true [.text " 22 ", .int 30, .int 6, .int 0] r :=
    .minutes hten hthirty hsix hzero
  obtain ⟨hforms, hcircle⟩ := ofArgs_circular args
  have hr : ofArgs args = .ok r := (hforms r).2 ⟨_, _, hgiven, hreads⟩
  have hshown : now.project system true none =
      .ok (Instant.ofParts ⟨2024, 2, 28⟩ 900 0 (some 0)) := by decide +kernel
  obtain ⟨included, hincluded, -, hwraps, -⟩ := hcircle r hr system now none _ hshown
  obtain rfl := (hwraps (by decide)).2 (Or.inr (by decide +kernel))
  exact ⟨⟨hgiven, hreads⟩, hr, hincluded⟩

end TimeRange

end PacScript
