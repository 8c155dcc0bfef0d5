import Mathlib.Tactic.SplitIfs
import PacScript.Period.Reading
import PacScript.Proofs.Period.Argument

/-!
# Ranges of dates

What one or two partial dates look like as arguments is said by `Bound` and `Span`, from the kinds
of the arguments alone. Names of months, years and days are told apart by their values, so the order
in which an overload tests for them does not matter, and the arguments of a range are exactly those
described (`ofArgs_eq_ok_iff`).
-/

namespace PacScript.DateRange

open PacScript.Period

/-- One partial date as arguments: its fields, largest first, and their values. -/
inductive Bound : List Value → List DateField → List Int → Prop
  | month {v : Value} {m : Int} (hm : NamesMonth v m) : Bound [v] [.month] [m]
  | year {v : Value} {y : Int} (hy : GivesYear v y) : Bound [v] [.year] [y]
  | day {v : Value} {d : Int} (hd : GivesDay v d) : Bound [v] [.day] [d]
  | monthDay {v w : Value} {d m : Int} (hd : GivesDay v d) (hm : GivesMonth w m) :
      Bound [v, w] [.month, .day] [m, d]
  | yearMonth {v w : Value} {m y : Int} (hm : NamesMonth v m) (hy : GivesYear w y) :
      Bound [v, w] [.year, .month] [y, m]
  | yearMonthDay {u v w : Value} {d m y : Int} (hd : GivesDay u d) (hm : GivesMonth v m)
      (hy : GivesYear w y) : Bound [u, v, w] [.year, .month, .day] [y, m, d]

/-- Two partial dates with the same fields as arguments. Of two days the second one is no number of
a month, because a day and the number of a month are one date. -/
inductive Span : List Value → List DateField → List Int → List Int → Prop
  | months {v w : Value} {m n : Int} (hm : NamesMonth v m) (hn : NamesMonth w n) :
      Span [v, w] [.month] [m] [n]
  | years {v w : Value} {y z : Int} (hy : GivesYear v y) (hz : GivesYear w z) :
      Span [v, w] [.year] [y] [z]
  | days {v w : Value} {d e : Int} (hd : GivesDay v d) (he : GivesDay w e) (hlate : 12 < e) :
      Span [v, w] [.day] [d] [e]
  | yearMonths {v₁ v₂ w₁ w₂ : Value} {m y n z : Int} (hm : NamesMonth v₁ m) (hy : GivesYear v₂ y)
      (hn : GivesMonth w₁ n) (hz : GivesYear w₂ z) :
      Span [v₁, v₂, w₁, w₂] [.year, .month] [y, m] [z, n]
  | monthDays {v₁ v₂ w₁ w₂ : Value} {d m e n : Int} (hd : GivesDay v₁ d) (hm : GivesMonth v₂ m)
      (he : GivesDay w₁ e) (hn : GivesMonth w₂ n) :
      Span [v₁, v₂, w₁, w₂] [.month, .day] [m, d] [n, e]
  | yearMonthDays {v₁ v₂ v₃ w₁ w₂ w₃ : Value} {d m y e n z : Int} (hd : GivesDay v₁ d)
      (hm : GivesMonth v₂ m) (hy : GivesYear v₃ y) (he : GivesDay w₁ e) (hn : GivesMonth w₂ n)
      (hz : GivesYear w₃ z) :
      Span [v₁, v₂, v₃, w₁, w₂, w₃] [.year, .month, .day] [y, m, d] [z, n, e]

/-- The range that values give: one partial date, which is both of its bounds, or two. -/
inductive Reads (gmt : Bool) (values : List Value) : DateRange → Prop
  | one {fields : List DateField} {bound : List Int} (h : Bound values fields bound) :
      Reads gmt values ⟨fields, bound, bound, gmt, true⟩
  | two {fields : List DateField} {start stop : List Int} (h : Span values fields start stop) :
      Reads gmt values ⟨fields, start, stop, gmt, false⟩

/-! ## Kinds of arguments -/

section Kinds

variable {v : Value} {m y d : Int}

theorem isMonthName_of_names (h : NamesMonth v m) : isMonthName v = true := isMonthName_iff.2 ⟨m, h⟩

theorem isMonthName_of_denotes {n : Int} (h : Denotes v n) : isMonthName v = false := by
  rw [← Bool.not_eq_true, isMonthName_iff]
  rintro ⟨m, hm⟩
  exact hm.not_denotes n h

theorem isYear_of_names (h : NamesMonth v m) : isYear v = false := by
  rw [← Bool.not_eq_true, isYear_iff]
  rintro ⟨y, hy⟩
  exact h.not_denotes y hy.1

theorem isDay_of_names (h : NamesMonth v m) : isDay v = false := by
  rw [← Bool.not_eq_true, isDay_iff]
  rintro ⟨d, hd⟩
  exact h.not_denotes d hd.1

theorem isYear_of_day (h : GivesDay v d) : isYear v = false := by
  rw [← Bool.not_eq_true, isYear_iff]
  rintro ⟨y, hy, hlow⟩
  have := hy.unique h.1
  have := h.2.2
  omega

theorem isDay_of_year (h : GivesYear v y) : isDay v = false := by
  rw [← Bool.not_eq_true, isDay_iff]
  rintro ⟨d, hd, -, hhigh⟩
  have := hd.unique h.1
  have := h.2
  omega

/-- The two tests for a month together. -/
theorem isMonth_iff : (isMonthName v || isMonthNumber v) = true ↔ ∃ m, GivesMonth v m := by
  rw [Bool.or_eq_true, isMonthName_iff, isMonthNumber_iff]
  simp only [GivesMonth, exists_or]

theorem not_isMonth_of_late (h : GivesDay v d) (hlate : 12 < d) :
    (isMonthName v || isMonthNumber v) = false := by
  rw [← Bool.not_eq_true, isMonth_iff]
  rintro ⟨m, hm | ⟨hm, -, hhigh⟩⟩
  · exact hm.not_denotes d h.1
  · have := hm.unique h.1
    omega

theorem names_of_gives (hv : isMonthName v = true) (h : GivesMonth v m) : NamesMonth v m := by
  refine h.resolve_right fun hm => ?_
  rw [isMonthName_of_denotes hm.1] at hv
  cases hv

end Kinds

/-! ## Partial dates -/

section Dates

variable {u v w : Value} {bound : List Int}

theorem monthDay_ok_iff :
    monthDay v w = .ok bound ↔ ∃ d m, GivesDay v d ∧ GivesMonth w m ∧ bound = [m, d] := by
  simp only [monthDay, bind_ok_iff, day_ok_iff, month_ok_iff, Except.ok.injEq]
  constructor
  · rintro ⟨d, hd, m, hm, rfl⟩
    exact ⟨d, m, hd, hm, rfl⟩
  · rintro ⟨d, m, hd, hm, rfl⟩
    exact ⟨d, hd, m, hm, rfl⟩

theorem yearMonth_ok_iff :
    yearMonth v w = .ok bound ↔ ∃ m y, GivesMonth v m ∧ GivesYear w y ∧ bound = [y, m] := by
  simp only [yearMonth, bind_ok_iff, year_ok_iff, month_ok_iff, Except.ok.injEq]
  constructor
  · rintro ⟨m, hm, y, hy, rfl⟩
    exact ⟨m, y, hm, hy, rfl⟩
  · rintro ⟨m, y, hm, hy, rfl⟩
    exact ⟨m, hm, y, hy, rfl⟩

theorem yearMonthDay_ok_iff : yearMonthDay u v w = .ok bound ↔
    ∃ d m y, GivesDay u d ∧ GivesMonth v m ∧ GivesYear w y ∧ bound = [y, m, d] := by
  simp only [yearMonthDay, bind_ok_iff, day_ok_iff, year_ok_iff, month_ok_iff, Except.ok.injEq]
  constructor
  · rintro ⟨d, hd, m, hm, y, hy, rfl⟩
    exact ⟨d, m, y, hd, hm, hy, rfl⟩
  · rintro ⟨d, m, y, hd, hm, hy, rfl⟩
    exact ⟨d, hd, m, hm, y, hy, rfl⟩

end Dates

/-! ## The overloads -/

section Overloads

variable {gmt : Bool} {r : DateRange}

theorem ofOne_ok_iff {v : Value} : ofOne gmt v = .ok r ↔ Reads gmt [v] r := by
  constructor
  · intro h
    unfold ofOne at h
    split_ifs at h with hname hyear hday <;>
      simp only [bind_ok_iff, month_ok_iff, year_ok_iff, day_ok_iff, Except.ok.injEq] at h
    · obtain ⟨m, hm, rfl⟩ := h
      exact .one (.month (names_of_gives hname hm))
    · obtain ⟨y, hy, rfl⟩ := h
      exact .one (.year hy)
    · obtain ⟨d, hd, rfl⟩ := h
      exact .one (.day hd)
  · rintro (⟨⟨hm⟩ | ⟨hy⟩ | ⟨hd⟩⟩ | ⟨⟨⟩⟩)
    · rw [ofOne, if_pos (isMonthName_of_names hm), month_ok_iff.2 (Or.inl hm)]
      rfl
    · rw [ofOne, isMonthName_of_denotes hy.1, if_pos (isYear_iff.2 ⟨_, hy⟩), year_ok_iff.2 hy]
      rfl
    · rw [ofOne, isMonthName_of_denotes hd.1, isYear_of_day hd, if_pos (isDay_iff.2 ⟨_, hd⟩),
        day_ok_iff.2 hd]
      rfl

theorem ofTwo_ok_iff {v w : Value} : ofTwo gmt v w = .ok r ↔ Reads gmt [v, w] r := by
  constructor
  · intro h
    unfold ofTwo at h
    split_ifs at h with hmonthDay hyearMonth hname hyear hday <;>
      simp only [bind_ok_iff, monthDay_ok_iff, yearMonth_ok_iff, namedMonth_ok_iff, year_ok_iff,
        day_ok_iff, Except.ok.injEq] at h
    · obtain ⟨_, ⟨d, m, hd, hm, rfl⟩, rfl⟩ := h
      exact .one (.monthDay hd hm)
    · obtain ⟨_, ⟨m, y, hm, hy, rfl⟩, rfl⟩ := h
      rw [Bool.and_eq_true] at hyearMonth
      exact .one (.yearMonth (names_of_gives hyearMonth.1 hm) hy)
    · obtain ⟨m, hm, n, hn, rfl⟩ := h
      exact .two (.months hm hn)
    · obtain ⟨y, hy, z, hz, rfl⟩ := h
      exact .two (.years hy hz)
    · obtain ⟨d, hd, e, he, rfl⟩ := h
      refine .two (.days hd he ?_)
      -- otherwise the second day would have been the number of a month
      simp only [hday, Bool.true_and, isMonth_iff, not_exists] at hmonthDay
      have hnot : ¬NumbersMonth w e := fun hnumber => hmonthDay e (Or.inr hnumber)
      by_contra hearly
      exact hnot ⟨he.1, he.2.1, Int.not_lt.1 hearly⟩
  · rintro (⟨h⟩ | ⟨h⟩)
    · cases h with
      | monthDay hd hm =>
        have hday := isDay_iff.2 ⟨_, hd⟩
        have hmonth := isMonth_iff.2 ⟨_, hm⟩
        rw [ofTwo, hday, hmonth, monthDay_ok_iff.2 ⟨_, _, hd, hm, rfl⟩]
        rfl
      | yearMonth hm hy =>
        have hname := isMonthName_of_names hm
        have hyear := isYear_iff.2 ⟨_, hy⟩
        have hbound := yearMonth_ok_iff.2 ⟨_, _, Or.inl hm, hy, rfl⟩
        rw [ofTwo, isDay_of_names hm, hname, hyear, hbound]
        rfl
    · cases h with
      | months hm hn =>
        have hname := isMonthName_of_names hm
        rw [ofTwo, isDay_of_names hm, hname, isYear_of_names hn, namedMonth_ok_iff.2 hm,
          namedMonth_ok_iff.2 hn]
        rfl
      | years hy hz =>
        have hyear := isYear_iff.2 ⟨_, hy⟩
        rw [ofTwo, isDay_of_year hy, isMonthName_of_denotes hy.1, hyear, year_ok_iff.2 hy,
          year_ok_iff.2 hz]
        rfl
      | days hd he hlate =>
        have hday := isDay_iff.2 ⟨_, hd⟩
        have hmonth : (isMonthName _ || isMonthNumber _) = false := not_isMonth_of_late he hlate
        rw [ofTwo, hday, hmonth, isMonthName_of_denotes hd.1, isYear_of_day hd, day_ok_iff.2 hd,
          day_ok_iff.2 he]
        rfl

theorem ofThree_ok_iff {u v w : Value} {args : List Value} (hs : splitGmt args = ([u, v, w], gmt)) :
    ofArgs args = .ok r ↔ Reads gmt [u, v, w] r := by
  simp only [ofArgs, hs, bind_ok_iff, yearMonthDay_ok_iff, Except.ok.injEq]
  constructor
  · rintro ⟨_, ⟨d, m, y, hd, hm, hy, rfl⟩, rfl⟩
    exact .one (.yearMonthDay hd hm hy)
  · rintro (⟨h⟩ | ⟨h⟩)
    · cases h with
      | yearMonthDay hd hm hy => exact ⟨_, ⟨_, _, _, hd, hm, hy, rfl⟩, rfl⟩
    · cases h

theorem ofFour_ok_iff {v₁ v₂ w₁ w₂ : Value} :
    ofFour gmt v₁ v₂ w₁ w₂ = .ok r ↔ Reads gmt [v₁, v₂, w₁, w₂] r := by
  constructor
  · intro h
    unfold ofFour at h
    split_ifs at h with hname hday <;>
      simp only [bind_ok_iff, monthDay_ok_iff, yearMonth_ok_iff, Except.ok.injEq] at h
    · obtain ⟨_, ⟨m, y, hm, hy, rfl⟩, _, ⟨n, z, hn, hz, rfl⟩, rfl⟩ := h
      exact .two (.yearMonths (names_of_gives hname hm) hy hn hz)
    · obtain ⟨_, ⟨d, m, hd, hm, rfl⟩, _, ⟨e, n, he, hn, rfl⟩, rfl⟩ := h
      exact .two (.monthDays hd hm he hn)
  · rintro (⟨h⟩ | ⟨h⟩)
    · cases h
    · cases h with
      | yearMonths hm hy hn hz =>
        have hstart := yearMonth_ok_iff.2 ⟨_, _, Or.inl hm, hy, rfl⟩
        have hstop := yearMonth_ok_iff.2 ⟨_, _, hn, hz, rfl⟩
        rw [ofFour, if_pos (isMonthName_of_names hm), hstart, hstop]
        rfl
      | monthDays hd hm he hn =>
        have hstart := monthDay_ok_iff.2 ⟨_, _, hd, hm, rfl⟩
        have hstop := monthDay_ok_iff.2 ⟨_, _, he, hn, rfl⟩
        rw [ofFour, isMonthName_of_denotes hd.1, if_pos (isDay_iff.2 ⟨_, hd⟩), hstart, hstop]
        rfl

theorem ofSix_ok_iff {v₁ v₂ v₃ w₁ w₂ w₃ : Value} {args : List Value}
    (hs : splitGmt args = ([v₁, v₂, v₃, w₁, w₂, w₃], gmt)) :
    ofArgs args = .ok r ↔ Reads gmt [v₁, v₂, v₃, w₁, w₂, w₃] r := by
  simp only [ofArgs, hs, bind_ok_iff, yearMonthDay_ok_iff, Except.ok.injEq]
  constructor
  · rintro ⟨_, ⟨d, m, y, hd, hm, hy, rfl⟩, _, ⟨e, n, z, he, hn, hz, rfl⟩, rfl⟩
    exact .two (.yearMonthDays hd hm hy he hn hz)
  · rintro (⟨h⟩ | ⟨h⟩)
    · cases h
    · cases h with
      | yearMonthDays hd hm hy he hn hz =>
        exact ⟨_, ⟨_, _, _, hd, hm, hy, rfl⟩, _, ⟨_, _, _, he, hn, hz, rfl⟩, rfl⟩

end Overloads

theorem ofArgs_ok_iff {args : List Value} {r : DateRange} :
    ofArgs args = .ok r ↔ ∃ values gmt, Given args values gmt ∧ Reads gmt values r := by
  obtain ⟨values, gmt, hs⟩ : ∃ values gmt, splitGmt args = (values, gmt) := ⟨_, _, rfl⟩
  rw [exists_given_iff hs]
  rcases values with _ | ⟨v₁, _ | ⟨v₂, _ | ⟨v₃, _ | ⟨v₄, _ | ⟨v₅, _ | ⟨v₆, _ | ⟨v₇, rest⟩⟩⟩⟩⟩⟩⟩
  case cons.nil =>
    simp only [ofArgs, hs]
    exact ofOne_ok_iff
  case cons.cons.nil =>
    simp only [ofArgs, hs]
    exact ofTwo_ok_iff
  case cons.cons.cons.nil => exact ofThree_ok_iff hs
  case cons.cons.cons.cons.nil =>
    simp only [ofArgs, hs]
    exact ofFour_ok_iff
  case cons.cons.cons.cons.cons.cons.nil => exact ofSix_ok_iff hs
  all_goals
    simp only [ofArgs, hs]
    exact ⟨fun h => (nomatch h), by rintro (⟨⟨⟩⟩ | ⟨⟨⟩⟩)⟩

theorem Bound.ordered {values : List Value} {fields : List DateField} {bound : List Int}
    (h : Bound values fields bound) :
    fields.Sublist [.year, .month, .day] ∧ bound.length = fields.length := by
  cases h <;> exact ⟨by decide, rfl⟩

theorem Span.ordered {values : List Value} {fields : List DateField} {start stop : List Int}
    (h : Span values fields start stop) : fields.Sublist [.year, .month, .day] ∧
      start.length = fields.length ∧ stop.length = fields.length := by
  cases h <;> exact ⟨by decide, rfl, rfl⟩

/-- The arguments that give a range of dates are exactly those that spell one partial date or two;
all others are refused. The fields of a range come largest first, with one value each in both
bounds, and the two bounds of a single date are the same. -/
theorem ofArgs_eq_ok_iff (args : List Value) :
    (∀ r, ofArgs args = .ok r ↔ ∃ values gmt, Given args values gmt ∧ Reads gmt values r) ∧
    ((∃ fault, ofArgs args = .error fault) ↔ ∀ values gmt, Given args values gmt →
      (∀ fields bound, ¬Bound values fields bound) ∧
        ∀ fields start stop, ¬Span values fields start stop) ∧
    ∀ r, ofArgs args = .ok r → r.fields.Sublist [.year, .month, .day] ∧
      r.start.length = r.fields.length ∧ r.stop.length = r.fields.length ∧
        (r.single = true → r.start = r.stop) := by
  refine ⟨fun r => ofArgs_ok_iff, ?_, fun r hr => ?_⟩
  · constructor
    · rintro ⟨fault, hfault⟩ values gmt hgiven
      have hnone : ∀ r, ¬Reads gmt values r := by
        intro r hr
        rw [ofArgs_ok_iff.2 ⟨values, gmt, hgiven, hr⟩] at hfault
        cases hfault
      exact ⟨fun _ _ h => hnone _ (.one h), fun _ _ _ h => hnone _ (.two h)⟩
    · intro hnone
      rcases hr : ofArgs args with fault | r
      · exact ⟨fault, rfl⟩
      · obtain ⟨values, gmt, hgiven, h | h⟩ := ofArgs_ok_iff.1 hr
        · exact absurd h ((hnone values gmt hgiven).1 _ _)
        · exact absurd h ((hnone values gmt hgiven).2 _ _ _)
  · obtain ⟨values, gmt, -, h | h⟩ := ofArgs_ok_iff.1 hr
    · exact ⟨h.ordered.1, h.ordered.2, h.ordered.2, fun _ => rfl⟩
    · exact ⟨h.ordered.1, h.ordered.2.1, h.ordered.2.2, fun hsingle => (nomatch hsingle)⟩

end PacScript.DateRange
