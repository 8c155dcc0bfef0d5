import PacScript.Period.Reading
import PacScript.Proofs.Period.Argument

/-!
# Ranges of weekdays

Arguments give a range of weekdays when, without a final `GMT`, they are the names of one weekday or
of two (`ofArgs_ok_iff`).
-/

namespace PacScript

open PacScript.Period PacScript.Text

namespace Period

variable {v : Value} {d : Int}

/-- The value is the name of a weekday, in any case of letters and with white space around it. -/
def NamesWeekday (v : Value) (d : Int) : Prop :=
  ∃ (s : String) (i : Nat), v = .text s ∧ weekdayNames[i]? = some (upper (trim s.toList)) ∧ d = i

theorem weekday_ok_iff : weekday v = .ok d ↔ NamesWeekday v d := by
  have hplace {i : Nat} : namePlace? weekdayNames v = some i ↔
      ∃ s, v = .text s ∧ weekdayNames[i]? = some (upper (trim s.toList)) :=
    namePlace?_eq_some_iff (by decide)
  unfold weekday
  split
  · rename_i i hi
    simp only [Except.ok.injEq]
    constructor
    · rintro rfl
      obtain ⟨s, hv, hs⟩ := hplace.1 hi
      exact ⟨s, i, hv, hs, rfl⟩
    · rintro ⟨s, j, hv, hs, rfl⟩
      rw [hplace.2 ⟨s, hv, hs⟩, Option.some.injEq] at hi
      rw [hi]
  · rename_i hnone
    refine ⟨fun h => (nomatch h), ?_⟩
    rintro ⟨s, j, hv, hs, rfl⟩
    rw [hplace.2 ⟨s, hv, hs⟩] at hnone
    cases hnone

end Period

namespace WeekdayRange

variable {args values : List Value} {gmt : Bool} {r : WeekdayRange}

/-- The range of weekdays that values give: one weekday, or from one to another. -/
inductive Reads (gmt : Bool) : List Value → WeekdayRange → Prop
  | day {v : Value} {d : Int} (hv : NamesWeekday v d) : Reads gmt [v] ⟨d, d, gmt, true⟩
  | days {v w : Value} {d e : Int} (hv : NamesWeekday v d) (hw : NamesWeekday w e) :
      Reads gmt [v, w] ⟨d, e, gmt, false⟩

theorem ofArgs_ok_iff :
    ofArgs args = .ok r ↔ ∃ values gmt, Given args values gmt ∧ Reads gmt values r := by
  obtain ⟨values, gmt, hs⟩ : ∃ values gmt, splitGmt args = (values, gmt) := ⟨_, _, rfl⟩
  rw [exists_given_iff hs]
  rcases values with _ | ⟨v, _ | ⟨w, _ | ⟨x, rest⟩⟩⟩
  case cons.nil =>
    simp only [ofArgs, hs, bind_ok_iff, weekday_ok_iff, Except.ok.injEq]
    constructor
    · rintro ⟨d, hv, rfl⟩
      exact .day hv
    · intro h
      cases h with
      | day hv => exact ⟨_, hv, rfl⟩
  case cons.cons.nil =>
    simp only [ofArgs, hs, bind_ok_iff, weekday_ok_iff, Except.ok.injEq]
    constructor
    · rintro ⟨d, hv, e, hw, rfl⟩
      exact .days hv hw
    · intro h
      cases h with
      | days hv hw => exact ⟨_, hv, _, hw, rfl⟩
  all_goals
    simp only [ofArgs, hs]
    exact ⟨fun h => (nomatch h), fun h => (nomatch h)⟩

end WeekdayRange

end PacScript
