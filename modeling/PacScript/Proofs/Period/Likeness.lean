import Mathlib.Data.List.Forall2
import PacScript.Proofs.Period.DateReading
import PacScript.Proofs.Period.TimeReading
import PacScript.Proofs.Period.WeekdayReading

/-!
# Arguments that are alike

Readers of arguments ask for a whole number, for a name and for the `GMT` at the end, and nothing
else. Lists of values that answer alike, one by one, therefore give the same period
(`WeekdayRange.ofArgs_alike` and its companions).
-/

namespace PacScript

open PacScript.Period

namespace Period

/-- Readers of arguments cannot tell the values apart. -/
structure Alike (v w : Value) : Prop where
  denotes : ∀ n, Denotes v n ↔ Denotes w n
  weekday : ∀ d, NamesWeekday v d ↔ NamesWeekday w d
  month : ∀ m, NamesMonth v m ↔ NamesMonth w m
  gmt : AsksGmt v ↔ AsksGmt w

section Values

variable {v w : Value} {n : Int}

theorem Alike.refl (v : Value) : Alike v v :=
  ⟨fun _ => Iff.rfl, fun _ => Iff.rfl, fun _ => Iff.rfl, Iff.rfl⟩

variable (h : Alike v w)

include h

theorem Alike.symm : Alike w v :=
  ⟨fun n => (h.denotes n).symm, fun d => (h.weekday d).symm, fun m => (h.month m).symm, h.gmt.symm⟩

theorem Alike.givesMonth (hv : GivesMonth v n) : GivesMonth w n :=
  hv.imp (h.month n).1 fun hnumber => ⟨(h.denotes n).1 hnumber.1, hnumber.2⟩

theorem Alike.givesYear (hv : GivesYear v n) : GivesYear w n := ⟨(h.denotes n).1 hv.1, hv.2⟩

theorem Alike.givesDay (hv : GivesDay v n) : GivesDay w n := ⟨(h.denotes n).1 hv.1, hv.2⟩

theorem Alike.within {limit : Int} (hv : TimeRange.Within limit v n) :
    TimeRange.Within limit w n := ⟨(h.denotes n).1 hv.1, hv.2⟩

end Values

/-! ## Lists -/

theorem exists_concat_of_forall₂ {α β : Type} {R : α → β → Prop} {as : List α} {a : α}
    {bs : List β} (h : List.Forall₂ R (as ++ [a]) bs) :
    ∃ front b, bs = front ++ [b] ∧ List.Forall₂ R as front ∧ R a b := by
  rw [← List.forall₂_reverse_iff, List.reverse_append, List.reverse_singleton,
    List.singleton_append, List.forall₂_cons_left_iff] at h
  obtain ⟨b, rest, hab, hrest, heq⟩ := h
  refine ⟨rest.reverse, b, ?_, ?_, hab⟩
  · rw [← List.reverse_cons, ← heq, List.reverse_reverse]
  · rwa [← List.forall₂_reverse_iff, List.reverse_reverse]

variable {args args' values values' : List Value} {gmt : Bool}

theorem symm_of_alike (h : List.Forall₂ Alike values values') : List.Forall₂ Alike values' values :=
  .flip (h.imp fun _ _ hvw => hvw.symm)

/-- Of alike lists the last values both ask for universal time or neither does. -/
theorem exists_given_of_alike (h : Given args values gmt)
    (halike : List.Forall₂ Alike (present args) (present args')) :
    ∃ values', Given args' values' gmt ∧ List.Forall₂ Alike values values' := by
  cases h with
  | here h hlast =>
    subst h
    refine ⟨present args', .here rfl fun last' hlast' hmark => ?_, halike⟩
    obtain ⟨front, hfront⟩ := List.getLast?_eq_some_iff.1 hlast'
    obtain ⟨_, last, hvalues, -, hsame⟩ := exists_concat_of_forall₂ (hfront ▸ symm_of_alike halike)
    exact hlast last (by rw [hvalues, List.getLast?_concat]) (hsame.gmt.1 hmark)
  | gmt h hmark =>
    obtain ⟨values', mark', hvalues, hfront, hsame⟩ := exists_concat_of_forall₂ (h ▸ halike)
    exact ⟨values', .gmt hvalues (hsame.gmt.1 hmark), hfront⟩

/-- A reader described by what its given values are cannot tell alike lists apart. -/
theorem ok_iff_of_alike {ρ : Type} {ofArgs : List Value → Except PeriodFault ρ}
    {Reads : Bool → List Value → ρ → Prop}
    (hreads : ∀ args r, ofArgs args = .ok r ↔ ∃ values gmt, Given args values gmt ∧ Reads gmt values r)
    (hcongr : ∀ gmt values values' r, Reads gmt values r → List.Forall₂ Alike values values' →
      Reads gmt values' r)
    (halike : List.Forall₂ Alike (present args) (present args')) (r : ρ) :
    ofArgs args = .ok r ↔ ofArgs args' = .ok r := by
  have hforward : ∀ {as bs : List Value}, List.Forall₂ Alike (present as) (present bs) →
      ofArgs as = .ok r → ofArgs bs = .ok r := by
    intro as bs h hr
    obtain ⟨values, gmt, hgiven, hvalues⟩ := (hreads as r).1 hr
    obtain ⟨values', hgiven', hsame⟩ := exists_given_of_alike hgiven h
    exact (hreads bs r).2 ⟨values', gmt, hgiven', hcongr gmt values values' r hvalues hsame⟩
  exact ⟨hforward halike, hforward (symm_of_alike halike)⟩

end Period

variable {args args' values values' : List Value} {gmt : Bool}

/-! ## Readers -/

theorem WeekdayRange.Reads.of_alike {r : WeekdayRange} (h : Reads gmt values r)
    (ha : List.Forall₂ Alike values values') : Reads gmt values' r := by
  cases h with
  | day hv =>
    rcases ha with _ | ⟨a, _ | _⟩
    exact .day ((a.weekday _).1 hv)
  | days hv hw =>
    rcases ha with _ | ⟨a, _ | ⟨b, _ | _⟩⟩
    exact .days ((a.weekday _).1 hv) ((b.weekday _).1 hw)

theorem TimeRange.Reads.of_alike {r : TimeRange} (h : Reads gmt values r)
    (ha : List.Forall₂ Alike values values') : Reads gmt values' r := by
  cases h with
  | hour hv =>
    rcases ha with _ | ⟨a, _ | _⟩
    exact .hour (a.within hv)
  | sameHour hv hw =>
    rcases ha with _ | ⟨a, _ | ⟨b, _ | _⟩⟩
    exact .sameHour (a.within hv) (b.within hw)
  | hours hv hw hne =>
    rcases ha with _ | ⟨a, _ | ⟨b, _ | _⟩⟩
    exact .hours (a.within hv) (b.within hw) hne
  | minutes hh₁ hm₁ hh₂ hm₂ =>
    rcases ha with _ | ⟨a, _ | ⟨b, _ | ⟨c, _ | ⟨d, _ | _⟩⟩⟩⟩
    exact .minutes (a.within hh₁) (b.within hm₁) (c.within hh₂) (d.within hm₂)
  | seconds hh₁ hm₁ hs₁ hh₂ hm₂ hs₂ =>
    rcases ha with _ | ⟨a, _ | ⟨b, _ | ⟨c, _ | ⟨d, _ | ⟨e, _ | ⟨f, _ | _⟩⟩⟩⟩⟩⟩
    exact .seconds (a.within hh₁) (b.within hm₁) (c.within hs₁) (d.within hh₂) (e.within hm₂)
      (f.within hs₂)

namespace DateRange

variable {fields : List DateField} {start stop bound : List Int}

theorem Bound.of_alike (h : Bound values fields bound) (ha : List.Forall₂ Alike values values') :
    Bound values' fields bound := by
  cases h with
  | month hm =>
    rcases ha with _ | ⟨a, _ | _⟩
    exact .month ((a.month _).1 hm)
  | year hy =>
    rcases ha with _ | ⟨a, _ | _⟩
    exact .year (a.givesYear hy)
  | day hd =>
    rcases ha with _ | ⟨a, _ | _⟩
    exact .day (a.givesDay hd)
  | monthDay hd hm =>
    rcases ha with _ | ⟨a, _ | ⟨b, _ | _⟩⟩
    exact .monthDay (a.givesDay hd) (b.givesMonth hm)
  | yearMonth hm hy =>
    rcases ha with _ | ⟨a, _ | ⟨b, _ | _⟩⟩
    exact .yearMonth ((a.month _).1 hm) (b.givesYear hy)
  | yearMonthDay hd hm hy =>
    rcases ha with _ | ⟨a, _ | ⟨b, _ | ⟨c, _ | _⟩⟩⟩
    exact .yearMonthDay (a.givesDay hd) (b.givesMonth hm) (c.givesYear hy)

theorem Span.of_alike (h : Span values fields start stop)
    (ha : List.Forall₂ Alike values values') : Span values' fields start stop := by
  cases h with
  | months hm hn =>
    rcases ha with _ | ⟨a, _ | ⟨b, _ | _⟩⟩
    exact .months ((a.month _).1 hm) ((b.month _).1 hn)
  | years hy hz =>
    rcases ha with _ | ⟨a, _ | ⟨b, _ | _⟩⟩
    exact .years (a.givesYear hy) (b.givesYear hz)
  | days hd he hlate =>
    rcases ha with _ | ⟨a, _ | ⟨b, _ | _⟩⟩
    exact .days (a.givesDay hd) (b.givesDay he) hlate
  | yearMonths hm hy hn hz =>
    rcases ha with _ | ⟨a, _ | ⟨b, _ | ⟨c, _ | ⟨d, _ | _⟩⟩⟩⟩
    exact .yearMonths ((a.month _).1 hm) (b.givesYear hy) (c.givesMonth hn) (d.givesYear hz)
  | monthDays hd hm he hn =>
    rcases ha with _ | ⟨a, _ | ⟨b, _ | ⟨c, _ | ⟨d, _ | _⟩⟩⟩⟩
    exact .monthDays (a.givesDay hd) (b.givesMonth hm) (c.givesDay he) (d.givesMonth hn)
  | yearMonthDays hd hm hy he hn hz =>
    rcases ha with _ | ⟨a, _ | ⟨b, _ | ⟨c, _ | ⟨d, _ | ⟨e, _ | ⟨f, _ | _⟩⟩⟩⟩⟩⟩
    exact .yearMonthDays (a.givesDay hd) (b.givesMonth hm) (c.givesYear hy) (d.givesDay he)
      (e.givesMonth hn) (f.givesYear hz)

theorem Reads.of_alike {r : DateRange} (h : Reads gmt values r)
    (ha : List.Forall₂ Alike values values') : Reads gmt values' r := by
  cases h with
  | one h => exact .one (h.of_alike ha)
  | two h => exact .two (h.of_alike ha)

end DateRange

section Congruence

variable (halike : List.Forall₂ Alike (present args) (present args'))

include halike

theorem WeekdayRange.ofArgs_alike (r : WeekdayRange) : ofArgs args = .ok r ↔ ofArgs args' = .ok r :=
  ok_iff_of_alike (fun _ _ => ofArgs_ok_iff) (fun _ _ _ _ => Reads.of_alike) halike r

theorem TimeRange.ofArgs_alike (r : TimeRange) : ofArgs args = .ok r ↔ ofArgs args' = .ok r :=
  ok_iff_of_alike (fun _ _ => ofArgs_ok_iff) (fun _ _ _ _ => Reads.of_alike) halike r

theorem DateRange.ofArgs_alike (r : DateRange) : ofArgs args = .ok r ↔ ofArgs args' = .ok r :=
  ok_iff_of_alike (fun _ _ => ofArgs_ok_iff) (fun _ _ _ _ => Reads.of_alike) halike r

end Congruence

end PacScript
