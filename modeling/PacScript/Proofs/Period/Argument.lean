import Mathlib.Data.List.Nodup
import PacScript.Period.Argument
import PacScript.Proofs.Fallible
import PacScript.Proofs.Number.Numeral

/-!
# What the arguments of temporal predicates denote

An argument may denote a whole number (`Denotes`) or name a month (`NamesMonth`), but never both
(`NamesMonth.whole?_eq_none`), so an argument is told by its kind whatever the order of the tests.
Every reader of one argument is described by an `iff`: what it accepts, and as which number.
-/

namespace PacScript

open PacScript.Text

namespace Period

variable {v w : Value} {n m y d low high : Int} {what : String}

/-! ## Given arguments -/

/-- The text `GMT`, in any case of letters and with white space around it. -/
def AsksGmt (v : Value) : Prop := ∃ s, v = .text s ∧ upper (trim s.toList) = "GMT".toList

/-- The arguments that are there, in order. -/
def present (args : List Value) : List Value := args.filter (!isAbsent ·)

/-- What arguments give: those that are there, and whether a `GMT` came after them. -/
inductive Given (args : List Value) : List Value → Bool → Prop
  | here {values : List Value} (h : present args = values)
      (hlast : ∀ last, values.getLast? = some last → ¬AsksGmt last) : Given args values false
  | gmt {values : List Value} {mark : Value} (h : present args = values ++ [mark])
      (hmark : AsksGmt mark) : Given args values true

theorem isGmt_iff : isGmt v = true ↔ AsksGmt v := by
  cases v <;> simp [isGmt, AsksGmt]

theorem splitGmt_eq_iff {args values : List Value} {gmt : Bool} :
    splitGmt args = (values, gmt) ↔ Given args values gmt := by
  have hpresent : args.filter (!isAbsent ·) = present args := rfl
  simp only [splitGmt, hpresent]
  rcases List.eq_nil_or_concat (present args) with hnil | ⟨front, last, hconcat⟩
  · rw [hnil]
    constructor
    · intro h
      cases h
      exact .here hnil (by simp)
    · rintro (⟨h, -⟩ | ⟨h, -⟩)
      · rw [hnil] at h
        subst h
        rfl
      · rw [hnil] at h
        simp at h
  · rw [List.concat_eq_append] at hconcat
    rw [hconcat, List.getLast?_concat, List.dropLast_concat]
    by_cases hlast : AsksGmt last
    · simp only [isGmt_iff.2 hlast, if_true]
      constructor
      · intro h
        cases h
        exact .gmt hconcat hlast
      · rintro (⟨h, hnot⟩ | ⟨h, -⟩)
        · rw [hconcat] at h
          exact absurd hlast (hnot last (by simp [← h]))
        · rw [hconcat] at h
          rw [(List.append_inj' h rfl).1]
    · have hfalse : isGmt last = false := by rwa [← Bool.not_eq_true, isGmt_iff]
      simp only [hfalse, Bool.false_eq_true, if_false]
      constructor
      · intro h
        cases h
        refine .here hconcat fun last' h => ?_
        rw [List.getLast?_concat] at h
        cases h
        exact hlast
      · rintro (⟨h, -⟩ | ⟨h, hmark⟩)
        · rw [hconcat] at h
          rw [h]
        · rw [hconcat] at h
          cases (List.append_inj' h rfl).2
          exact absurd hmark hlast

/-- What is said of the given values is said of what `splitGmt` leaves. -/
theorem exists_given_iff {args values : List Value} {gmt : Bool} (hs : splitGmt args = (values, gmt))
    {p : List Value → Bool → Prop} : (∃ vs g, Given args vs g ∧ p vs g) ↔ p values gmt := by
  constructor
  · rintro ⟨vs, g, hgiven, h⟩
    cases hs.symm.trans (splitGmt_eq_iff.2 hgiven)
    exact h
  · exact fun h => ⟨values, gmt, splitGmt_eq_iff.1 hs, h⟩

/-! ## Whole numbers -/

/-- The value denotes a whole number: it is one, or a floating-point number without fraction, or a
numeral. -/
inductive Denotes : Value → Int → Prop
  | int (n : Int) : Denotes (.int n) n
  | float {x : Binary64} {n : Int} (h : x.units? = some (n * Binary64.unit)) : Denotes (.float x) n
  | text {s : String} {n : Int} (h : Numeral.readInt? 10 (trim s.toList) = some n) :
      Denotes (.text s) n

theorem whole?_eq_some_iff : whole? v = some n ↔ Denotes v n := by
  constructor
  · intro h
    cases v with
    | int k =>
      cases h
      exact .int n
    | float x =>
      simp only [whole?, Binary64.isWhole, Binary64.truncate?] at h
      rcases hu : x.units? with _ | u
      · simp [hu] at h
      · simp only [hu, Option.map_some] at h
        split at h
        · rename_i hdvd
          cases h
          rw [beq_iff_eq] at hdvd
          exact .float (by rw [hu, Int.tdiv_mul_cancel (Int.dvd_of_emod_eq_zero hdvd)])
        · cases h
    | text s => exact .text h
    | _ => cases h
  · rintro (_ | h | h)
    · rfl
    · have hne : (Binary64.unit : Int) ≠ 0 := by decide
      simp [whole?, Binary64.isWhole, Binary64.truncate?, h, Int.mul_tdiv_cancel _ hne]
    · exact h

theorem Denotes.unique (h : Denotes v n) (h' : Denotes v m) : n = m :=
  Option.some.inj ((whole?_eq_some_iff.2 h).symm.trans (whole?_eq_some_iff.2 h'))

theorem whole_ok_iff : whole v = .ok n ↔ Denotes v n := by
  rw [← whole?_eq_some_iff, whole]
  rcases whole? v with _ | k <;> simp

theorem bounded_ok_iff : bounded low high what v = .ok n ↔ Denotes v n ∧ low ≤ n ∧ n ≤ high := by
  simp only [bounded, bind_ok_iff, whole_ok_iff]
  constructor
  · rintro ⟨k, hk, h⟩
    split at h
    · cases h
      exact ⟨hk, by assumption⟩
    · cases h
  · rintro ⟨h, hbounds⟩
    exact ⟨n, h, by rw [if_pos hbounds]⟩

/-! ## Months, years and days -/

/-- The value is the name of a month, in any case of letters and with white space around it. -/
def NamesMonth (v : Value) (m : Int) : Prop :=
  ∃ (s : String) (i : Nat), v = .text s ∧ monthNames[i]? = some (upper (trim s.toList)) ∧ m = i + 1

/-- The value denotes the number of a month. -/
def NumbersMonth (v : Value) (m : Int) : Prop := Denotes v m ∧ 1 ≤ m ∧ m ≤ 12

/-- The value is a month by its name or its number. -/
def GivesMonth (v : Value) (m : Int) : Prop := NamesMonth v m ∨ NumbersMonth v m

/-- The value denotes a year. -/
def GivesYear (v : Value) (y : Int) : Prop := Denotes v y ∧ 1000 ≤ y

/-- The value denotes a day of a month. -/
def GivesDay (v : Value) (d : Int) : Prop := Denotes v d ∧ 1 ≤ d ∧ d ≤ 31

theorem idxOf?_eq_some_iff {names : List (List Char)} (hnodup : names.Nodup) {key : List Char}
    {i : Nat} : names.idxOf? key = some i ↔ names[i]? = some key := by
  rw [List.idxOf?_eq_some_iff]
  constructor
  · rintro ⟨hi, rfl, -⟩
    exact List.getElem?_eq_getElem hi
  · intro h
    obtain ⟨hi, rfl⟩ := List.getElem?_eq_some_iff.1 h
    refine ⟨hi, rfl, fun j hj heq => ?_⟩
    have := (List.Nodup.getElem_inj_iff hnodup).1 heq
    omega

theorem namePlace?_eq_some_iff {names : List (List Char)} (hnodup : names.Nodup) {i : Nat} :
    namePlace? names v = some i ↔ ∃ s, v = .text s ∧ names[i]? = some (upper (trim s.toList)) := by
  constructor
  · intro h
    cases v with
    | text s => exact ⟨s, rfl, (idxOf?_eq_some_iff hnodup).1 h⟩
    | _ => cases h
  · rintro ⟨s, rfl, hi⟩
    exact (idxOf?_eq_some_iff hnodup).2 hi

theorem namePlace?_month_iff {i : Nat} :
    namePlace? monthNames v = some i ↔ NamesMonth v (i + 1) := by
  rw [namePlace?_eq_some_iff (by decide)]
  constructor
  · rintro ⟨s, hv, hi⟩
    exact ⟨s, i, hv, hi, rfl⟩
  · rintro ⟨s, j, hv, hj, heq⟩
    obtain rfl : i = j := by omega
    exact ⟨s, hv, hj⟩

theorem NamesMonth.exists_place (h : NamesMonth v m) :
    ∃ i : Nat, namePlace? monthNames v = some i ∧ m = i + 1 := by
  obtain ⟨s, i, hv, hi, rfl⟩ := h
  exact ⟨i, namePlace?_month_iff.2 ⟨s, i, hv, hi, rfl⟩, rfl⟩

theorem isMonthName_iff : isMonthName v = true ↔ ∃ m, NamesMonth v m := by
  rw [isMonthName, Option.isSome_iff_exists]
  constructor
  · rintro ⟨i, hi⟩
    exact ⟨i + 1, namePlace?_month_iff.1 hi⟩
  · rintro ⟨m, hm⟩
    obtain ⟨i, hi, -⟩ := hm.exists_place
    exact ⟨i, hi⟩

theorem namedMonth_ok_iff : namedMonth v = .ok m ↔ NamesMonth v m := by
  constructor
  · intro h
    unfold namedMonth at h
    split at h
    · rename_i i hi
      cases h
      exact namePlace?_month_iff.1 hi
    · cases h
  · intro h
    obtain ⟨i, hi, rfl⟩ := h.exists_place
    simp [namedMonth, hi]

/-- The name of a month is no numeral. -/
theorem NamesMonth.whole?_eq_none (h : NamesMonth v m) : whole? v = none := by
  have hletters : (monthNames.all fun name => name.all fun c => (digitValue? c).isNone) = true := by
    decide +kernel
  simp only [List.all_eq_true, Option.isNone_iff_eq_none] at hletters
  obtain ⟨s, i, rfl, hi, -⟩ := h
  exact Numeral.readInt?_of_upper (hletters (upper (trim s.toList)) (List.mem_of_getElem? hi))

theorem NamesMonth.not_denotes (h : NamesMonth v m) (n : Int) : ¬Denotes v n := by
  rw [← whole?_eq_some_iff, h.whole?_eq_none]
  simp

theorem month_ok_iff : month v = .ok m ↔ GivesMonth v m := by
  unfold month
  split
  · rename_i hnumber
    simp only [Bool.and_eq_true, Bool.not_eq_true', ← Bool.not_eq_true, isMonthName_iff,
      not_exists] at hnumber
    rw [bounded_ok_iff]
    exact ⟨Or.inr, fun h => h.resolve_left (hnumber.1 m)⟩
  · rename_i hname
    rw [namedMonth_ok_iff]
    refine ⟨Or.inl, fun h => h.resolve_right fun hm => hname ?_⟩
    have hnot : ¬isMonthName v = true := by
      rw [isMonthName_iff]
      rintro ⟨k, hk⟩
      exact hk.not_denotes m hm.1
    simp [hnot, whole?_eq_some_iff.2 hm.1]

/-- A test of the whole number that a value denotes. -/
theorem any_whole?_iff {p : Int → Bool} :
    (whole? v).any p = true ↔ ∃ n, Denotes v n ∧ p n = true := by
  simp only [← whole?_eq_some_iff]
  rcases whole? v with _ | n <;> simp

theorem isYear_iff : isYear v = true ↔ ∃ y, GivesYear v y := by
  have hany : isYear v = (whole? v).any fun n => 1000 ≤ n := by
    unfold isYear
    rcases whole? v with _ | n <;> rfl
  rw [hany, any_whole?_iff]
  simp [GivesYear]

theorem isDay_iff : isDay v = true ↔ ∃ d, GivesDay v d := by
  have hany : isDay v = (whole? v).any fun n => 1 ≤ n && n ≤ 31 := by
    unfold isDay
    rcases whole? v with _ | n <;> rfl
  rw [hany, any_whole?_iff]
  simp [GivesDay]

theorem isMonthNumber_iff : isMonthNumber v = true ↔ ∃ m, NumbersMonth v m := by
  have hany : isMonthNumber v = (whole? v).any fun n => 1 ≤ n && n ≤ 12 := by
    unfold isMonthNumber
    rcases whole? v with _ | n <;> rfl
  rw [hany, any_whole?_iff]
  simp [NumbersMonth]

theorem year_ok_iff : year v = .ok y ↔ GivesYear v y := by
  unfold year
  split
  · rename_i hyear
    obtain ⟨k, hk⟩ := isYear_iff.1 hyear
    rw [whole_ok_iff]
    exact ⟨fun h => h.unique hk.1 ▸ hk, fun h => h.1⟩
  · rename_i hyear
    exact ⟨fun h => (nomatch h), fun h => absurd (isYear_iff.2 ⟨y, h⟩) hyear⟩

theorem day_ok_iff : day v = .ok d ↔ GivesDay v d := by
  unfold day
  split
  · rename_i hday
    obtain ⟨k, hk⟩ := isDay_iff.1 hday
    rw [whole_ok_iff]
    exact ⟨fun h => h.unique hk.1 ▸ hk, fun h => h.1⟩
  · rename_i hday
    exact ⟨fun h => (nomatch h), fun h => absurd (isDay_iff.2 ⟨d, h⟩) hday⟩

end Period

end PacScript
