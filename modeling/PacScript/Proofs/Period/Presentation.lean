import Mathlib.Logic.Relation
import Mathlib.Tactic.SplitIfs
import PacScript.Proofs.Number.Decimal
import PacScript.Proofs.Period.Likeness
import PacScript.Proofs.Text.Letters

/-!
# How arguments are presented

Absent arguments, the form in which a whole number is given and the case of letters in a name make
no difference to the period that arguments give, and a `GMT` after them sets its flag and does
nothing else (`presentation_irrelevant`).
-/

namespace PacScript

open PacScript.Text PacScript.Period

namespace Period

variable {s t mark : String} {v w : Value} {n : Int} {args args' values : List Value}

/-! ## Values -/

/-- The second text is the first one in any case of its ASCII letters, with white space around. -/
def Respelled (s t : String) : Prop :=
  ∃ core : List Char, core.map Char.toLower = s.toList.map Char.toLower ∧ Spaced core t.toList

/-- The text is the name of a weekday or a month. -/
def IsName (s : String) : Prop := upper (trim s.toList) ∈ weekdayNames ++ monthNames

/-- The value is the whole number in another form: the same floating-point number, or a decimal
numeral with white space around it. -/
inductive Represents (n : Int) : Value → Prop
  | float {x : Binary64} (h : x.eqvInt n = true) : Represents n (.float x)
  | text {s : String} {core : List Char} (hcore : Numeral.Decimal core n)
      (hs : Spaced core s.toList) : Represents n (.text s)

theorem upper_of_respelled (h : Respelled s t) :
    upper (trim t.toList) = upper (trim s.toList) := by
  obtain ⟨core, hcore, hspaced⟩ := h
  rw [hspaced.trim_eq]
  exact upper_trim_congr hcore

theorem denotes_of_represents (h : Represents n v) : Denotes v n := by
  cases h with
  | @float x h =>
    rcases hu : x.units? with _ | u
    · simp [Binary64.eqvInt, hu] at h
    · simp only [Binary64.eqvInt, hu, beq_iff_eq] at h
      exact .float (by rw [hu, h])
  | @text s core hcore hs =>
    have htrim : trim core = core := trimBy_of_none hcore.isBlank_eq_false
    exact .text (by rw [hs.trim_eq, htrim, hcore.readInt?_eq])

/-- No character is a digit of a script. -/
def isDigitless (cs : List Char) : Bool := cs.all fun c => (digitValue? c).isNone

theorem isDigitless_of_name : ∀ name ∈ weekdayNames ++ monthNames, isDigitless name = true := by
  decide +kernel

theorem not_denotes_of_key (h : isDigitless (upper (trim s.toList)) = true) :
    ¬Denotes (.text s) n := by
  have hdigits : ∀ c ∈ upper (trim s.toList), digitValue? c = none :=
    fun c hc => Option.isNone_iff_eq_none.1 (List.all_eq_true.1 h c hc)
  rw [← whole?_eq_some_iff, whole?, Numeral.readInt?_of_upper hdigits]
  simp

theorem NamesWeekday.not_denotes {d : Int} (h : NamesWeekday v d) : ¬Denotes v n := by
  obtain ⟨s, i, rfl, hi, -⟩ := h
  have hname : upper (trim s.toList) ∈ weekdayNames ++ monthNames :=
    List.mem_append_left _ (List.mem_of_getElem? hi)
  exact not_denotes_of_key (isDigitless_of_name _ hname)

theorem AsksGmt.not_denotes (h : AsksGmt v) : ¬Denotes v n := by
  have hletters : isDigitless "GMT".toList = true := by decide +kernel
  obtain ⟨s, rfl, hs⟩ := h
  exact not_denotes_of_key (hs ▸ hletters)

theorem alike_of_denotes (hv : Denotes v n) (hw : Denotes w n) : Alike v w where
  denotes m := by
    constructor
    · intro h
      rwa [h.unique hv]
    · intro h
      rwa [h.unique hw]
  weekday _ := iff_of_false (fun h => h.not_denotes hv) fun h => h.not_denotes hw
  month _ := iff_of_false (fun h => h.not_denotes n hv) fun h => h.not_denotes n hw
  gmt := iff_of_false (fun h => h.not_denotes hv) fun h => h.not_denotes hw

theorem alike_of_respelled (hname : IsName s) (h : Respelled s t) :
    Alike (.text s) (.text t) := by
  have hkey := upper_of_respelled h
  have hdigits := isDigitless_of_name _ hname
  refine ⟨fun n => iff_of_false (not_denotes_of_key hdigits) ?_, fun d => ?_, fun m => ?_, ?_⟩
  · exact not_denotes_of_key (hkey ▸ hdigits)
  · simp [NamesWeekday, hkey]
  · simp [NamesMonth, hkey]
  · simp [AsksGmt, hkey]

/-! ## Lists of arguments -/

/-- One argument more that is absent, or one argument in another form. -/
inductive Rephrased : List Value → List Value → Prop
  | absent {front back : List Value} : Rephrased (front ++ back) (front ++ .null :: back)
  | number {front back : List Value} {n : Int} {v : Value} (h : Represents n v) :
      Rephrased (front ++ .int n :: back) (front ++ v :: back)
  | name {front back : List Value} {s t : String} (hname : IsName s) (h : Respelled s t) :
      Rephrased (front ++ .text s :: back) (front ++ .text t :: back)

theorem present_append (front back : List Value) :
    present (front ++ back) = present front ++ present back := List.filter_append ..

theorem present_absent (k : Nat) : present (List.replicate k .null) = [] := by
  simp [present, isAbsent]

theorem alike_self (values : List Value) : List.Forall₂ Alike values values :=
  List.forall₂_same.2 fun v _ => .refl v

theorem alike_of_rephrased (h : Rephrased args args') :
    List.Forall₂ Alike (present args) (present args') := by
  have hplace {front back : List Value} {v w : Value} (hv : isAbsent v = false)
      (hw : isAbsent w = false) (hvw : Alike v w) :
      List.Forall₂ Alike (present (front ++ v :: back)) (present (front ++ w :: back)) := by
    rw [present_append, present_append]
    refine List.rel_append (alike_self _) ?_
    simp only [present, List.filter_cons, hv, hw]
    exact .cons hvw (alike_self _)
  cases h with
  | absent =>
    rw [present_append, present_append]
    exact alike_self _
  | number h =>
    refine hplace rfl ?_ (alike_of_denotes (.int _) (denotes_of_represents h))
    cases h <;> rfl
  | name hname h => exact hplace rfl rfl (alike_of_respelled hname h)

/-! ## A final `GMT` -/

theorem splitGmt_marked (hlast : ∀ last, (present args).getLast? = some last → ¬AsksGmt last)
    (hmark : AsksGmt v) (k : Nat) :
    splitGmt args = (present args, false) ∧
      splitGmt (args ++ v :: List.replicate k .null) = (present args, true) := by
  refine ⟨splitGmt_eq_iff.2 (.here rfl hlast), splitGmt_eq_iff.2 (.gmt ?_ hmark)⟩
  have hv : isAbsent v = false := by
    obtain ⟨s, rfl, -⟩ := hmark
    rfl
  rw [present_append, ← List.singleton_append, present_append, present_absent, List.append_nil]
  simp [present, hv]

theorem asksGmt_of_respelled (h : Respelled "GMT" mark) : AsksGmt (.text mark) :=
  ⟨mark, rfl, by rw [upper_of_respelled h]; decide⟩

end Period

section Marked

variable (hs : splitGmt args = (values, false)) (hs' : splitGmt args' = (values, true))

include hs hs'

theorem WeekdayRange.ofArgs_marked :
    ofArgs args' = (ofArgs args).map fun r => { r with gmt := true } := by
  simp only [ofArgs, hs, hs']
  split
  · simp only [map_bind_eq]
    rfl
  · simp only [map_bind_eq]
    rfl
  · rfl

theorem TimeRange.ofArgs_marked :
    ofArgs args' = (ofArgs args).map fun r => { r with gmt := true } := by
  simp only [ofArgs, hs, hs']
  split
  · simp only [map_bind_eq]
    rfl
  · simp only [map_bind_eq]
    refine bind_congr fun h => bind_congr fun k => ?_
    split <;> rfl
  · simp only [map_bind_eq]
    rfl
  · simp only [map_bind_eq]
    rfl
  · rfl

theorem DateRange.ofArgs_marked :
    ofArgs args' = (ofArgs args).map fun r => { r with gmt := true } := by
  simp only [ofArgs, hs, hs']
  split
  · unfold ofOne
    split_ifs <;> simp only [map_bind_eq, map_error_eq] <;> rfl
  · unfold ofTwo
    split_ifs <;> simp only [map_bind_eq, map_error_eq] <;> rfl
  · simp only [map_bind_eq]
    rfl
  · unfold ofFour
    split_ifs <;> simp only [map_bind_eq, map_error_eq] <;> rfl
  · simp only [map_bind_eq]
    rfl
  · rfl

end Marked

namespace Period

/-- Arguments give the same ranges, or none, however they are presented: absent ones may stand
anywhere, whole numbers may be given in any form, and names may be spelled in any case. A `GMT`
after arguments that have none sets the flag of the range, and where there is no range it changes
nothing. -/
theorem presentation_irrelevant (args : List Value) :
    (∀ args', Relation.EqvGen Rephrased args args' →
      (∀ r, WeekdayRange.ofArgs args = .ok r ↔ WeekdayRange.ofArgs args' = .ok r) ∧
      (∀ r, TimeRange.ofArgs args = .ok r ↔ TimeRange.ofArgs args' = .ok r) ∧
      ∀ r, DateRange.ofArgs args = .ok r ↔ DateRange.ofArgs args' = .ok r) ∧
    ((∀ last, (present args).getLast? = some last → ¬AsksGmt last) →
      ∀ (mark : String) (k : Nat), Respelled "GMT" mark →
        let marked := args ++ .text mark :: List.replicate k .null
        WeekdayRange.ofArgs marked = (WeekdayRange.ofArgs args).map (fun r => { r with gmt := true }) ∧
        TimeRange.ofArgs marked = (TimeRange.ofArgs args).map (fun r => { r with gmt := true }) ∧
        DateRange.ofArgs marked = (DateRange.ofArgs args).map fun r => { r with gmt := true }) := by
  constructor
  · intro args' h
    induction h with
    | rel as bs h =>
      have halike := alike_of_rephrased h
      exact ⟨WeekdayRange.ofArgs_alike halike, TimeRange.ofArgs_alike halike,
        DateRange.ofArgs_alike halike⟩
    | refl as => exact ⟨fun _ => Iff.rfl, fun _ => Iff.rfl, fun _ => Iff.rfl⟩
    | symm as bs _ ih =>
      exact ⟨fun r => (ih.1 r).symm, fun r => (ih.2.1 r).symm, fun r => (ih.2.2 r).symm⟩
    | trans as bs cs _ _ ih ih' =>
      exact ⟨fun r => (ih.1 r).trans (ih'.1 r), fun r => (ih.2.1 r).trans (ih'.2.1 r),
        fun r => (ih.2.2 r).trans (ih'.2.2 r)⟩
  · intro hlast mark k hmark marked
    obtain ⟨hs, hs'⟩ := splitGmt_marked hlast (asksGmt_of_respelled hmark) k
    exact ⟨WeekdayRange.ofArgs_marked hs hs', TimeRange.ofArgs_marked hs hs',
      DateRange.ofArgs_marked hs hs'⟩

/-- The first of January in four presentations. -/
theorem presentation_irrelevant_newYear :
    let newYear : DateRange := ⟨[.month, .day], [1, 1], [1, 1], false, true⟩
    DateRange.ofArgs [.int 1, .null, .text "jan"] = .ok newYear ∧
      DateRange.ofArgs [.text " +01", .null, .text "jan"] = .ok newYear ∧
      DateRange.ofArgs [.text " +01", .text "JAN\n"] = .ok newYear ∧
      DateRange.ofArgs [.text " +01", .text "JAN\n", .text " gmt", .null] =
        .ok { newYear with gmt := true } := by
  intro newYear
  have hplain : DateRange.ofArgs [.int 1, .null, .text "jan"] = .ok newYear := rfl
  have hnumeral : Represents 1 (.text " +01") := by
    have hzero : Numeral.Digits ['0'] 1 0 := .one (by decide)
    have hone : digitValue? '1' = some 1 := by decide
    have hdigits : Numeral.Digits ['0', '1'] 2 1 := hzero.next hone
    exact .text (.plus hdigits (by decide))
      (@spaced_of_all [' '] ['+', '0', '1'] [] (by decide) (by decide))
  have hnumber : Relation.EqvGen Rephrased [.int 1, .null, .text "jan"]
      [.text " +01", .null, .text "jan"] := .rel _ _ (@Rephrased.number [] _ 1 _ hnumeral)
  have habsent : Relation.EqvGen Rephrased [.text " +01", .null, .text "jan"]
      [.text " +01", .text "jan"] := .symm _ _ (.rel _ _ (@Rephrased.absent [.text " +01"] _))
  have hrespelled : Respelled "jan" "JAN\n" :=
    ⟨['J', 'A', 'N'], by decide, @spaced_of_all [] ['J', 'A', 'N'] ['\n'] (by decide) (by decide)⟩
  have hjan : IsName "jan" := by
    unfold IsName
    decide
  have hname : Relation.EqvGen Rephrased [.text " +01", .text "jan"]
      [.text " +01", .text "JAN\n"] :=
    .rel _ _ (@Rephrased.name [.text " +01"] [] _ _ hjan hrespelled)
  have hmark : Respelled "GMT" " gmt" :=
    ⟨['g', 'm', 't'], by decide, @spaced_of_all [' '] ['g', 'm', 't'] [] (by decide) (by decide)⟩
  obtain ⟨hsame, -⟩ := presentation_irrelevant [.int 1, .null, .text "jan"]
  have hspelled : DateRange.ofArgs [.text " +01", .text "JAN\n"] = .ok newYear :=
    ((hsame _ (.trans _ _ _ hnumber (.trans _ _ _ habsent hname))).2.2 _).1 hplain
  obtain ⟨-, hmarked⟩ := presentation_irrelevant [.text " +01", .text "JAN\n"]
  have hlast : ∀ last, (present [.text " +01", .text "JAN\n"]).getLast? = some last →
      ¬AsksGmt last := by
    rintro last hlast ⟨s, rfl, hs⟩
    obtain rfl : "JAN\n" = s := by simpa [present, isAbsent] using hlast
    revert hs
    decide
  refine ⟨hplain, ((hsame _ hnumber).2.2 _).1 hplain, hspelled, ?_⟩
  have hgmt := (hmarked hlast " gmt" 1 hmark).2.2
  rw [hspelled] at hgmt
  exact hgmt

end Period

end PacScript
