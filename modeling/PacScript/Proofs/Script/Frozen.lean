import PacScript.Proofs.Host.Steady

/-!
# Calls at one instant

A library whose clock is frozen at an instant is what one evaluation of a script works with. Its
calls have results of their own, whatever else the session was used for (`call_settled`), and they
leave the clock of the session alone. What a temporal function answers is whether the range that it
is asked about includes that instant (`call_atInstant`).
-/

namespace PacScript.Script

variable {σ : Type}

/-- The library for an evaluation at an instant, over a host with the usual answers. -/
def evaluation (p : Primitives σ) (settings : Settings) (i : Instant) : Library σ :=
  ⟨p.toHost settings, .frozen i⟩

/-- Whatever the session was used for, the action has the same result, and it reads no clock. -/
def ScriptM.Settled {α : Type} (act : ScriptM σ α) : Prop :=
  Steady (fun s => s.world.Sound) Session.clock act

theorem onHost_settled {α : Type} {act : HostM σ α} (h : act.Settled) :
    ScriptM.Settled (onHost act) := by
  obtain ⟨r, hr⟩ := h
  refine ⟨r, fun s hs => ?_⟩
  obtain ⟨w, hrun, hw, -⟩ := hr s.world hs
  have hact : (onHost act).run.run s =
      ((act.run.run s.world).1, { s with world := (act.run.run s.world).2 }) := rfl
  rw [hrun] at hact
  exact ⟨_, hact, hw, rfl⟩

namespace Library

theorem textArg_settled (v : Value) : (textArg v : ScriptM σ String).Settled := by
  unfold textArg
  split
  · exact .pure _
  · exact .throw _

theorem recover_settled (f : Function) (args : List Value) (fault : Fault) :
    (recover f args fault : ScriptM σ Value).Settled := by
  unfold recover
  split
  · exact .pure _
  · exact (onHost_settled (HostM.report_settled _ _ _)).bind fun _ => .pure _

section Evaluation

variable {p : Primitives σ} (hp : p.Stateless) (settings : Settings) (i : Instant)

include hp

theorem ask_settled (c : Call) : ((evaluation p settings i).ask c).Settled :=
  onHost_settled (Primitives.answer_settled hp settings c)

theorem askAbout_settled {ρ : Type} (range : Except PeriodFault ρ) (c : ρ → Instant → Call) :
    ((evaluation p settings i).askAbout range c).Settled := by
  unfold askAbout
  split
  · exact .throw _
  · exact (Steady.pure i).bind fun _ => ask_settled hp settings i _

theorem invoke_settled (f : Function) (args : List Value) :
    ((evaluation p settings i).invoke f args).Settled := by
  have hask := ask_settled hp settings i
  have hone {c : String → Call} (v : Value) :
      ((textArg v : ScriptM σ String) >>= fun s => (evaluation p settings i).ask (c s)).Settled :=
    (textArg_settled v).bind fun _ => hask _
  have htwo {c : String → String → Call} (v w : Value) :
      ((textArg v : ScriptM σ String) >>= fun s => textArg w >>= fun t =>
        (evaluation p settings i).ask (c s t)).Settled :=
    (textArg_settled v).bind fun _ => hone w
  unfold invoke
  split
  · exact hone _
  · exact htwo _ _
  · exact htwo _ _
  · exact hone _
  · exact (textArg_settled _).bind fun _ => htwo _ _
  · exact hone _
  · exact hask _
  · exact hone _
  · exact htwo _ _
  · exact hone _
  · exact htwo _ _
  · exact hone _
  · exact hask _
  · exact hone _
  · exact hask _
  · split_ifs
    · exact askAbout_settled hp settings i _ _
    · exact .throw _
  · split_ifs
    · exact askAbout_settled hp settings i _ _
    · exact .throw _
  · split_ifs
    · exact askAbout_settled hp settings i _ _
    · exact .throw _
  · exact .throw _

theorem send_settled (message : Except Fault String) :
    ((evaluation p settings i).send message).Settled := by
  unfold send
  split
  · exact .pure _
  · exact ((ask_settled hp settings i _).bind fun _ => .pure _).tryCatch fun _ => .pure _

theorem alert_settled (args : List Value) : ((evaluation p settings i).alert args).Settled := by
  unfold alert
  split
  · exact send_settled hp settings i _
  · exact send_settled hp settings i _
  · exact send_settled hp settings i _
  · exact .throw _

/-- What a call at an instant comes to does not depend on what the session was used for. -/
theorem call_settled (f : Function) (args : List Value) :
    ((evaluation p settings i).call f args).Settled := by
  unfold call
  split
  · exact alert_settled hp settings i args
  · exact ((invoke_settled hp settings i _ args).tryCatch (recover_settled _ args)).bind fun _ =>
      .ofExcept _

end Evaluation

end Library

/-! ## Temporal functions -/

/-- Whether a range includes what it is asked about, where local time is known. Where there is no
range or no local time, or where the two cannot tell, the answer is no. -/
def holds {ρ : Type} (range : Except PeriodFault ρ) (local? : Except Fault (Option Zone))
    (includes : ρ → Option Zone → Except CalendarFault Bool) : Bool :=
  match range, local? with
  | .ok range, .ok local? => (includes range local?).toOption.getD false
  | _, _ => false

/-- What a temporal function answers at an instant; there is nothing to say about the others. -/
def atInstant? (zones : Zones) (settings : Settings) (i : Instant) (f : Function)
    (args : List Value) : Option Bool :=
  let system := zones.system
  let local? := settings.localZone zones
  match f with
  | .weekdayRange => some
    (args.length ≤ 3 && holds (WeekdayRange.ofArgs args) local? fun r => r.includes system i)
  | .dateRange => some
    (args.length ≤ 7 && holds (DateRange.ofArgs args) local? fun r => r.includes system i)
  | .timeRange => some
    (args.length ≤ 7 && holds (TimeRange.ofArgs args) local? fun r => r.includes system i)
  | _ => none

theorem holds_ok {ρ : Type} (zones : Zones) (settings : Settings) (range : ρ)
    (includes : ρ → SystemClock → Option Zone → Except CalendarFault Bool) :
    holds (.ok range) (settings.localZone zones) (includes · zones.system) =
      (Answers.onClocks zones settings (includes range)).toOption.getD false := by
  unfold Answers.onClocks holds
  rcases settings.localZone zones with fault | local?
  · rfl
  · show (includes range zones.system local?).toOption.getD false =
      ((includes range zones.system local?).mapError Fault.calendar).toOption.getD false
    cases includes range zones.system local? <;> rfl

namespace Library

variable (p : Primitives σ) (settings : Settings) (i : Instant)

/-- A predicate that comes down to an answer about a range, or to a fault of the call. -/
theorem call_run_askAbout {ρ : Type} {f : Function} {args : List Value} {limit : Nat}
    {range : Except PeriodFault ρ} {c : ρ → Instant → Call}
    {includes : ρ → SystemClock → Option Zone → Except CalendarFault Bool}
    (hf : f.resultType = .bool)
    (hinvoke : (evaluation p settings i).invoke f args =
      if args.length ≤ limit then (evaluation p settings i).askAbout range c else throw .badCall)
    (hanswer : ∀ r, p.answer settings (c r i) =
      .bool <$> MonadExcept.ofExcept (Answers.onClocks p.zones settings (includes r)))
    (s : Session σ) :
    (((evaluation p settings i).call f args).run.run s).1 = .ok (.bool (args.length ≤ limit &&
      holds range (settings.localZone p.zones) (includes · p.zones.system))) := by
  have hsentinel : sentinel f = .bool false := by rw [sentinel, hf]
  have hdelivered (b : Bool) : delivered f (.bool b) = .ok (.bool b) := by
    show coerce f.resultType (.bool b) = _
    rw [hf]
    rfl
  have halert : f ≠ .alert := by
    rintro rfl
    cases hf
  rw [call_run _ halert, hinvoke]
  -- too many arguments, a faulty range and clocks that cannot tell all end in the sentinel
  by_cases hargs : args.length ≤ limit
  · rw [if_pos hargs, decide_eq_true hargs, Bool.true_and]
    rcases range with fault | r
    · exact congrArg Except.ok hsentinel
    · have hrun : ((evaluation p settings i).askAbout (.ok r) c).run.run s =
          ((Answers.onClocks p.zones settings (includes r)).map .bool, s) := by
        show (onHost (p.answer settings (c r i))).run.run s = _
        rw [hanswer]
        cases Answers.onClocks p.zones settings (includes r) <;> rfl
      rw [hrun, holds_ok]
      rcases Answers.onClocks p.zones settings (includes r) with fault | b
      · exact congrArg Except.ok hsentinel
      · exact hdelivered b
  · rw [if_neg hargs, decide_eq_false hargs, Bool.false_and]
    exact congrArg Except.ok hsentinel

/-- A temporal function answers for the instant of the evaluation. -/
theorem call_atInstant {f : Function} {args : List Value} {b : Bool}
    (h : atInstant? p.zones settings i f args = some b) (s : Session σ) :
    (((evaluation p settings i).call f args).run.run s).1 = .ok (.bool b) := by
  cases f
  case weekdayRange =>
    have hanswer (r : WeekdayRange) : p.answer settings (.weekdayRange r i) = .bool <$>
        MonadExcept.ofExcept (Answers.onClocks p.zones settings (r.includes · i)) := rfl
    cases h
    exact call_run_askAbout p settings i rfl rfl hanswer s
  case dateRange =>
    have hanswer (r : DateRange) : p.answer settings (.dateRange r i) = .bool <$>
        MonadExcept.ofExcept (Answers.onClocks p.zones settings (r.includes · i)) := rfl
    cases h
    exact call_run_askAbout p settings i rfl rfl hanswer s
  case timeRange =>
    have hanswer (r : TimeRange) : p.answer settings (.timeRange r i) = .bool <$>
        MonadExcept.ofExcept (Answers.onClocks p.zones settings (r.includes · i)) := rfl
    cases h
    exact call_run_askAbout p settings i rfl rfl hanswer s
  all_goals cases h

end Library

end PacScript.Script
