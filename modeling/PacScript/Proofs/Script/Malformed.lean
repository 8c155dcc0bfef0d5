import Mathlib.Data.List.Basic
import Mathlib.Tactic.SplitIfs
import PacScript.Proofs.Script.Running

/-!
# Malformed calls

All checks of a call come before the host is asked and before the clock is read, so a call whose
arguments do not fit its function fails with the session as it was (`invoke_fails_of_count`,
`invoke_fails_of_kind`), and so does one whose arguments its parser refuses
(`invoke_fails_of_refused`). The script gets the sentinel. Nothing else is left behind but a warning
when a parser refuses the arguments, or when what is refused cannot be written (`call_malformed`).
-/

namespace PacScript.Script

namespace Function

/-- Whether the function is about a period. -/
def isTemporal : Function → Bool
  | .weekdayRange | .dateRange | .timeRange => true
  | _ => false

def arity : Function → Nat
  | .myIpAddress | .myIpAddressEx | .getClientVersion => 0
  | .dnsDomainIs | .localHostOrDomainIs | .shExpMatch | .isInNetEx => 2
  | .isInNet | .weekdayRange => 3
  | .dateRange | .timeRange => 7
  | _ => 1

/-- The function can be called with this many arguments. Those of a temporal function may be left
out, from the last one on. -/
def Takes (f : Function) (count : Nat) : Prop :=
  if f.isTemporal then count ≤ f.arity else count = f.arity

end Function

variable {σ α β : Type} {f : Function} {args : List Value} {fault : Fault} {cause : PeriodFault}

/-- The value is no text. -/
def NoText (v : Value) : Prop := ∀ s, v ≠ .text s

/-- The arguments are too many or too few for the function, or the function is about texts and one
of them is none. -/
inductive Unfit (f : Function) (args : List Value) : Prop
  | count (h : ¬f.Takes args.length)
  | kind (htexts : f.isTemporal = false) (h : ∃ v ∈ args, NoText v)

/-- The value is the first of the arguments that is no text. -/
inductive FirstNoText : List Value → Value → Prop
  | here {v : Value} {rest : List Value} (h : NoText v) : FirstNoText (v :: rest) v
  | later {s : String} {v : Value} {rest : List Value} (h : FirstNoText rest v) :
      FirstNoText (.text s :: rest) v

/-- The function is about texts, and the first of its arguments that is none cannot be written. -/
structure Unwritten (f : Function) (args : List Value) : Prop where
  texts : f.isTemporal = false
  count : f.Takes args.length
  first : ∃ v, FirstNoText args v ∧ v.isWritable = false

theorem FirstNoText.unique {v w : Value} (hv : FirstNoText args v) (hw : FirstNoText args w) :
    v = w := by
  induction hv with
  | here h =>
    cases hw with
    | here => rfl
    | later => exact absurd rfl (h _)
  | later _ ih =>
    cases hw with
    | here h => exact absurd rfl (h _)
    | later hw => exact ih hw

theorem FirstNoText.mem {v : Value} (h : FirstNoText args v) : v ∈ args ∧ NoText v := by
  induction h with
  | here h => exact ⟨List.mem_cons_self, h⟩
  | later _ ih => exact ⟨List.mem_cons_of_mem _ ih.1, ih.2⟩

theorem Unwritten.unfit (h : Unwritten f args) : Unfit f args := by
  obtain ⟨v, hv, -⟩ := h.first
  exact .kind h.texts ⟨v, hv.mem⟩

/-- The parser of the temporal function refuses the arguments. -/
inductive Refuses : Function → List Value → PeriodFault → Prop
  | weekdays {args : List Value} {cause : PeriodFault}
      (h : WeekdayRange.ofArgs args = .error cause) : Refuses .weekdayRange args cause
  | dates {args : List Value} {cause : PeriodFault}
      (h : DateRange.ofArgs args = .error cause) : Refuses .dateRange args cause
  | times {args : List Value} {cause : PeriodFault}
      (h : TimeRange.ofArgs args = .error cause) : Refuses .timeRange args cause

/-! ## Failing without a trace -/

/-- Whatever the session, the action fails and leaves the session as it was. -/
def ScriptM.Fails (act : ScriptM σ α) (fault : Fault) : Prop :=
  ∀ s, act.run.run s = (.error fault, s)

theorem fails_throw (fault : Fault) : ScriptM.Fails (throw fault : ScriptM σ α) fault :=
  fun _ => rfl

theorem ScriptM.Fails.bind {act : ScriptM σ α} (h : act.Fails fault) (k : α → ScriptM σ β) :
    ScriptM.Fails (act >>= k) fault := fun s => by
  rw [run_bind, h s]

namespace Library

variable (l : Library σ)

theorem textArg_fails {v : Value} (h : NoText v) :
    (textArg v : ScriptM σ String).Fails (refusal v) := by
  unfold textArg
  split
  · exact absurd rfl (h _)
  · exact fails_throw _

/-- Of several arguments that must be texts the first that is none ends the call. -/
theorem textArg_bind_fails {v w : Value} {rest : List Value} (h : FirstNoText (v :: rest) w)
    {k : String → ScriptM σ α} (hk : ∀ s, FirstNoText rest w → (k s).Fails (refusal w)) :
    ScriptM.Fails (textArg v >>= k) (refusal w) := by
  cases h with
  | here h => exact (textArg_fails h).bind k
  | @later s _ _ h => exact hk s h

theorem exists_firstNoText : ∀ {args : List Value}, (∃ v ∈ args, NoText v) →
    ∃ v, FirstNoText args v
  | [], ⟨_, h, _⟩ => nomatch h
  | .text _ :: _, ⟨v, hv, hno⟩ => by
    rcases List.mem_cons.1 hv with rfl | hv
    · exact absurd rfl (hno _)
    · obtain ⟨w, hw⟩ := exists_firstNoText ⟨v, hv, hno⟩
      exact ⟨w, .later hw⟩
  | .null :: _, _ | .bool _ :: _, _ | .int _ :: _, _ | .float _ :: _, _ | .list _ :: _, _
  | .dict _ :: _, _ | .tuple _ :: _, _ | .set _ :: _, _ | .bytes _ :: _, _ | .date _ :: _, _
  | .instant _ :: _, _ | .address _ :: _, _ | .recurring _ :: _, _ =>
    ⟨_, .here fun _ h => nomatch h⟩

theorem invoke_fails_of_count (h : ¬f.Takes args.length) : (l.invoke f args).Fails .badCall := by
  -- arguments that one of the forms has are as many as its function takes
  unfold invoke
  split
  case h_16 | h_17 | h_18 =>
    split_ifs with hcount
    · exact absurd hcount h
    · exact fails_throw _
  case h_19 => exact fails_throw _
  all_goals exact absurd rfl h

theorem invoke_fails_of_kind (hf : f ≠ .alert) (htexts : f.isTemporal = false)
    (hcount : f.Takes args.length) {u : Value} (h : FirstNoText args u) :
    (l.invoke f args).Fails (refusal u) := by
  have hone {v : Value} {k : String → ScriptM σ Value} (h : FirstNoText [v] u) :
      (textArg v >>= k).Fails (refusal u) :=
    textArg_bind_fails h fun s h => nomatch h
  have htwo {v w : Value} {k : String → String → ScriptM σ Value} (h : FirstNoText [v, w] u) :
      (textArg v >>= fun s => textArg w >>= k s).Fails (refusal u) :=
    textArg_bind_fails h fun s h => hone h
  cases f with
  | alert => exact absurd rfl hf
  | weekdayRange | dateRange | timeRange => cases htexts
  | myIpAddress | myIpAddressEx | getClientVersion =>
    obtain rfl := List.length_eq_zero_iff.1 hcount
    cases h
  | dnsDomainIs | localHostOrDomainIs | shExpMatch | isInNetEx =>
    obtain ⟨v, w, rfl⟩ := List.length_eq_two.1 hcount
    exact htwo h
  | isInNet =>
    obtain ⟨v, w, x, rfl⟩ := List.length_eq_three.1 hcount
    exact textArg_bind_fails h fun s h => htwo h
  | _ =>
    obtain ⟨v, rfl⟩ := List.length_eq_one_iff.1 hcount
    exact hone h

theorem invoke_fails_of_unfit (hf : f ≠ .alert) (h : Unfit f args) :
    ∃ fault, (l.invoke f args).Fails fault ∧
      (fault = .badCall ∧ ¬Unwritten f args ∨ fault = .coercion .malformed ∧ Unwritten f args) := by
  by_cases hcount : f.Takes args.length
  · cases h with
    | count h => exact absurd hcount h
    | kind htexts h =>
      obtain ⟨u, hu⟩ := exists_firstNoText h
      refine ⟨_, l.invoke_fails_of_kind hf htexts hcount hu, ?_⟩
      rcases hwritable : u.isWritable with _ | _
      · exact .inr ⟨by simp [refusal, hwritable], htexts, hcount, u, hu, hwritable⟩
      · refine .inl ⟨by simp [refusal, hwritable], ?_⟩
        rintro ⟨-, -, w, hw, hunwritable⟩
        rw [hw.unique hu, hwritable] at hunwritable
        cases hunwritable
  · exact ⟨.badCall, l.invoke_fails_of_count hcount, .inl ⟨rfl, fun h => hcount h.count⟩⟩

/-- The clock is read only when there is a range to ask about. -/
theorem invoke_fails_of_refused (hcount : f.Takes args.length) (h : Refuses f args cause) :
    (l.invoke f args).Fails (.ofPeriod cause) := by
  cases h with
  | weekdays h | dates h | times h =>
    simp only [invoke, h, askAbout]
    split_ifs with hfits
    · exact fails_throw _
    · exact absurd hcount hfits

theorem call_run_of_fails (hf : f ≠ .alert) (h : (l.invoke f args).Fails fault) (s : Session σ) :
    (l.call f args).run.run s = (.ok (sentinel f), afterFault f args fault s) := by
  rw [l.call_run hf, h s]

/-- The sentinel of a function that has a result. -/
theorem sentinel_cases (hf : f ≠ .alert) :
    sentinel f = .bool false ∨ sentinel f = .int 0 ∨ sentinel f = .text "" := by
  cases f <;> simp [sentinel, Function.resultType] at hf ⊢

/-- Whatever the host and the clock are, a call that does not fit its function gives the sentinel: a
host that counts the questions put to it has counted none, and no reading of the clock is used up.
The whole session is left as it was, unless the value that is refused cannot be written. Then a
warning is left behind that blames the host. One warning is left behind, too, when the parser of a
temporal function refuses the arguments. -/
theorem call_malformed (hf : f ≠ .alert) (s : Session σ) :
    (sentinel f = .bool false ∨ sentinel f = .int 0 ∨ sentinel f = .text "") ∧
    (Unfit f args → ¬Unwritten f args → (l.call f args).run.run s = (.ok (sentinel f), s)) ∧
    (Unwritten f args → (l.call f args).run.run s =
      (.ok (sentinel f), s.logging ⟨.warning, .library, hostWarning f args⟩)) ∧
    (f.Takes args.length → ∀ cause, Refuses f args cause → (l.call f args).run.run s =
      (.ok (sentinel f), s.logging ⟨.warning, .library,
        if cause.isWritable then scriptWarning f args (.period cause)
        else hostWarning f args⟩)) := by
  refine ⟨sentinel_cases hf, fun h hwritten => ?_, fun h => ?_, fun hcount cause h => ?_⟩
  · obtain ⟨fault, hfails, ⟨rfl, -⟩ | ⟨-, hunwritten⟩⟩ := l.invoke_fails_of_unfit hf h
    · exact l.call_run_of_fails hf hfails s
    · exact absurd hunwritten hwritten
  · obtain ⟨fault, hfails, ⟨-, hwritten⟩ | ⟨rfl, -⟩⟩ := l.invoke_fails_of_unfit hf h.unfit
    · exact absurd h hwritten
    · exact l.call_run_of_fails hf hfails s
  · rw [l.call_run_of_fails hf (l.invoke_fails_of_refused hcount h) s, Fault.ofPeriod]
    cases cause.isWritable <;> rfl

/-- A host that counts the questions put to it. -/
def countingHost : Host Nat :=
  ⟨.standard, fun _ => do
    modify fun w => { w with state := w.state + 1 }
    pure (.bool true)⟩

/-- A number where a text belongs, and an hour that no clock shows. -/
theorem call_malformed_two :
    let l : Library Nat := ⟨countingHost, .live⟩
    let s : Session Nat :=
      ⟨World.ofSettings .standard 0,
        ⟨[Instant.ofParts ⟨2024, 2, 29⟩ 0 0 (some 0)], .error .badCall⟩⟩
    (l.call .isInNet [.text "a", .int 5, .text "b"]).run.run s = (.ok (.bool false), s) ∧
    (l.call .timeRange [.int 24]).run.run s = (.ok (.bool false), s.logging ⟨.warning, .library,
      "PAC script error: arguments passed to timeRange() (24,) are faulty: " ++
        "value 24 is not a valid hour of day (0-23)"⟩) := by
  intro l s
  constructor
  · refine (l.call_malformed (by decide) s).2.1
      (.kind rfl ⟨.int 5, by simp, fun _ h => nomatch h⟩) fun hunwritten => ?_
    obtain ⟨v, hv, hunwritable⟩ := hunwritten.first
    obtain rfl : v = .int 5 := hv.unique (.later (.here fun _ h => nomatch h))
    have hwritable : (Value.int 5).isWritable = true := by decide +kernel
    rw [hwritable] at hunwritable
    cases hunwritable
  · have hcount : Function.timeRange.Takes 1 := by
      simp [Function.Takes, Function.isTemporal, Function.arity]
    have hrefused : Refuses .timeRange [.int 24] (.outOfBounds 24 0 23 "hour of day") := .times rfl
    have hcause : (PeriodFault.outOfBounds 24 0 23 "hour of day").isWritable = true := by
      decide +kernel
    have hargs : (Value.tuple [.int 24]).isWritable = true := by decide +kernel
    rw [(l.call_malformed (by decide) s).2.2.2 hcount _ hrefused, if_pos hcause, scriptWarning,
      if_pos hargs]
    rfl

/-- A number that cannot be written is refused with a warning where a text belongs. -/
theorem dnsResolve_run_of_large (l : Library σ) {n : Nat} (h : Nat.pow 10 Numeral.digitLimit ≤ n)
    (s : Session σ) : (l.call .dnsResolve [.int n]).run.run s = (.ok (.text ""),
      s.logging ⟨.warning, .library, "Host provider failed in %s() %r"⟩) := by
  have hfirst : FirstNoText [.int n] (.int n) := .here fun _ h => nomatch h
  have hlarge : (Value.int n).isWritable = false := by
    rw [Value.isWritable, Int.natAbs_natCast]
    exact decide_eq_false (Nat.not_lt.2 h)
  have hargs : (Value.tuple [.int n]).isWritable = false := by
    simp only [Value.isWritable, Value.allWritable, Bool.and_true] at hlarge ⊢
    exact hlarge
  have hfault : refusal (.int n) = .coercion .malformed := by rw [refusal, hlarge]; rfl
  have hwarning : hostWarning .dnsResolve [.int n] = "Host provider failed in %s() %r" := by
    rw [hostWarning, hargs]
    rfl
  have hcount : Function.dnsResolve.Takes [Value.int n].length := rfl
  have hfails := l.invoke_fails_of_kind (by decide) rfl hcount hfirst
  rw [l.call_run_of_fails (by decide) hfails s, hfault, ← hwarning]
  rfl

/-- The call is malformed, and its result is the sentinel. But it does not leave the session as it
was. -/
theorem call_leaves_trace :
    let l : Library Nat := ⟨countingHost, .live⟩
    let s : Session Nat := ⟨World.ofSettings .standard 0, ⟨[], .error .badCall⟩⟩
    let args : List Value := [.int (Nat.pow 10 Numeral.digitLimit : Nat)]
    Unfit .dnsResolve args ∧ (l.call .dnsResolve args).run.run s ≠ (.ok (.text ""), s) := by
  intro l s args
  refine ⟨.kind rfl ⟨_, List.mem_cons_self, fun _ h => nomatch h⟩, fun h => ?_⟩
  have htrace := dnsResolve_run_of_large l (Nat.le_refl _) s
  have hlog := congrArg (fun r => r.2.world.log) (htrace.symm.trans h)
  exact List.cons_ne_nil _ _ hlog

end Library

end PacScript.Script
