import Mathlib.Data.List.MinMax
import PacScript.Proofs.Resolver.Calls

/-!
# Deadlines

No call waits past its deadline, since time does not pass it before the call has given up
(`OnTime`). So a call that has begun has ended by its deadline if it has ended (`Due`), and it can
always end: when all calls that wait give up in the order of their deadlines, none is left waiting
(`exists_patience`).
-/

namespace PacScript.Resolver

/-- A step with which time passes or a call gives up. -/
def Step.ofPatience : Step → Bool
  | .giveUp _ => true
  | .advance _ => true
  | _ => false

namespace Event

variable {call call' : Call} {time time' : Binary64} {result result' : Except Fault (List Address)}

theorem ofResult_inj (h : ofResult call time result = ofResult call' time' result') :
    call = call' ∧ time = time' := by
  cases result <;> cases result' <;> cases h <;> exact ⟨rfl, rfl⟩

theorem exists_ofResult {e : Event} (h : e.call? = some call) :
    ∃ time result, e = ofResult call time result := by
  cases e with
  | returned c found time =>
    cases h
    exact ⟨time, .ok found, rfl⟩
  | raised c fault time =>
    cases h
    exact ⟨time, .error fault, rfl⟩
  | _ => cases h

end Event

namespace Traffic

variable {limits : ResolverLimits} {t : Traffic} {w : Waiting} {call : Call} {deadline : Binary64}

theorem Accounted.lt_of_ended (h : Accounted t) {time : Binary64}
    {result : Except Fault (List Address)} (hended : .ofResult call time result ∈ t.history) :
    call.number < t.calls := by
  refine List.mem_range.1 (h.subset (List.mem_append_right _ ?_))
  exact List.mem_map_of_mem (List.mem_filterMap.2 ⟨_, hended, Event.call?_ofResult _ _ _⟩)

/-- A call that begins ends at once, or it waits from now on. -/
theorem begin_effect (limits : ResolverLimits) (host : String) (filter : FamilyFilter)
    (t : Traffic) : ∃ resolver waiting history,
      t.begin limits host filter = ⟨resolver, t.calls + 1, waiting, history⟩ ∧
      resolver.now = t.resolver.now ∧
      ((∃ result, waiting = t.waiting ∧
        history = t.history ++ [.ofResult ⟨t.calls, host, filter⟩ t.resolver.now result]) ∨
      ∃ lookup events, waiting = t.waiting ++
          [⟨⟨t.calls, host, filter⟩, lookup, limits.deadline t.resolver.now⟩] ∧
        history = t.history ++ events ∧ ∀ e ∈ events, e.call? = none) := by
  rcases begin_cases limits host filter t with ⟨-, result, heq⟩ |
    ⟨-, ⟨lookup, -, heq⟩ | ⟨lookup, -, -, heq⟩⟩
  · exact ⟨_, _, _, heq, rfl, Or.inl ⟨result, rfl, rfl⟩⟩
  · exact ⟨_, _, _, heq, rfl, Or.inr ⟨lookup, _, rfl, rfl, by simp [Event.call?]⟩⟩
  · exact ⟨_, _, _, heq, rfl, Or.inr ⟨lookup, _, rfl, rfl, by simp [Event.call?]⟩⟩

/-! ## No call waits for longer -/

/-- No deadline has passed, and the clock shows a time from which deadlines can be counted. -/
structure OnTime (limits : ResolverLimits) (t : Traffic) : Prop where
  next : limits.deadline t.resolver.now ≠ .nan
  waiting : ∀ w ∈ t.waiting, t.resolver.now.le w.deadline = true

theorem onTime_step (h : OnTime limits t) (s : Step) : OnTime limits (t.step limits s) := by
  cases s with
  | resolve host filter =>
    obtain ⟨r, waiting, history, heq, hnow, ⟨result, rfl, -⟩ | ⟨lookup, events, rfl, -⟩⟩ :=
      begin_effect limits host filter t
    · rw [step, heq]
      exact ⟨hnow ▸ h.next, hnow ▸ h.waiting⟩
    · rw [step, heq]
      refine ⟨hnow ▸ h.next, fun w hw => ?_⟩
      show r.now.le w.deadline = true
      rw [hnow]
      rcases List.mem_append.1 hw with hw | hw
      · exact h.waiting w hw
      · rw [List.mem_singleton.1 hw]
        exact ResolverLimits.le_deadline h.next
  | complete key reply =>
    rcases complete_cases limits key reply t with ⟨-, heq⟩ | ⟨lookup, -, heq⟩ <;> rw [step, heq]
    · exact h
    · refine ⟨by rw [finish_now]; exact h.next, fun w hw => ?_⟩
      rw [finish_now]
      exact h.waiting w (List.mem_filter.1 hw).1
  | giveUp number =>
    rcases giveUp_cases limits number t with heq | ⟨w, -, -, -, heq⟩ <;> rw [step, heq]
    · exact h
    · exact ⟨h.next, fun w hw => h.waiting w (List.mem_filter.1 hw).1⟩
  | advance now =>
    rw [step, advance]
    split
    · rename_i hguard
      rw [Bool.and_eq_true, List.all_eq_true] at hguard
      obtain ⟨hlater, hdeadlines⟩ := hguard
      refine ⟨ResolverLimits.deadline_ne_nan_of_le h.next hlater, fun w hw => ?_⟩
      exact Binary64.le_of_not_lt (Binary64.ne_nan_of_le (h.waiting w hw)).2
        (Binary64.ne_nan_of_le hlater).2 (by simpa using hdeadlines w hw)
    · exact h
  | close => exact ⟨h.next, h.waiting⟩

theorem onTime_run (h : OnTime limits t) (steps : List Step) : OnTime limits (t.run limits steps) :=
  run_induction (p := OnTime limits) (fun _ s h => onTime_step h s) steps h

/-! ## One call -/

/-- A call that has begun has the deadline while it waits, and ended by then if it has ended. -/
structure Due (call : Call) (deadline : Binary64) (t : Traffic) : Prop where
  begun : call.number < t.calls
  waiting : ∀ w ∈ t.waiting, w.call.number = call.number → w.call = call ∧ w.deadline = deadline
  ended : ∀ c time result, .ofResult c time result ∈ t.history → c.number = call.number →
    c = call ∧ time.le deadline = true

/-- A call that ends has begun just now, or it has waited. -/
theorem Due.extend (h : Due call deadline t) (hontime : OnTime limits t) {t' : Traffic}
    {events : List Event} (hcalls : t.calls ≤ t'.calls)
    (hwaiting : ∀ w ∈ t'.waiting, w ∈ t.waiting ∨ w.call.number = t.calls)
    (hhistory : t'.history = t.history ++ events)
    (hevents : ∀ c time result, .ofResult c time result ∈ events →
      c.number = t.calls ∨ ∃ w ∈ t.waiting, w.call = c ∧ t.resolver.now = time) :
    Due call deadline t' := by
  have hbegun := h.begun
  refine ⟨by omega, fun w hw hnumber => ?_, fun c time result hmem hnumber => ?_⟩
  · rcases hwaiting w hw with hw | hnew
    · exact h.waiting w hw hnumber
    · omega
  · rw [hhistory, List.mem_append] at hmem
    rcases hmem with hmem | hmem
    · exact h.ended c time result hmem hnumber
    · rcases hevents c time result hmem with hnew | ⟨w, hw, rfl, rfl⟩
      · omega
      · obtain ⟨hcall, hdeadline⟩ := h.waiting w hw hnumber
        exact ⟨hcall, hdeadline ▸ hontime.waiting w hw⟩

theorem due_step (hontime : OnTime limits t) (h : Due call deadline t) (s : Step) :
    Due call deadline (t.step limits s) := by
  cases s with
  | resolve host filter =>
    obtain ⟨r, waiting, history, heq, -, hends | hwaits⟩ := begin_effect limits host filter t
    · obtain ⟨result, rfl, rfl⟩ := hends
      rw [step, heq]
      refine h.extend hontime (Nat.le_succ _) (fun w hw => Or.inl hw) rfl
        fun c time result' hmem => ?_
      exact Or.inl (congrArg Call.number (Event.ofResult_inj (List.mem_singleton.1 hmem)).1)
    · obtain ⟨lookup, events, rfl, rfl, hevents⟩ := hwaits
      rw [step, heq]
      refine h.extend hontime (Nat.le_succ _) (fun w hw => ?_) rfl fun c time result hmem => ?_
      · exact (List.mem_append.1 hw).imp_right fun hw => by rw [List.mem_singleton.1 hw]
      · exact absurd (hevents _ hmem) (by simp)
  | complete key reply =>
    rcases complete_cases limits key reply t with ⟨-, heq⟩ | ⟨lookup, -, heq⟩ <;> rw [step, heq]
    · exact h
    · refine h.extend hontime (Nat.le_refl _) (fun w hw => Or.inl (List.mem_filter.1 hw).1) rfl
        fun c time result hmem => Or.inr ?_
      rcases List.mem_cons.1 hmem with hmem | hmem
      · have hcall := congrArg Event.call? hmem
        rw [Event.call?_ofResult, Event.call?_ofOutcome] at hcall
        cases hcall
      · obtain ⟨w, hw, heq⟩ := List.mem_map.1 hmem
        exact ⟨w, (List.mem_filter.1 hw).1, Event.ofResult_inj heq⟩
  | giveUp number =>
    rcases giveUp_cases limits number t with heq | ⟨w, hw, -, -, heq⟩ <;> rw [step, heq]
    · exact h
    · refine h.extend hontime (Nat.le_refl _) (fun w hw => Or.inl (List.mem_filter.1 hw).1) rfl
        fun c time result hmem => ?_
      have hraised : .ofResult w.call t.resolver.now (.error (giveUpFault limits
          (nameOf w.call.host))) = Event.ofResult c time result := (List.mem_singleton.1 hmem).symm
      exact Or.inr ⟨w, hw, Event.ofResult_inj hraised⟩
  | advance now =>
    rcases advance_cases now t with heq | ⟨-, heq⟩ <;> rw [step, heq] <;>
      exact ⟨h.begun, h.waiting, h.ended⟩
  | close =>
    refine h.extend hontime (Nat.le_refl _) (fun w hw => Or.inl hw) rfl fun c time result hmem => ?_
    have hcall := congrArg Event.call? (List.mem_singleton.1 hmem)
    rw [Event.call?_ofResult] at hcall
    cases hcall

/-- A call that begins now is due at its deadline. -/
theorem due_begin (hontime : OnTime limits t) (haccounted : Accounted t) (host : String)
    (filter : FamilyFilter) : Due ⟨t.calls, host, filter⟩ (limits.deadline t.resolver.now)
      (t.step limits (.resolve host filter)) := by
  have hold (w : Waiting) (hw : w ∈ t.waiting) : w.call.number ≠ t.calls :=
    Nat.ne_of_lt (haccounted.lt_of_waiting hw)
  have hended (c : Call) (time : Binary64) (result : Except Fault (List Address))
      (hmem : .ofResult c time result ∈ t.history) : c.number ≠ t.calls :=
    Nat.ne_of_lt (haccounted.lt_of_ended hmem)
  obtain ⟨r, waiting, history, heq, -, ⟨result, rfl, rfl⟩ | ⟨lookup, events, rfl, rfl, hevents⟩⟩ :=
    begin_effect limits host filter t
  · rw [step, heq]
    refine ⟨Nat.lt_succ_self _, fun w hw hnumber => absurd hnumber (hold w hw),
      fun c time result' hmem hnumber => ?_⟩
    rcases List.mem_append.1 hmem with hmem | hmem
    · exact absurd hnumber (hended c time result' hmem)
    · obtain ⟨rfl, rfl⟩ := Event.ofResult_inj (List.mem_singleton.1 hmem)
      exact ⟨rfl, ResolverLimits.le_deadline hontime.next⟩
  · rw [step, heq]
    refine ⟨Nat.lt_succ_self _, fun w hw hnumber => ?_, fun c time result hmem hnumber => ?_⟩
    · rcases List.mem_append.1 hw with hw | hw
      · exact absurd hnumber (hold w hw)
      · rw [List.mem_singleton.1 hw]
        exact ⟨rfl, rfl⟩
    · rcases List.mem_append.1 hmem with hmem | hmem
      · exact absurd hnumber (hended c time result hmem)
      · exact absurd (hevents _ hmem) (by simp)

theorem due_run (hontime : OnTime limits t) (h : Due call deadline t) (steps : List Step) :
    Due call deadline (t.run limits steps) := by
  let p : Traffic → Prop := fun t => OnTime limits t ∧ Due call deadline t
  have hstep : ∀ t s, p t → p (t.step limits s) := fun t s h =>
    ⟨onTime_step h.1 s, due_step h.1 h.2 s⟩
  exact (run_induction hstep steps ⟨hontime, h⟩).2

/-- A call that has begun waits or has ended. -/
theorem Due.waits_or_ended (h : Due call deadline t) (haccounted : Accounted t) :
    (∃ w ∈ t.waiting, w.call = call ∧ w.deadline = deadline) ∨
      ∃ time result, .ofResult call time result ∈ t.history := by
  have hmem := haccounted.symm.subset (List.mem_range.2 h.begun)
  rcases List.mem_append.1 hmem with hmem | hmem
  · obtain ⟨w, hw, hnumber⟩ := List.mem_map.1 hmem
    exact Or.inl ⟨w, hw, h.waiting w hw hnumber⟩
  · obtain ⟨c, hc, hnumber⟩ := List.mem_map.1 hmem
    obtain ⟨e, he, hcall⟩ := List.mem_filterMap.1 hc
    obtain ⟨time, result, rfl⟩ := Event.exists_ofResult hcall
    obtain ⟨rfl, -⟩ := h.ended c time result he hnumber
    exact Or.inr ⟨time, result, he⟩

/-! ## All calls can end -/

theorem giveUp_waiting (hw : w ∈ t.waiting) (hdue : w.deadline.le t.resolver.now = true) :
    (t.giveUp limits w.call.number).waiting =
      t.waiting.filter fun w' => w'.call.number != w.call.number := by
  unfold giveUp
  simp only
  split
  · rename_i hnone
    have hfalse := List.find?_eq_none.1 hnone w hw
    simp [hdue] at hfalse
  · rfl

theorem exists_least_deadline (h : t.waiting ≠ []) : ∃ w ∈ t.waiting, ∀ w' ∈ t.waiting,
    w.deadline.level ≤ w'.deadline.level := by
  rcases hleast : t.waiting.argmin fun w => w.deadline.level with _ | w
  · exact absurd (List.argmin_eq_none.1 hleast) h
  · refine ⟨w, List.argmin_mem hleast, fun w' hw' => ?_⟩
    exact List.le_of_mem_argmin (f := fun w : Waiting => w.deadline.level) hw' hleast

/-- Without any look-up having to end, time can pass until no call waits. -/
theorem exists_patience (h : OnTime limits t) : ∃ steps : List Step,
    steps.all Step.ofPatience = true ∧ (t.run limits steps).waiting = [] := by
  induction hlength : t.waiting.length using Nat.strong_induction_on generalizing t with
  | _ n ih =>
    by_cases hempty : t.waiting = []
    · exact ⟨[], rfl, hempty⟩
    · -- the clock moves to the least deadline, and the call whose deadline it is gives up
      obtain ⟨w, hw, hleast⟩ := exists_least_deadline hempty
      have hdeadline := h.waiting w hw
      have hguard : (t.resolver.now.le w.deadline &&
          t.waiting.all fun w' => !w'.deadline.lt w.deadline) = true := by
        rw [Bool.and_eq_true, List.all_eq_true]
        refine ⟨hdeadline, fun w' hw' => ?_⟩
        rw [Bool.not_eq_true', ← Bool.not_eq_true,
          Binary64.lt_iff (Binary64.ne_nan_of_le (h.waiting w' hw')).2
            (Binary64.ne_nan_of_le hdeadline).2]
        have := hleast w' hw'
        omega
      have hadvance : t.advance w.deadline =
          { t with resolver := { t.resolver with now := w.deadline } } := if_pos hguard
      have hself := Binary64.le_self (Binary64.ne_nan_of_le hdeadline).2
      have hwaiting : ((t.advance w.deadline).giveUp limits w.call.number).waiting =
          t.waiting.filter fun w' => w'.call.number != w.call.number := by
        rw [hadvance]
        exact giveUp_waiting hw hself
      have hless : ((t.advance w.deadline).giveUp limits w.call.number).waiting.length < n := by
        rw [hwaiting, ← hlength]
        exact List.length_filter_lt_length_iff_exists.2 ⟨w, hw, by simp⟩
      have hontime : OnTime limits ((t.advance w.deadline).giveUp limits w.call.number) :=
        onTime_step (onTime_step h (.advance w.deadline)) (.giveUp w.call.number)
      obtain ⟨steps, hpatience, hnone⟩ := ih _ hless hontime rfl
      exact ⟨.advance w.deadline :: .giveUp w.call.number :: steps, hpatience, hnone⟩

end Traffic

end PacScript.Resolver
