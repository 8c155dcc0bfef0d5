import PacScript.Proofs.Number.Order
import PacScript.Proofs.Resolver.Flights

/-!
# Calls that wait

Every call that has begun waits or has ended, and does so once (`Accounted`). A call that waits goes
on waiting until its look-up has ended or its deadline has come, whatever else happens
(`waits_run`).
-/

namespace PacScript.Resolver

/-- The call that ends. -/
def Event.call? : Event → Option Call
  | .returned call _ _ => some call
  | .raised call _ _ => some call
  | _ => none

@[simp] theorem Event.call?_ofResult (call : Call) (time : Binary64)
    (result : Except Fault (List Address)) : (ofResult call time result).call? = some call := by
  cases result <;> rfl

@[simp] theorem Event.call?_ofOutcome (lookup : Lookup) (time : Binary64)
    (outcome : Except Fault (List Address)) : (ofOutcome lookup time outcome).call? = none := by
  cases outcome <;> rfl

namespace Traffic

variable {limits : ResolverLimits} {t : Traffic} {w : Waiting}

/-- The numbers of the calls that have ended. -/
def endedCalls (history : List Event) : List Nat :=
  (history.filterMap Event.call?).map fun call => call.number

theorem endedCalls_append (history events : List Event) :
    endedCalls (history ++ events) = endedCalls history ++ endedCalls events := by
  simp [endedCalls]

@[simp] theorem endedCalls_nil : endedCalls [] = [] := rfl

@[simp] theorem endedCalls_cons (e : Event) (events : List Event) : endedCalls (e :: events) =
    (e.call?.map fun call => call.number).toList ++ endedCalls events := by
  unfold endedCalls
  rcases hcall : e.call? with _ | call
  · rw [List.filterMap_cons_none hcall]
    rfl
  · rw [List.filterMap_cons_some hcall]
    rfl

theorem endedCalls_handOver (outcome : Except Fault (List Address)) (time : Binary64)
    (ws : List Waiting) : endedCalls (ws.map (handOver limits outcome time)) =
      ws.map fun w => w.call.number := by
  induction ws with
  | nil => rfl
  | cons w ws ih => simp [ih, handOver]

/-- Every call waits or has ended, and does so once. -/
def Accounted (t : Traffic) : Prop :=
  (t.waiting.map (fun w => w.call.number) ++ endedCalls t.history).Perm (List.range t.calls)

namespace Accounted

theorem nodup (h : Accounted t) :
    (t.waiting.map (fun w => w.call.number) ++ endedCalls t.history).Nodup :=
  h.nodup_iff.2 List.nodup_range

theorem apart (h : Accounted t) : (t.waiting.map fun w => w.call.number).Nodup :=
  (List.nodup_append.1 h.nodup).1

theorem not_ended (h : Accounted t) (hw : w ∈ t.waiting) :
    w.call.number ∉ endedCalls t.history := fun hended =>
  (List.nodup_append.1 h.nodup).2.2 _ (List.mem_map_of_mem hw) _ hended rfl

theorem lt_of_waiting (h : Accounted t) (hw : w ∈ t.waiting) : w.call.number < t.calls :=
  List.mem_range.1 (h.subset (List.mem_append_left _ (List.mem_map_of_mem hw)))

theorem begin (h : Accounted t) (host : String) (filter : FamilyFilter) :
    Accounted (t.begin limits host filter) := by
  -- the call has the next number, whether it ends at once or waits
  have hnext := h.append_right [t.calls]
  rw [← List.range_succ] at hnext
  unfold Accounted
  rcases begin_cases limits host filter t with ⟨-, result, heq⟩ |
    ⟨-, ⟨lookup, -, heq⟩ | ⟨lookup, -, -, heq⟩⟩ <;>
    rw [heq] <;> simp only [endedCalls_append, List.map_append, List.append_assoc] at hnext ⊢
  · simpa using hnext
  · exact (List.perm_append_comm.append_left _).trans (by simpa [Event.call?] using hnext)
  · exact (List.perm_append_comm.append_left _).trans (by simpa [Event.call?] using hnext)

/-- Some of the calls that wait end. -/
theorem ending (h : Accounted t) {t' : Traffic} {events : List Event} (p : Waiting → Bool)
    (hcalls : t'.calls = t.calls) (hwaiting : t'.waiting = t.waiting.filter fun w => !p w)
    (hhistory : t'.history = t.history ++ events)
    (hended : endedCalls events = (t.waiting.filter p).map fun w => w.call.number) :
    Accounted t' := by
  have hsplit := (List.filter_append_perm p t.waiting).map fun w => w.call.number
  rw [List.map_append] at hsplit
  unfold Accounted
  rw [hcalls, hwaiting, hhistory, endedCalls_append, hended, ← List.append_assoc]
  refine List.perm_append_comm.trans ?_
  rw [← List.append_assoc]
  exact (hsplit.append_right _).trans h

theorem complete (h : Accounted t) (key : String) (reply : Reply) :
    Accounted (t.complete limits key reply) := by
  rcases complete_cases limits key reply t with ⟨-, heq⟩ | ⟨lookup, -, heq⟩
  · rw [heq]
    exact h
  · rw [heq]
    refine h.ending (fun w => w.lookup == lookup) rfl rfl rfl ?_
    rw [endedCalls_cons, Event.call?_ofOutcome, endedCalls_handOver]
    rfl

theorem giveUp (h : Accounted t) (number : Nat) : Accounted (t.giveUp limits number) := by
  rcases giveUp_cases limits number t with heq | ⟨w, hw, rfl, -, heq⟩
  · rw [heq]
    exact h
  · have hmem : w.call.number ∈ t.waiting.map fun w => w.call.number := List.mem_map_of_mem hw
    have hone : (t.waiting.filter fun w' => w'.call.number == w.call.number).map
        (fun w => w.call.number) = [w.call.number] := by
      have hfilter := List.filter_beq (l := t.waiting.map fun w => w.call.number) w.call.number
      rw [List.count_eq_one_of_mem h.apart hmem, List.filter_map] at hfilter
      exact hfilter
    rw [heq]
    refine h.ending (fun w' => w'.call.number == w.call.number) rfl rfl rfl ?_
    exact hone.symm

end Accounted

theorem accounted_step (h : Accounted t) (s : Step) : Accounted (t.step limits s) := by
  cases s with
  | resolve host filter =>
    rw [step]
    exact h.begin host filter
  | complete key reply => exact h.complete key reply
  | giveUp number => exact h.giveUp number
  | advance now =>
    rcases advance_cases now t with heq | ⟨-, heq⟩ <;> rw [step, heq] <;> exact h
  | close =>
    have hended : endedCalls (t.history ++ [.closed]) = endedCalls t.history := by
      rw [endedCalls_append]
      exact List.append_nil _
    show (t.waiting.map (fun w => w.call.number) ++ endedCalls (t.history ++ [.closed])).Perm _
    rw [hended]
    exact h

theorem accounted_run (steps : List Step) (h : Accounted t) : Accounted (t.run limits steps) :=
  run_induction (p := Accounted) (fun _ s h => accounted_step h s) steps h

/-! ## Waiting -/

/-- The look-up has ended, or the deadline has come. -/
def Over (w : Waiting) (t : Traffic) : Prop :=
  w.lookup ∈ endedIn t.history ∨ w.deadline.le t.resolver.now = true

/-- What is over stays over while the record grows and the clock does not go back. -/
theorem Over.mono (h : Over w t) {t' : Traffic} (hhistory : t.history <+: t'.history)
    (hnow : t'.resolver.now = t.resolver.now ∨ t.resolver.now.le t'.resolver.now = true) :
    Over w t' := by
  rcases h with hended | htime
  · obtain ⟨events, heq⟩ := hhistory
    refine Or.inl ?_
    rw [← heq, endedIn_append]
    exact List.mem_append_left _ hended
  · rcases hnow with hnow | hnow
    · exact Or.inr (by rwa [hnow])
    · exact Or.inr (Binary64.le_trans htime hnow)

/-- What has happened stays recorded, and the clock does not go back. -/
theorem step_forward (limits : ResolverLimits) (t : Traffic) (s : Step) :
    t.history <+: (t.step limits s).history ∧
      ((t.step limits s).resolver.now = t.resolver.now ∨
        t.resolver.now.le (t.step limits s).resolver.now = true) := by
  cases s with
  | resolve host filter =>
    rcases begin_cases limits host filter t with ⟨-, result, heq⟩ |
      ⟨-, ⟨lookup, -, heq⟩ | ⟨lookup, -, -, heq⟩⟩ <;> rw [step, heq] <;>
      exact ⟨List.prefix_append _ _, Or.inl rfl⟩
  | complete key reply =>
    rcases complete_cases limits key reply t with ⟨-, heq⟩ | ⟨lookup, -, heq⟩ <;> rw [step, heq]
    · exact ⟨List.prefix_refl _, Or.inl rfl⟩
    · exact ⟨List.prefix_append _ _, Or.inl (finish_now _)⟩
  | giveUp number =>
    rcases giveUp_cases limits number t with heq | ⟨w, -, -, -, heq⟩ <;> rw [step, heq]
    · exact ⟨List.prefix_refl _, Or.inl rfl⟩
    · exact ⟨List.prefix_append _ _, Or.inl rfl⟩
  | advance now =>
    rcases advance_cases now t with heq | ⟨hle, heq⟩ <;> rw [step, heq]
    · exact ⟨List.prefix_refl _, Or.inl rfl⟩
    · exact ⟨List.prefix_refl _, Or.inr hle⟩
  | close => exact ⟨List.prefix_append _ _, Or.inl rfl⟩

theorem waits_step (h : Accounted t) (hw : w ∈ t.waiting) (s : Step) :
    w ∈ (t.step limits s).waiting ∨ Over w (t.step limits s) := by
  cases s with
  | resolve host filter =>
    left
    rcases begin_cases limits host filter t with ⟨-, result, heq⟩ |
      ⟨-, ⟨lookup, -, heq⟩ | ⟨lookup, -, -, heq⟩⟩ <;> rw [step, heq]
    · exact hw
    · exact List.mem_append_left _ hw
    · exact List.mem_append_left _ hw
  | complete key reply =>
    rcases complete_cases limits key reply t with ⟨-, heq⟩ | ⟨lookup, -, heq⟩ <;> rw [step, heq]
    · exact Or.inl hw
    · by_cases hlookup : w.lookup = lookup
      · refine Or.inr (Or.inl ?_)
        rw [endedIn_append, endedIn_ofOutcome_cons ofCalls_handOver]
        exact List.mem_append_right _ (List.mem_singleton.2 hlookup)
      · exact Or.inl (List.mem_filter.2 ⟨hw, by simpa using hlookup⟩)
  | giveUp number =>
    rcases giveUp_cases limits number t with heq | ⟨w', hw', hnumber', htime, heq⟩ <;>
      rw [step, heq]
    · exact Or.inl hw
    · by_cases hnumber : w.call.number = number
      · -- no other call has this number, so it is this one whose deadline has come
        obtain rfl : w = w' :=
          List.inj_on_of_nodup_map h.apart hw hw' (hnumber.trans hnumber'.symm)
        exact Or.inr (Or.inr htime)
      · exact Or.inl (List.mem_filter.2 ⟨hw, by simpa using hnumber⟩)
  | advance now =>
    rcases advance_cases now t with heq | ⟨-, heq⟩ <;> rw [step, heq] <;> exact Or.inl hw
  | close => exact Or.inl hw

theorem waits_run (h : Accounted t) (hw : w ∈ t.waiting ∨ Over w t) (steps : List Step) :
    w ∈ (t.run limits steps).waiting ∨ Over w (t.run limits steps) := by
  let p : Traffic → Prop := fun t => Accounted t ∧ (w ∈ t.waiting ∨ Over w t)
  have hstep : ∀ t s, p t → p (t.step limits s) := by
    rintro t s ⟨h, hw | hover⟩
    · exact ⟨accounted_step h s, waits_step h hw s⟩
    · obtain ⟨hhistory, hnow⟩ := step_forward limits t s
      exact ⟨accounted_step h s, Or.inr (hover.mono hhistory hnow)⟩
  exact (run_induction hstep steps ⟨h, hw⟩).2

/-- The end of a look-up is told to every call that waits for it. -/
theorem complete_tells (h : Flights limits t) (hw : w ∈ t.waiting)
    (hrunning : w.lookup ∈ runningIn t.history) (reply : Reply) :
    ∃ events, (t.complete limits (keyOf w.lookup.name) reply).history = t.history ++
        .ofOutcome w.lookup t.resolver.now (outcomeOf reply) :: events ∧
      handOver limits (outcomeOf reply) t.resolver.now w ∈ events := by
  rw [complete_of_some limits reply (h.lookup_eq_some_iff.2 ⟨hrunning, rfl⟩)]
  exact ⟨_, rfl, List.mem_map_of_mem (List.mem_filter.2 ⟨hw, by simp⟩)⟩

end Traffic

end PacScript.Resolver
