import PacScript.Proofs.Resolver.Deadlines
import PacScript.Proofs.Resolver.Uncached

/-!
# Look-ups apart

Where answers are not kept, a call depends on no look-up but that of its own key. Without some other
look-ups, and without the calls that wait for them, every step does to the calls that are left what
it does with them (`Apart`, `apart_step`), while the clock goes in the same way (`paced`). So a call
is not affected by look-ups for other names (`Unaffected`), and it is over by its deadline whatever
they do (`Punctual`).
-/

namespace PacScript.Resolver

/-- What there is to say of a call that waits, but for the number of its look-up. -/
def Waiting.outline (w : Waiting) : Call × Binary64 := (w.call, w.deadline)

namespace Traffic

variable {limits : ResolverLimits} {t t' : Traffic} {w : Waiting} {lookup : Lookup} {key : String}
  {lost : List Nat}

/-- The state without the pending look-ups of some keys and without the calls that wait for them. -/
def without (gone : String → Bool) (t : Traffic) : Traffic :=
  { t with
    resolver := { t.resolver with pending := t.resolver.pending.filter fun e => !gone e.1 }
    waiting := t.waiting.filter fun w => !gone (keyOf w.lookup.name) }

theorem lookup_without (gone : String → Bool) (t : Traffic) (key : String) :
    (t.without gone).resolver.pending.lookup key =
      if !gone key then t.resolver.pending.lookup key else none :=
  lookup_filter (!gone ·) key

/-- The step with the clock as it goes from a state. -/
def pacedStep (t : Traffic) : Step → Step
  | .advance now => .advance (t.advance now).resolver.now
  | s => s

/-- The steps with the clock as it goes from a state. -/
def paced (limits : ResolverLimits) : Traffic → List Step → List Step
  | _, [] => []
  | t, s :: steps => pacedStep t s :: paced limits (t.step limits s) steps

theorem keyed_without (h : Keyed t) (gone : String → Bool) : Keyed (t.without gone) := by
  refine ⟨fun key lookup hl => ?_, fun w hw => ?_⟩
  · rw [lookup_without] at hl
    split at hl
    · exact h.pending key lookup hl
    · cases hl
  · obtain ⟨hw, hkept⟩ := List.mem_filter.1 hw
    rw [h.pending _ _ (h.waiting w hw)] at hkept
    rw [lookup_without, if_pos hkept]
    exact h.waiting w hw

/-! ## Two runs -/

/-- The ends of the calls that are not lost. -/
def endsBut (lost : List Nat) (history : List Event) : List Event :=
  history.filter fun e => e.call?.any fun call => decide (call.number ∉ lost)

theorem endsBut_append (lost : List Nat) (history events : List Event) :
    endsBut lost (history ++ events) = endsBut lost history ++ endsBut lost events :=
  List.filter_append _ _

theorem endsBut_of_none {events : List Event} (h : ∀ e ∈ events, e.call? = none) :
    endsBut lost events = [] :=
  List.filter_eq_nil_iff.2 fun e he => by simp [h e he]

theorem endsBut_handOver (outcome : Except Fault (List Address)) (time : Binary64)
    (ws : List Waiting) : endsBut lost (ws.map (handOver limits outcome time)) =
      (ws.filter fun w => decide (w.call.number ∉ lost)).map (handOver limits outcome time) := by
  rw [endsBut, List.filter_map]
  congr 1
  exact List.filter_congr fun w _ => by simp [handOver]

/-- What a call is told depends on the call only. -/
theorem map_handOver_congr {ws ws' : List Waiting}
    (h : ws.map Waiting.outline = ws'.map Waiting.outline) (outcome : Except Fault (List Address))
    (time : Binary64) :
    ws.map (handOver limits outcome time) = ws'.map (handOver limits outcome time) := by
  let told (o : Call × Binary64) : Event :=
    .ofResult o.1 time (received limits o.1.host o.1.filter outcome)
  have hmap := congrArg (List.map told) h
  rwa [List.map_map, List.map_map] at hmap

/-- When a look-up ends, the calls for its key do. -/
theorem Keyed.complete_eq (limits : ResolverLimits) (h : Keyed t) (lost : List Nat) (key : String)
    (reply : Reply) :
    ∃ resolver events, t.complete limits key reply = ⟨resolver, t.calls,
        t.waiting.filter fun w => !(keyOf (nameOf w.call.host) == key), t.history ++ events⟩ ∧
      resolver.now = t.resolver.now ∧
      (∀ k, resolver.pending.lookup k = none ↔ k = key ∨ t.resolver.pending.lookup k = none) ∧
      endsBut lost events = endsBut lost
        ((t.waiting.filter fun w : Waiting => keyOf (nameOf w.call.host) == key).map
          (handOver limits (outcomeOf reply) t.resolver.now)) := by
  rcases complete_cases limits key reply t with ⟨hnone, heq⟩ | ⟨lookup, hl, heq⟩
  · have hother : ∀ w ∈ t.waiting, keyOf (nameOf w.call.host) ≠ key := by
      rintro w hw rfl
      rw [h.waiting w hw] at hnone
      cases hnone
    have hall : (t.waiting.filter fun w => !(keyOf (nameOf w.call.host) == key)) = t.waiting :=
      List.filter_eq_self.2 fun w hw => by simpa using hother w hw
    have hno : (t.waiting.filter fun w => keyOf (nameOf w.call.host) == key) = [] :=
      List.filter_eq_nil_iff.2 fun w hw => by simpa using hother w hw
    refine ⟨t.resolver, [], ?_, rfl, fun k => ?_, by rw [hno]; rfl⟩
    · rw [heq, hall, List.append_nil]
    · constructor
      · exact Or.inr
      · rintro (rfl | hk)
        · exact hnone
        · exact hk
  · have hserved (w : Waiting) (hw : w ∈ t.waiting) :
        (w.lookup == lookup) = (keyOf (nameOf w.call.host) == key) := by
      rw [Bool.eq_iff_iff, beq_iff_eq, beq_iff_eq]
      exact h.lookup_eq_iff hw hl
    have hkept : (t.waiting.filter fun w => w.lookup != lookup) =
        t.waiting.filter fun w => !(keyOf (nameOf w.call.host) == key) :=
      List.filter_congr fun w hw => congrArg (!·) (hserved w hw)
    rw [hkept] at heq
    refine ⟨_, _, heq, finish_now _, fun k => ?_, ?_⟩
    · rw [finish_pending, lookup_filter (· != key)]
      by_cases hk : k = key <;> simp [hk]
    · rw [List.filter_congr hserved, ← List.singleton_append, endsBut_append,
        endsBut_of_none (by simp)]
      rfl

/-- Two states differ in calls that one has lost and in look-ups that it does not know of. -/
structure Apart (lost : List Nat) (t t' : Traffic) : Prop where
  now : t'.resolver.now = t.resolver.now
  calls : t'.calls = t.calls
  begun : ∀ n ∈ lost, n < t.calls
  pending : ∀ key, t.resolver.pending.lookup key = none → t'.resolver.pending.lookup key = none
  waiting : t'.waiting.map Waiting.outline =
    (t.waiting.filter fun w => decide (w.call.number ∉ lost)).map Waiting.outline
  ended : endsBut lost t'.history = endsBut lost t.history

namespace Apart

theorem exists_waiting (h : Apart lost t t') (hw : w ∈ t'.waiting) :
    ∃ w' ∈ t.waiting, w'.outline = w.outline ∧ w.call.number ∉ lost := by
  have hmem := List.mem_map_of_mem (f := Waiting.outline) hw
  rw [h.waiting, List.mem_map] at hmem
  obtain ⟨w', hw', heq⟩ := hmem
  obtain ⟨hw', hkept⟩ := List.mem_filter.1 hw'
  have hcall : w'.call = w.call := congrArg Prod.fst heq
  exact ⟨w', hw', heq, hcall ▸ of_decide_eq_true hkept⟩

/-- Calls of a class are the same ones in both states. -/
theorem filter_outline (h : Apart lost t t') (p : Call × Binary64 → Bool) :
    (t'.waiting.filter fun w => p w.outline).map Waiting.outline =
      ((t.waiting.filter fun w => p w.outline).filter
        fun w => decide (w.call.number ∉ lost)).map Waiting.outline := by
  have hfilter := congrArg (List.filter p) h.waiting
  rw [List.filter_map, List.filter_map, List.filter_comm] at hfilter
  exact hfilter

/-- The first call of a class is the same in both states, unless lost calls are of the class. -/
theorem find?_outline (h : Apart lost t t') (p : Call × Binary64 → Bool)
    (hp : ∀ o, p o = true → o.1.number ∉ lost) :
    (t'.waiting.find? fun w => p w.outline).map Waiting.outline =
      (t.waiting.find? fun w => p w.outline).map Waiting.outline := by
  have hfind := congrArg (List.find? p) h.waiting
  rw [List.find?_map, List.find?_map, List.find?_filter] at hfind
  have hkept : (fun w : Waiting => decide (decide (w.call.number ∉ lost) = true ∧
      (p ∘ Waiting.outline) w = true)) = p ∘ Waiting.outline := by
    funext w
    rw [Bool.eq_iff_iff, decide_eq_true_eq, decide_eq_true_eq]
    exact ⟨And.right, fun hw => ⟨hp _ hw, hw⟩⟩
  rwa [hkept] at hfind

/-- The same calls end in both states, apart from those that are lost. -/
theorem ending (h : Apart lost t t') (p : Call → Bool) {r r' : Resolver}
    {events events' : List Event} (hnow : r'.now = r.now)
    (hpending : ∀ key, r.pending.lookup key = none → r'.pending.lookup key = none)
    (hended : endsBut lost events' = endsBut lost events) :
    Apart lost ⟨r, t.calls, t.waiting.filter fun w => !p w.call, t.history ++ events⟩
      ⟨r', t'.calls, t'.waiting.filter fun w => !p w.call, t'.history ++ events'⟩ where
  now := hnow
  calls := h.calls
  begun := h.begun
  pending := hpending
  waiting := h.filter_outline fun o => !p o.1
  ended := by rw [endsBut_append, endsBut_append, h.ended, hended]

theorem complete (h : Apart lost t t') (hkeyed : Keyed t) (hkeyed' : Keyed t') (key : String)
    (reply : Reply) : Apart lost (t.complete limits key reply) (t'.complete limits key reply) := by
  obtain ⟨r, events, heq, hnow, hpending, hended⟩ :=
    hkeyed.complete_eq limits lost key reply
  obtain ⟨r', events', heq', hnow', hpending', hended'⟩ :=
    hkeyed'.complete_eq limits lost key reply
  rw [heq, heq']
  refine h.ending (fun call => keyOf (nameOf call.host) == key) ?_ (fun k => ?_) ?_
  · rw [hnow, hnow', h.now]
  · rw [hpending, hpending']
    exact Or.imp_right (h.pending k)
  · -- none of the calls that the other state knows of is lost
    have hserved := h.filter_outline fun o => keyOf (nameOf o.1.host) == key
    have hkept : ((t'.waiting.filter fun w => keyOf (nameOf w.call.host) == key).filter
        fun w => decide (w.call.number ∉ lost)) =
          t'.waiting.filter fun w => keyOf (nameOf w.call.host) == key := by
      refine List.filter_eq_self.2 fun w hw => decide_eq_true ?_
      obtain ⟨-, -, -, hnot⟩ := h.exists_waiting (List.mem_filter.1 hw).1
      exact hnot
    rw [hended, hended', endsBut_handOver, endsBut_handOver, hkept, h.now]
    exact map_handOver_congr hserved _ _

theorem giveUp (h : Apart lost t t') (number : Nat) :
    Apart lost (t.giveUp limits number) (t'.giveUp limits number) := by
  by_cases hlost : number ∈ lost
  · have hnone : t'.giveUp limits number = t' := by
      refine giveUp_of_none (List.find?_eq_none.2 fun w hw hfound => ?_)
      obtain ⟨-, -, -, hnot⟩ := h.exists_waiting hw
      rw [Bool.and_eq_true, beq_iff_eq] at hfound
      rw [hfound.1] at hnot
      exact hnot hlost
    rw [hnone]
    rcases giveUp_cases limits number t with heq | ⟨w, -, rfl, -, heq⟩ <;> rw [heq]
    · exact h
    · refine ⟨h.now, h.calls, h.begun, h.pending, ?_, ?_⟩
      · rw [h.waiting, List.filter_filter]
        refine congrArg _ (List.filter_congr fun w' _ => ?_)
        rw [Bool.eq_iff_iff]
        simp only [Bool.and_eq_true, decide_eq_true_eq, bne_iff_ne, ne_eq]
        exact ⟨fun hnot => ⟨hnot, fun heq => hnot (heq ▸ hlost)⟩, And.left⟩
      · rw [endsBut_append, h.ended]
        simp [endsBut, Event.call?, hlost]
  · have hfind : (t'.waiting.find? fun w => w.call.number == number &&
          w.deadline.le t'.resolver.now).map Waiting.outline =
        (t.waiting.find? fun w => w.call.number == number &&
          w.deadline.le t.resolver.now).map Waiting.outline := by
      rw [h.now]
      refine h.find?_outline (fun o => o.1.number == number && o.2.le t.resolver.now) fun o ho => ?_
      rw [Bool.and_eq_true, beq_iff_eq] at ho
      rwa [ho.1]
    rcases hw : t.waiting.find? (fun w => w.call.number == number &&
        w.deadline.le t.resolver.now) with _ | w <;>
      rcases hw' : t'.waiting.find? (fun w => w.call.number == number &&
        w.deadline.le t'.resolver.now) with _ | w' <;> rw [hw, hw'] at hfind
    · rw [giveUp_of_none hw, giveUp_of_none hw']
      exact h
    · cases hfind
    · cases hfind
    · have hcall : w'.call = w.call := congrArg Prod.fst (Option.some.inj hfind)
      rw [giveUp_of_some hw, giveUp_of_some hw', hcall, h.now]
      exact h.ending (fun call => call.number == number) h.now h.pending rfl

theorem advance (h : Apart lost t t') (now : Binary64) :
    Apart lost (t.advance now) (t'.advance (t.advance now).resolver.now) := by
  unfold Traffic.advance
  by_cases hguard : (t.resolver.now.le now && t.waiting.all fun w => !w.deadline.lt now) = true
  · have hguard' :
        (t'.resolver.now.le now && t'.waiting.all fun w => !w.deadline.lt now) = true := by
      rw [Bool.and_eq_true, List.all_eq_true] at hguard ⊢
      refine ⟨by rw [h.now]; exact hguard.1, fun w hw => ?_⟩
      obtain ⟨w', hw', heq, -⟩ := h.exists_waiting hw
      have hdeadline : w'.deadline = w.deadline := congrArg Prod.snd heq
      rw [← hdeadline]
      exact hguard.2 w' hw'
    rw [if_pos hguard, if_pos hguard']
    exact ⟨rfl, h.calls, h.begun, h.pending, h.waiting, h.ended⟩
  · -- the clock stands still, and setting it to what it shows changes nothing
    rw [if_neg hguard]
    split
    · exact ⟨rfl, h.calls, h.begun, h.pending, h.waiting, h.ended⟩
    · exact h

theorem begin (h : Apart lost t t') (httl : limits.ttl.le Binary64.zero = true) (host : String)
    (filter : FamilyFilter) :
    Apart lost (t.begin limits host filter) (t'.begin limits host filter) := by
  have hnew : t.calls ∉ lost := fun hmem => Nat.lt_irrefl _ (h.begun _ hmem)
  have hbegun : ∀ n ∈ lost, n < t.calls + 1 := fun n hn => Nat.lt_succ_of_lt (h.begun n hn)
  have hcalls : t'.calls + 1 = t.calls + 1 := congrArg (· + 1) h.calls
  rcases begin_uncached httl host filter with ⟨result, heq⟩ | heq
  · rw [heq t, heq t']
    refine ⟨h.now, hcalls, hbegun, h.pending, h.waiting, ?_⟩
    rw [endsBut_append, endsBut_append, h.ended, h.calls, h.now]
  · obtain ⟨r', lookup', events', heq', hnow', hevents', hpending'⟩ := heq t'
    obtain ⟨r, lookup, events, heq, hnow, hevents, hpending⟩ := heq t
    rw [heq, heq']
    refine ⟨?_, hcalls, hbegun, fun k => ?_, ?_, ?_⟩
    · rw [hnow, hnow', h.now]
    · rw [hpending, hpending']
      exact And.imp_right (h.pending k)
    · simp [h.waiting, h.calls, h.now, hnew, Waiting.outline]
    · rw [endsBut_append, endsBut_append, h.ended, endsBut_of_none hevents,
        endsBut_of_none hevents']

end Apart

theorem apart_step (httl : limits.ttl.le Binary64.zero = true) (hkeyed : Keyed t)
    (hkeyed' : Keyed t') (h : Apart lost t t') (s : Step) :
    Apart lost (t.step limits s) (t'.step limits (pacedStep t s)) := by
  cases s with
  | resolve host filter => exact h.begin httl host filter
  | complete key reply => exact h.complete hkeyed hkeyed' key reply
  | giveUp number => exact h.giveUp number
  | advance now => exact h.advance now
  | close =>
    refine ⟨h.now, h.calls, h.begun, h.pending, h.waiting, ?_⟩
    show endsBut lost (t'.history ++ [.closed]) = endsBut lost (t.history ++ [.closed])
    rw [endsBut_append, endsBut_append, h.ended]

theorem apart_run (httl : limits.ttl.le Binary64.zero = true) (hkeyed : Keyed t)
    (hkeyed' : Keyed t') (h : Apart lost t t') (steps : List Step) :
    Apart lost (t.run limits steps) (t'.run limits (paced limits t steps)) := by
  induction steps generalizing t t' with
  | nil => exact h
  | cons s steps ih =>
    exact ih (keyed_step hkeyed s) (keyed_step hkeyed' _) (apart_step httl hkeyed hkeyed' h s)

/-- The numbers of the calls that wait for look-ups of some keys. -/
def lostCalls (gone : String → Bool) (t : Traffic) : List Nat :=
  (t.waiting.filter fun w => gone (keyOf w.lookup.name)).map fun w => w.call.number

theorem apart_without (haccounted : Accounted t) (gone : String → Bool) :
    Apart (lostCalls gone t) t (t.without gone) := by
  have hlost (w : Waiting) (hw : w ∈ t.waiting) :
      w.call.number ∈ lostCalls gone t ↔ gone (keyOf w.lookup.name) = true := by
    rw [lostCalls, List.mem_map]
    constructor
    · rintro ⟨w', hw', hnumber⟩
      obtain ⟨hw', hgone⟩ := List.mem_filter.1 hw'
      -- no two calls have one number
      obtain rfl := List.inj_on_of_nodup_map haccounted.apart hw' hw hnumber
      exact hgone
    · exact fun hgone => ⟨w, List.mem_filter.2 ⟨hw, hgone⟩, rfl⟩
  refine ⟨rfl, rfl, fun n hn => ?_, fun key hnone => ?_, ?_, rfl⟩
  · obtain ⟨w, hw, rfl⟩ := List.mem_map.1 hn
    exact haccounted.lt_of_waiting (List.mem_filter.1 hw).1
  · rw [lookup_without, hnone, ite_self]
  · refine congrArg _ (List.filter_congr fun w hw => ?_)
    rw [Bool.eq_iff_iff, decide_eq_true_eq, hlost w hw, Bool.not_eq_true', Bool.not_eq_true]

theorem mem_endsBut_iff {call : Call} {time : Binary64} {result : Except Fault (List Address)}
    {history : List Event} (h : call.number ∉ lost) :
    .ofResult call time result ∈ endsBut lost history ↔
      .ofResult call time result ∈ history := by
  rw [endsBut, List.mem_filter]
  simp [h]

/-! ## Calls for other names -/

/-- A call that begins now comes to the same without the look-ups of some keys. -/
structure Unaffected (limits : ResolverLimits) (host : String) (filter : FamilyFilter)
    (gone : String → Bool) (t : Traffic) : Prop where
  /-- Alone it has the same result, after the same time. -/
  alone : ((resolve limits host filter).run.run (t.without gone).resolver).1 =
      ((resolve limits host filter).run.run t.resolver).1 ∧
    ((resolve limits host filter).run.run (t.without gone).resolver).2.now =
      ((resolve limits host filter).run.run t.resolver).2.now
  /-- Whatever happens during it, it ends with the same result at the same time, or in neither case
  at all. -/
  among : ∀ steps time result,
    .ofResult ⟨t.calls, host, filter⟩ time result ∈
        ((t.without gone).run limits (paced limits t (.resolve host filter :: steps))).history ↔
      .ofResult ⟨t.calls, host, filter⟩ time result ∈
        (t.run limits (.resolve host filter :: steps)).history

/-- A call that begins now is over by its deadline, which is the present if it cannot wait. -/
structure Punctual (limits : ResolverLimits) (host : String) (filter : FamilyFilter)
    (t : Traffic) : Prop where
  /-- Alone it is over by its deadline. -/
  alone : ((resolve limits host filter).run.run t.resolver).2.now.le
    (limits.deadline t.resolver.now) = true
  /-- If it has ended, then by its deadline. -/
  ended : ∀ steps time result, .ofResult ⟨t.calls, host, filter⟩ time result ∈
      (t.run limits (.resolve host filter :: steps)).history →
    time.le (limits.deadline t.resolver.now) = true
  /-- It has ended, or its deadline has not passed. -/
  waits : ∀ steps, (∃ time result, .ofResult ⟨t.calls, host, filter⟩ time result ∈
      (t.run limits (.resolve host filter :: steps)).history) ∨
    (t.run limits (.resolve host filter :: steps)).resolver.now.le
      (limits.deadline t.resolver.now) = true
  /-- It can always end while time passes and calls give up, even if no look-up ever ends. -/
  ends : ∀ steps, ∃ more : List Step, more.all Step.ofPatience = true ∧
    ∃ time result, .ofResult ⟨t.calls, host, filter⟩ time result ∈
      (t.run limits (.resolve host filter :: steps ++ more)).history

section Reachable

variable (hkeyed : Keyed t) (haccounted : Accounted t)

include haccounted

include hkeyed in
theorem unaffected_of_keyed (httl : limits.ttl.le Binary64.zero = true) {gone : String → Bool}
    {host : String} (hgone : gone (keyOf (nameOf host)) = false) (filter : FamilyFilter) :
    Unaffected limits host filter gone t := by
  have hpending : (t.without gone).resolver.pending.lookup (keyOf (nameOf host)) =
      t.resolver.pending.lookup (keyOf (nameOf host)) := by
    rw [lookup_without, hgone]
    rfl
  have hapart := apart_without haccounted gone
  have hkept : t.calls ∉ lostCalls gone t := fun hmem => Nat.lt_irrefl _ (hapart.begun _ hmem)
  refine ⟨@resolve_congr limits host filter t.resolver (t.without gone).resolver httl rfl rfl rfl
    hpending, fun steps time result => ?_⟩
  have hafter := apart_run httl hkeyed (keyed_without hkeyed gone) hapart
    (.resolve host filter :: steps)
  have hmem (history : List Event) := @mem_endsBut_iff (lostCalls gone t) ⟨t.calls, host, filter⟩
    time result history hkept
  rw [← hmem, hafter.ended, hmem]

theorem punctual_of_onTime (hontime : OnTime limits t) (host : String) (filter : FamilyFilter) :
    Punctual limits host filter t := by
  have hdue (steps : List Step) : Due ⟨t.calls, host, filter⟩ (limits.deadline t.resolver.now)
      (t.run limits (.resolve host filter :: steps)) :=
    due_run (onTime_step hontime _) (due_begin hontime haccounted host filter) steps
  have hlater (steps : List Step) := onTime_run hontime steps
  have haccounted' (steps : List Step) : Accounted (t.run limits steps) :=
    accounted_run steps haccounted
  refine ⟨?_, fun steps time result hmem => ?_, fun steps => ?_, fun steps => ?_⟩
  · rcases resolve_now limits host filter t.resolver with hnow | hnow <;> rw [hnow]
    · exact ResolverLimits.le_deadline hontime.next
    · exact Binary64.le_self hontime.next
  · exact ((hdue steps).ended _ _ _ hmem rfl).2
  · rcases (hdue steps).waits_or_ended (haccounted' _) with ⟨w, hw, -, hdeadline⟩ | hended
    · have htime := (hlater _).waiting w hw
      rw [hdeadline] at htime
      exact Or.inr htime
    · exact Or.inl hended
  · obtain ⟨more, hpatience, hnone⟩ :=
      exists_patience (hlater (.resolve host filter :: steps))
    refine ⟨more, hpatience, ?_⟩
    rcases (hdue (steps ++ more)).waits_or_ended (haccounted' _) with ⟨w, hw, -⟩ | hended
    · rw [← List.cons_append, run_append, hnone] at hw
      cases hw
    · exact hended

end Reachable

/-- At every moment of a resolver, whatever its clock showed at first: where answers are not kept, a
call is not affected by look-ups for other names; and whether they are kept or not, it is
punctual. -/
theorem lookups_do_not_interfere (limits : ResolverLimits) (s : Surroundings) (start : Binary64)
    (steps : List Step) (host : String) (filter : FamilyFilter) :
    (limits.ttl.le Binary64.zero = true →
      ∀ gone : String → Bool, gone (keyOf (nameOf host)) = false →
        Unaffected limits host filter gone ((startingAt s start).run limits steps)) ∧
    (limits.deadline start ≠ .nan →
      Punctual limits host filter ((startingAt s start).run limits steps)) := by
  have haccounted : Accounted ((startingAt s start).run limits steps) :=
    accounted_run steps (List.Perm.refl _)
  refine ⟨fun httl gone hgone => ?_, fun hnext => ?_⟩
  · have hkeyed : Keyed ((startingAt s start).run limits steps) :=
      keyed_run (keyed_startingAt s start) steps
    exact unaffected_of_keyed hkeyed haccounted httl hgone filter
  · have hstart : OnTime limits (startingAt s start) := ⟨hnext, by simp [startingAt, ofResolver]⟩
    exact punctual_of_onTime haccounted (onTime_run hstart steps) host filter

/-- The limits of `minute` without kept answers. -/
def unkept : ResolverLimits := { minute with ttl := Binary64.zero }

/-- A resolver with a look-up that hangs, after a call has given up and another has begun. -/
def hung : Traffic :=
  (startingAt ⟨[], [], [], "", []⟩ Binary64.zero).run unkept
    [.resolve "slow" .every, .advance (Binary64.ofInt 5), .giveUp 0, .resolve "slow" .every]

def answeredFast : List Step :=
  [.advance (Binary64.ofInt 7), .complete "fast" (.rows [(some .v4, "10.0.0.1")])]

/-- With and without the look-up that hangs the call gets its answer after two seconds, in time. -/
theorem lookups_do_not_interfere_hung :
    .returned ⟨2, "Fast", .every⟩ [.v4 167772161] (Binary64.ofInt 7) ∈
      ((hung.without (· == "slow")).run unkept
        (paced unkept hung (.resolve "Fast" .every :: answeredFast))).history ∧
    (Binary64.ofInt 7).le (unkept.deadline hung.resolver.now) = true := by
  obtain ⟨hunaffected, hpunctual⟩ := lookups_do_not_interfere unkept ⟨[], [], [], "", []⟩
    Binary64.zero [.resolve "slow" .every, .advance (Binary64.ofInt 5), .giveUp 0,
      .resolve "slow" .every] "Fast" .every
  have hunaffected : Unaffected unkept "Fast" .every (· == "slow") hung :=
    hunaffected (by decide +kernel) _ (by decide +kernel)
  have hpunctual : Punctual unkept "Fast" .every hung :=
    hpunctual (by decide +kernel)
  have hcalls : hung.calls = 2 := by decide +kernel
  have hshown : (hung.run unkept (.resolve "Fast" .every :: answeredFast)).history.any
      (fun e => match e with
      | .returned call found time => decide (call = ⟨2, "Fast", .every⟩ ∧
          found = [.v4 167772161] ∧ time = Binary64.ofInt 7)
      | _ => false) = true := by
    decide +kernel
  obtain ⟨e, hmem, he⟩ := List.any_eq_true.1 hshown
  cases e with
  | returned call found time =>
    simp only [decide_eq_true_eq] at he
    obtain ⟨hcall, hfound, htime⟩ := he
    rw [hcall, hfound, htime] at hmem
    have hamong := hunaffected.among answeredFast (Binary64.ofInt 7) (.ok [.v4 167772161])
    have hended := hpunctual.ended answeredFast (Binary64.ofInt 7) (.ok [.v4 167772161])
    simp only [hcalls, Event.ofResult] at hamong hended
    exact ⟨hamong.2 hmem, hended hmem⟩
  | _ => cases he

end Traffic

end PacScript.Resolver
