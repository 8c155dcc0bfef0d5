import PacScript.Proofs.Resolver.Calls

/-!
# Single flight

A key is asked for once by every call that finds neither a live answer to it nor a look-up of it
that runs (`askedFor_run`). A call that finds a look-up of its key running starts none, and if it
can wait, it goes on waiting and gets the answer or the failure if that comes in time
(`shares_of_running`). `single_flight` says both, and that there is at most one look-up of a key, of
a resolver at any moment. A call that is to wait for longer than the machine can fails at once,
whatever comes of the look-up (`calledTwice_endless`).
-/

namespace PacScript.Resolver

/-- The key has a live entry. -/
def isLive (limits : ResolverLimits) (key : String) (r : Resolver) : Bool :=
  !limits.ttl.le Binary64.zero && (r.cache.lookup key).any fun entry => !entry.expires.lt r.now

theorem isLive_iff {limits : ResolverLimits} {key : String} {r : Resolver} :
    isLive limits key r = true ↔ ∃ entry, Live limits r key entry := by
  simp [isLive, Live, Option.any_eq_true]

namespace Traffic

variable {limits : ResolverLimits} {t : Traffic}

/-! ## Calls that start a look-up -/

/-- The step is a call for a name of the key that finds neither a live answer nor a look-up of the
key that runs. A blank host and an address are no names. -/
def misses (limits : ResolverLimits) (key : String) (t : Traffic) : Step → Bool
  | .resolve host _ =>
    nameOf host != "" && (Address.parse? (nameOf host)).isNone && keyOf (nameOf host) == key &&
      !isLive limits key t.resolver && (runningIn t.history).all fun l => keyOf l.name != key
  | _ => false

/-- How many of the steps are calls that miss. -/
def countMisses (limits : ResolverLimits) (key : String) : Traffic → List Step → Nat
  | _, [] => 0
  | t, s :: steps =>
    (misses limits key t s).toNat + countMisses limits key (t.step limits s) steps

/-- How often a key was asked for. -/
def askedFor (key : String) (t : Traffic) : Nat :=
  t.resolver.queries.countP fun name => keyOf name == key

theorem misses_resolve_iff {key host : String} {filter : FamilyFilter} :
    misses limits key t (.resolve host filter) = true ↔ Asks limits host t.resolver ∧
      keyOf (nameOf host) = key ∧ ∀ l ∈ runningIn t.history, keyOf l.name ≠ key := by
  have hnone : isLive limits key t.resolver = false ↔
      ∀ entry, ¬Live limits t.resolver key entry := by
    rw [← Bool.not_eq_true, isLive_iff, not_exists]
  simp only [misses, Asks, Bool.and_eq_true, bne_iff_ne, Option.isNone_iff_eq_none, beq_iff_eq,
    Bool.not_eq_true', hnone, List.all_eq_true]
  constructor
  · rintro ⟨⟨⟨⟨hname, hparse⟩, rfl⟩, hlive⟩, hfree⟩
    exact ⟨⟨hname, hparse, hlive⟩, rfl, hfree⟩
  · rintro ⟨⟨hname, hparse, hlive⟩, rfl, hfree⟩
    exact ⟨⟨⟨⟨hname, hparse⟩, rfl⟩, hlive⟩, hfree⟩

/-- A step that is no miss and asks for nothing. -/
theorem askedFor_of_not_misses {t' : Traffic} {key : String} {s : Step}
    (hqueries : t'.resolver.queries = t.resolver.queries)
    (hmisses : ¬misses limits key t s = true) :
    askedFor key t' = askedFor key t + (misses limits key t s).toNat := by
  rw [Bool.not_eq_true] at hmisses
  rw [hmisses, askedFor, hqueries]
  rfl

theorem askedFor_begin (h : Flights limits t) (key host : String) (filter : FamilyFilter) :
    askedFor key (t.begin limits host filter) =
      askedFor key t + (misses limits key t (.resolve host filter)).toNat := by
  rcases begin_cases limits host filter t with ⟨hasks, result, heq⟩ |
    ⟨hasks, ⟨lookup, hl, heq⟩ | ⟨lookup, -, hnone, heq⟩⟩
  · refine askedFor_of_not_misses (by rw [heq]) ?_
    rw [misses_resolve_iff]
    exact fun hmisses => hasks hmisses.1
  · obtain ⟨hrunning, hkey⟩ := h.lookup_eq_some_iff.1 hl
    refine askedFor_of_not_misses (by rw [heq, missed_queries]) ?_
    rw [misses_resolve_iff]
    rintro ⟨-, rfl, hfree⟩
    exact hfree lookup hrunning hkey
  · have hfree := h.lookup_eq_none_iff.1 hnone
    have hmisses : misses limits key t (.resolve host filter) = (keyOf (nameOf host) == key) := by
      rw [Bool.eq_iff_iff, misses_resolve_iff, beq_iff_eq]
      refine ⟨fun hmisses => hmisses.2.1, ?_⟩
      rintro rfl
      exact ⟨hasks, rfl, hfree⟩
    rw [heq, hmisses]
    show (t.resolver.queries ++ [nameOf host]).countP _ = _
    rw [List.countP_append, List.countP_singleton]
    rcases keyOf (nameOf host) == key with _ | _ <;> rfl

theorem askedFor_step (h : Flights limits t) (key : String) (s : Step) :
    askedFor key (t.step limits s) = askedFor key t + (misses limits key t s).toNat := by
  cases s with
  | resolve host filter => exact askedFor_begin h key host filter
  | complete key' reply =>
    refine askedFor_of_not_misses ?_ Bool.false_ne_true
    rcases complete_cases limits key' reply t with ⟨-, heq⟩ | ⟨lookup, -, heq⟩
    · rw [step, heq]
    · rw [step, heq]
      exact finish_queries _
  | giveUp number =>
    refine askedFor_of_not_misses ?_ Bool.false_ne_true
    rcases giveUp_cases limits number t with heq | ⟨w, -, -, -, heq⟩ <;> rw [step, heq]
  | advance now =>
    refine askedFor_of_not_misses ?_ Bool.false_ne_true
    rcases advance_cases now t with heq | ⟨-, heq⟩ <;> rw [step, heq]
  | close => rfl

theorem askedFor_run (h : Flights limits t) (key : String) (steps : List Step) :
    askedFor key (t.run limits steps) = askedFor key t + countMisses limits key t steps := by
  induction steps generalizing t with
  | nil => rfl
  | cons s steps ih =>
    rw [run_cons, ih (flights_step h s), askedFor_step h, countMisses, Nat.add_assoc]

/-! ## Single flight -/

/-- A call that begins now shares the look-up: it starts none. If it can wait, then at every later
moment before its time is up, whatever has happened since, the call has not ended while the look-up
runs; and when the look-up ends then, the call gets the addresses that it asks for from the answer,
or the fault as callers see it. If it cannot wait, it can only give up. -/
def Shares (limits : ResolverLimits) (t : Traffic) (host : String) (filter : FamilyFilter)
    (lookup : Lookup) : Prop :=
  let call : Call := ⟨t.calls, host, filter⟩
  let begun := t.step limits (.resolve host filter)
  begun.resolver.queries = t.resolver.queries ∧
    begun.history = t.history ++ [.waits call lookup] ∧
    (limits.canWait = true → ∀ steps reply, let later := begun.run limits steps
      lookup ∈ runningIn later.history →
      (t.resolver.now.add limits.timeout).le later.resolver.now = false →
      call.number ∉ endedCalls later.history ∧
        ∃ events, (later.step limits (.complete (keyOf lookup.name) reply)).history =
            later.history ++ .ofOutcome lookup later.resolver.now (outcomeOf reply) :: events ∧
          match outcomeOf reply with
          | .ok found => .returned call (Address.select filter found) later.resolver.now ∈ events
          | .error fault =>
            .raised call (lookupFault limits (nameOf host) fault) later.resolver.now ∈ events) ∧
    (limits.canWait = false → t.resolver.now ≠ .nan →
      (begun.step limits (.giveUp call.number)).history = begun.history ++
        [.raised call (giveUpFault limits (nameOf host)) t.resolver.now])

/-- A call that waits for a look-up until the time comes is told when the look-up ends before. -/
theorem told_of_waiting (h : Flights limits t) (haccounted : Accounted t) {w : Waiting}
    (hw : w ∈ t.waiting) (steps : List Step) (reply : Reply)
    (hrunning : w.lookup ∈ runningIn (t.run limits steps).history)
    (htime : w.deadline.le (t.run limits steps).resolver.now = false) :
    let later := t.run limits steps
    w.call.number ∉ endedCalls later.history ∧
      ∃ events, (later.step limits (.complete (keyOf w.lookup.name) reply)).history =
          later.history ++
            .ofOutcome w.lookup later.resolver.now (outcomeOf reply) :: events ∧
        match outcomeOf reply with
        | .ok found =>
          .returned w.call (Address.select w.call.filter found) later.resolver.now ∈ events
        | .error fault =>
          .raised w.call (lookupFault limits (nameOf w.call.host) fault) later.resolver.now ∈
            events := by
  rcases waits_run haccounted (Or.inl hw) steps with hwaits | hended | hcome
  · obtain ⟨events, hhistory, htold⟩ := complete_tells (flights_run steps h) hwaits hrunning reply
    refine ⟨(accounted_run steps haccounted).not_ended hwaits, events, hhistory, ?_⟩
    rcases houtcome : outcomeOf reply with fault | found <;> rw [houtcome] at htold <;> exact htold
  · exact absurd hended (of_decide_eq_true (List.mem_filter.1 hrunning).2)
  · exact absurd (htime.symm.trans hcome) Bool.false_ne_true

/-- The call that began last gives up when its time has come. -/
theorem giveUp_last {others : List Waiting} {w : Waiting} (hwaiting : t.waiting = others ++ [w])
    (hothers : ∀ v ∈ others, v.call.number ≠ w.call.number)
    (hdue : w.deadline.le t.resolver.now = true) :
    (t.giveUp limits w.call.number).history = t.history ++
      [.raised w.call (giveUpFault limits (nameOf w.call.host)) t.resolver.now] := by
  have hnone : others.find? (fun v => v.call.number == w.call.number &&
      v.deadline.le t.resolver.now) = none :=
    List.find?_eq_none.2 fun v hv => by simp [hothers v hv]
  have hfind : t.waiting.find? (fun v => v.call.number == w.call.number &&
      v.deadline.le t.resolver.now) = some w := by
    rw [hwaiting, List.find?_append, hnone]
    simp [hdue]
  rw [giveUp_of_some hfind]

theorem shares_of_running (h : Flights limits t) (haccounted : Accounted t) {host : String}
    (hname : nameOf host ≠ "") (hparse : Address.parse? (nameOf host) = none) {lookup : Lookup}
    (hrunning : lookup ∈ runningIn t.history) (hkey : keyOf lookup.name = keyOf (nameOf host))
    (filter : FamilyFilter) : Shares limits t host filter lookup := by
  have hl := h.lookup_eq_some_iff.2 ⟨hrunning, hkey⟩
  have hasks : Asks limits host t.resolver := ⟨hname, hparse, h.not_live hrunning hkey⟩
  rcases begin_cases limits host filter t with ⟨hno, -⟩ |
    ⟨-, ⟨lookup', hl', heq⟩ | ⟨-, -, hnone, -⟩⟩
  · exact absurd hasks hno
  · obtain rfl : lookup = lookup' := Option.some.inj (hl.symm.trans hl')
    refine ⟨by rw [step, heq, missed_queries], by rw [step, heq],
      fun hwait steps reply hrunning' htime => ?_, fun hwait hnow => ?_⟩
    · have hwaits : ⟨⟨t.calls, host, filter⟩, lookup, limits.deadline t.resolver.now⟩ ∈
          (t.step limits (.resolve host filter)).waiting := by
        rw [step, heq]
        exact List.mem_append_right _ (List.mem_singleton_self _)
      refine told_of_waiting (flights_step h _) (accounted_step haccounted _) hwaits steps reply
        hrunning' ?_
      rwa [ResolverLimits.deadline_of_canWait hwait]
    · -- its deadline is the time at which it begins, and no other call has its number
      rw [step, step, heq, ResolverLimits.deadline_of_not_canWait hwait]
      exact giveUp_last (w := ⟨⟨t.calls, host, filter⟩, lookup, t.resolver.now⟩) rfl
        (fun v hv => Nat.ne_of_lt (haccounted.lt_of_waiting hv)) (Binary64.le_self hnow)
  · rw [hl] at hnone
    cases hnone

/-- A look-up that ends, by an answer or by whatever fault, is no longer pending. -/
theorem lookup_complete (limits : ResolverLimits) (key : String) (reply : Reply) (t : Traffic) :
    (t.step limits (.complete key reply)).resolver.pending.lookup key = none := by
  rcases complete_cases limits key reply t with ⟨hnone, heq⟩ | ⟨lookup, -, heq⟩
  · rw [step, heq]
    exact hnone
  · rw [step, heq, finish_pending]
    exact lookup_filter_self

/-- What single flight asks of a resolver and its record at a moment. -/
structure SingleFlight (limits : ResolverLimits) (t : Traffic) : Prop where
  /-- The names asked for are those of the look-ups that were started, which are numbered. -/
  asked : startedIn t.history = t.resolver.queries.mapIdx fun number name => ⟨number, name⟩
  /-- No two look-ups of one key run. -/
  single : ((runningIn t.history).map fun l => keyOf l.name).Nodup
  /-- The pending look-ups are those that run. -/
  pending : t.resolver.pending = (runningIn t.history).map fun l => (keyOf l.name, l)
  /-- A call for a name whose look-up runs shares it. -/
  shared : ∀ host filter, nameOf host ≠ "" → Address.parse? (nameOf host) = none →
    ∀ lookup ∈ runningIn t.history, keyOf lookup.name = keyOf (nameOf host) →
      Shares limits t host filter lookup
  /-- When a look-up ends, its key is no longer pending, and no look-up of it runs. -/
  settled : ∀ key reply, let later := t.step limits (.complete key reply)
    later.resolver.pending.lookup key = none ∧ ∀ l ∈ runningIn later.history, keyOf l.name ≠ key

/-- Whatever happens to a resolver, whatever its limits, and whatever its clock shows at first:
single flight holds at every moment, and each key has been asked for as often as a call missed. -/
theorem single_flight (limits : ResolverLimits) (s : Surroundings) (start : Binary64)
    (steps : List Step) : SingleFlight limits ((startingAt s start).run limits steps) ∧
      ∀ key, askedFor key ((startingAt s start).run limits steps) =
        countMisses limits key (startingAt s start) steps := by
  have hstart := flights_startingAt limits s start
  have h := flights_run steps hstart
  have haccounted : Accounted ((startingAt s start).run limits steps) :=
    accounted_run steps (List.Perm.refl _)
  refine ⟨⟨h.started, h.keys, h.pending, ?_, fun key reply => ?_⟩, fun key => ?_⟩
  · intro host filter hname hparse lookup hrunning hkey
    exact shares_of_running h haccounted hname hparse hrunning hkey filter
  · have hnone := lookup_complete limits key reply ((startingAt s start).run limits steps)
    exact ⟨hnone, (flights_step h _).lookup_eq_none_iff.1 hnone⟩
  · rw [askedFor_run hstart key steps]
    exact Nat.zero_add _

def twoAddresses : Reply := .rows [(some .v4, "10.0.0.1"), (some .v6, "::1")]

/-- A resolver after its first call. -/
def called : Traffic :=
  (startingAt ⟨[], [], [], "", []⟩ Binary64.zero).run minute [.resolve "Example.com" .every]

/-- Two calls share a look-up, and the second gets its address from the answer, although the
resolver has been closed in the meantime. -/
theorem single_flight_shared :
    .returned ⟨1, " EXAMPLE.com ", .only .v6⟩ [.v6 1 none] (Binary64.ofInt 3) ∈
      (called.run minute [.resolve " EXAMPLE.com " (.only .v6), .advance (Binary64.ofInt 3), .close,
        .complete "example.com" twoAddresses]).history := by
  have hflight : SingleFlight minute called := (single_flight minute _ _ _).1
  obtain ⟨-, -, hreceives, -⟩ := hflight.shared " EXAMPLE.com " (.only .v6) (by decide +kernel)
    (by decide +kernel) ⟨0, "Example.com"⟩ (by decide +kernel) (by decide +kernel)
  obtain ⟨-, events, hhistory, hmem⟩ := hreceives (by decide +kernel)
    [.advance (Binary64.ofInt 3), .close] twoAddresses (by decide +kernel) (by decide +kernel)
  have hkey : keyOf "Example.com" = "example.com" := by decide +kernel
  have hcalls : called.calls = 1 := by decide +kernel
  have hnow : (((called.step minute (.resolve " EXAMPLE.com " (.only .v6))).step minute
      (.advance (Binary64.ofInt 3))).step minute .close).resolver.now = Binary64.ofInt 3 := by
    decide +kernel
  have hfound : (outcomeOf twoAddresses).toOption = some [.v4 167772161, .v6 1 none] := by
    decide +kernel
  have hselect : Address.select (.only .v6) [.v4 167772161, .v6 1 none] = [.v6 1 none] := by
    decide +kernel
  simp only [run, List.foldl_cons, List.foldl_nil, hkey, hcalls, hnow] at hhistory hmem ⊢
  rcases houtcome : outcomeOf twoAddresses with fault | found <;> rw [houtcome] at hfound hmem
  · cases hfound
  · obtain rfl : found = [.v4 167772161, .v6 1 none] := Option.some.inj hfound
    simp only [hselect] at hmem
    rw [hhistory]
    exact List.mem_append_right _ (List.mem_cons_of_mem _ hmem)

/-- Callers are to wait for ever, which is longer than the longest wait. -/
def endless : ResolverLimits := { minute with timeout := .infinite false }

/-- A second call for a name. -/
def calledTwice : Traffic :=
  (startingAt ⟨[], [], [], "", []⟩ Binary64.zero).run endless
    [.resolve "example.com" .every, .resolve "example.com" .every]

/-- The look-up runs, and its answer comes within the time that the second call is to wait. But the
call has already failed. -/
theorem calledTwice_endless :
    runningIn calledTwice.history = [⟨0, "example.com"⟩] ∧
    (Binary64.zero.add endless.timeout).le calledTwice.resolver.now = false ∧
    .raised ⟨1, "example.com", .every⟩ .tooLong Binary64.zero ∈
      (calledTwice.run endless [.giveUp 1, .complete "example.com" twoAddresses]).history ∧
    ∀ found time, .returned ⟨1, "example.com", .every⟩ found time ∉
      (calledTwice.run endless [.giveUp 1, .complete "example.com" twoAddresses]).history := by
  refine ⟨by decide +kernel, by decide +kernel, ?_, fun found time hreturned => ?_⟩
  · have hshown : (calledTwice.run endless [.giveUp 1,
        .complete "example.com" twoAddresses]).history.any (fun e => match e with
        | .raised call .tooLong time =>
          decide (call = ⟨1, "example.com", .every⟩ ∧ time = Binary64.zero)
        | _ => false) = true := by decide +kernel
    obtain ⟨e, hmem, he⟩ := List.any_eq_true.1 hshown
    split at he
    · obtain ⟨rfl, rfl⟩ := of_decide_eq_true he
      exact hmem
    · cases he
  · have hothers : (calledTwice.run endless [.giveUp 1,
        .complete "example.com" twoAddresses]).history.all (fun e => match e with
        | .returned call _ _ => call.number == 0
        | _ => true) = true := by decide +kernel
    simpa using List.all_eq_true.1 hothers _ hreturned

end Traffic

end PacScript.Resolver
