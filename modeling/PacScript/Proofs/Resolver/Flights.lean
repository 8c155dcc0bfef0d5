import Mathlib.Data.List.Indexes
import Mathlib.Data.List.Nodup
import PacScript.Proofs.Resolver.Freshness
import PacScript.Proofs.Resolver.Steps

/-!
# The look-ups that run

By the record, a look-up runs from its start to its end (`mem_runningIn_iff`). After every step the
pending look-ups are exactly those that run, in the order of their starts, each under its key; no
two of them have the same key, and no answer is kept for a key whose look-up runs (`Flights`). The
record numbers the look-ups by the names asked for, so one that starts is never mistaken for one
that has ended (`Flights.next_not_mem_ended`).
-/

namespace PacScript.Resolver

/-! ## Reading the record -/

namespace Event

/-- The look-up that starts. -/
@[simp] def started? : Event → Option Lookup
  | .started lookup => some lookup
  | _ => none

/-- The look-up that ends. -/
@[simp] def ended? : Event → Option Lookup
  | .answered lookup _ _ => some lookup
  | .failed lookup _ _ => some lookup
  | _ => none

@[simp] theorem started?_ofOutcome (lookup : Lookup) (time : Binary64)
    (outcome : Except Fault (List Address)) : (ofOutcome lookup time outcome).started? = none := by
  cases outcome <;> rfl

@[simp] theorem ended?_ofOutcome (lookup : Lookup) (time : Binary64)
    (outcome : Except Fault (List Address)) :
    (ofOutcome lookup time outcome).ended? = some lookup := by
  cases outcome <;> rfl

/-- An event with which no look-up starts or ends. -/
def OfCalls (e : Event) : Prop := e.started? = none ∧ e.ended? = none

theorem ofCalls_ofResult (call : Call) (time : Binary64) (result : Except Fault (List Address)) :
    OfCalls (ofResult call time result) := by
  cases result <;> exact ⟨rfl, rfl⟩

end Event

namespace Traffic

theorem ofCalls_handOver {limits : ResolverLimits} {outcome : Except Fault (List Address)}
    {time : Binary64} {ws : List Waiting} :
    ∀ e ∈ ws.map (handOver limits outcome time), e.OfCalls := by
  intro e he
  obtain ⟨w, -, rfl⟩ := List.mem_map.1 he
  exact Event.ofCalls_ofResult _ _ _

/-- The look-ups that were started, in order. -/
def startedIn (history : List Event) : List Lookup := history.filterMap Event.started?

/-- The look-ups that have ended, in order. -/
def endedIn (history : List Event) : List Lookup := history.filterMap Event.ended?

/-- The look-ups that run, in the order of their starts. -/
def runningIn (history : List Event) : List Lookup :=
  (startedIn history).filter fun lookup => decide (lookup ∉ endedIn history)

section Record

variable {history events : List Event} {lookup : Lookup}

theorem mem_startedIn_iff : lookup ∈ startedIn history ↔ .started lookup ∈ history := by
  rw [startedIn, List.mem_filterMap]
  constructor
  · rintro ⟨e, he, hlookup⟩
    cases e <;> simp [Event.started?] at hlookup
    subst hlookup
    exact he
  · exact fun h => ⟨_, h, rfl⟩

theorem mem_endedIn_iff : lookup ∈ endedIn history ↔ ∃ e ∈ history, Ends lookup e := by
  rw [endedIn, List.mem_filterMap]
  refine exists_congr fun e => and_congr_right fun _ => ?_
  cases e <;> simp [Event.ended?, Ends]

theorem mem_runningIn_iff : lookup ∈ runningIn history ↔ Running history lookup := by
  rw [runningIn, List.mem_filter, decide_eq_true_iff, mem_startedIn_iff, mem_endedIn_iff, Running]
  simp

theorem startedIn_append : startedIn (history ++ events) = startedIn history ++ startedIn events :=
  List.filterMap_append

theorem endedIn_append : endedIn (history ++ events) = endedIn history ++ endedIn events :=
  List.filterMap_append

theorem startedIn_ofCalls (h : ∀ e ∈ events, e.OfCalls) : startedIn events = [] :=
  List.filterMap_eq_nil_iff.2 fun e he => (h e he).1

theorem endedIn_ofCalls (h : ∀ e ∈ events, e.OfCalls) : endedIn events = [] :=
  List.filterMap_eq_nil_iff.2 fun e he => (h e he).2

theorem runningIn_append_ofCalls (h : ∀ e ∈ events, e.OfCalls) :
    runningIn (history ++ events) = runningIn history := by
  simp [runningIn, startedIn_append, endedIn_append, startedIn_ofCalls h, endedIn_ofCalls h]

theorem runningIn_append_started (hnew : lookup ∉ endedIn history) (call : Call) :
    runningIn (history ++ [.started lookup, .waits call lookup]) =
      runningIn history ++ [lookup] := by
  have hstarted : startedIn [.started lookup, .waits call lookup] = [lookup] := rfl
  have hended : endedIn [.started lookup, .waits call lookup] = [] := rfl
  simp [runningIn, startedIn_append, endedIn_append, hstarted, hended, hnew]

theorem startedIn_ofOutcome_cons (h : ∀ e ∈ events, e.OfCalls) (time : Binary64)
    (outcome : Except Fault (List Address)) :
    startedIn (.ofOutcome lookup time outcome :: events) = [] := by
  rw [startedIn, List.filterMap_cons, Event.started?_ofOutcome]
  exact startedIn_ofCalls h

theorem endedIn_ofOutcome_cons (h : ∀ e ∈ events, e.OfCalls) (time : Binary64)
    (outcome : Except Fault (List Address)) :
    endedIn (.ofOutcome lookup time outcome :: events) = [lookup] := by
  rw [endedIn, List.filterMap_cons, Event.ended?_ofOutcome]
  exact congrArg (lookup :: ·) (endedIn_ofCalls h)

theorem runningIn_append_ended (h : ∀ e ∈ events, e.OfCalls) (time : Binary64)
    (outcome : Except Fault (List Address)) :
    runningIn (history ++ .ofOutcome lookup time outcome :: events) =
      (runningIn history).filter fun l => decide (l ≠ lookup) := by
  simp only [runningIn, startedIn_append, endedIn_append, startedIn_ofOutcome_cons h,
    endedIn_ofOutcome_cons h, List.append_nil, List.filter_filter]
  refine List.filter_congr fun l _ => ?_
  simp [not_or, and_comm]

end Record

/-! ## Rows under their keys -/

section Rows

variable {α : Type} {f : α → String} {xs : List α} {key : String} {x : α}

theorem lookup_rows_eq_some_iff (h : (xs.map f).Nodup) :
    (xs.map fun x => (f x, x)).lookup key = some x ↔ x ∈ xs ∧ f x = key := by
  constructor
  · intro hl
    obtain ⟨y, hy, heq⟩ := List.mem_map.1 (mem_of_lookup hl)
    obtain ⟨rfl, rfl⟩ := Prod.mk.inj heq
    exact ⟨hy, rfl⟩
  · rintro ⟨hx, rfl⟩
    rcases hl : (xs.map fun x => (f x, x)).lookup (f x) with _ | y
    · have := List.lookup_eq_none_iff.1 hl (f x, x) (List.mem_map_of_mem hx)
      simp at this
    · obtain ⟨z, hz, heq⟩ := List.mem_map.1 (mem_of_lookup hl)
      obtain ⟨hkey, rfl⟩ := Prod.mk.inj heq
      rw [List.inj_on_of_nodup_map h hz hx hkey]

theorem lookup_rows_eq_none_iff :
    (xs.map fun x => (f x, x)).lookup key = none ↔ ∀ x ∈ xs, f x ≠ key := by
  rw [List.lookup_eq_none_iff]
  simp [@eq_comm _ key]

/-- Without the row of a key, one element less is left. -/
theorem filter_rows (h : (xs.map f).Nodup) [DecidableEq α] (hx : x ∈ xs) :
    ((xs.map fun x => (f x, x)).filter fun e => e.1 != f x) =
      (xs.filter fun y => decide (y ≠ x)).map fun x => (f x, x) := by
  rw [List.filter_map]
  congr 1
  refine List.filter_congr fun y hy => ?_
  have hinj : f y = f x ↔ y = x := ⟨List.inj_on_of_nodup_map h hy hx, congrArg f⟩
  simp [bne, beq_eq_decide, hinj]

end Rows

/-! ## What every step keeps -/

/-- What holds of look-ups after every step. Where answers are kept for no time at all an expired
entry would never be forgotten, so that there are no entries then is part of it. -/
structure Flights (limits : ResolverLimits) (t : Traffic) : Prop where
  started : startedIn t.history = t.resolver.queries.mapIdx fun number name => ⟨number, name⟩
  ended : endedIn t.history ⊆ startedIn t.history
  pending : t.resolver.pending = (runningIn t.history).map fun l => (keyOf l.name, l)
  keys : ((runningIn t.history).map fun l => keyOf l.name).Nodup
  cache : ∀ e ∈ t.resolver.cache, limits.ttl.le Binary64.zero = false ∧
    ∀ l ∈ runningIn t.history, keyOf l.name ≠ e.1

namespace Flights

variable {limits : ResolverLimits} {t : Traffic} {key : String} {lookup : Lookup}

theorem lookup_eq_some_iff (h : Flights limits t) :
    t.resolver.pending.lookup key = some lookup ↔
      lookup ∈ runningIn t.history ∧ keyOf lookup.name = key := by
  rw [h.pending]
  exact lookup_rows_eq_some_iff h.keys

theorem lookup_eq_none_iff (h : Flights limits t) :
    t.resolver.pending.lookup key = none ↔ ∀ l ∈ runningIn t.history, keyOf l.name ≠ key := by
  rw [h.pending]
  exact lookup_rows_eq_none_iff

/-- A key whose look-up runs has no answer. -/
theorem not_live (h : Flights limits t) (hlookup : lookup ∈ runningIn t.history)
    (hkey : keyOf lookup.name = key) (entry : CacheEntry) : ¬Live limits t.resolver key entry :=
  fun hlive => (h.cache _ (mem_of_lookup hlive.2.1)).2 lookup hlookup hkey

/-- Nothing but the affairs of calls happens, and some entries of the cache are forgotten. -/
theorem extend (h : Flights limits t) {t' : Traffic} {events : List Event}
    (hpending : t'.resolver.pending = t.resolver.pending)
    (hqueries : t'.resolver.queries = t.resolver.queries)
    (hcache : t'.resolver.cache ⊆ t.resolver.cache)
    (hhistory : t'.history = t.history ++ events) (hevents : ∀ e ∈ events, e.OfCalls) :
    Flights limits t' := by
  have hstarted : startedIn t'.history = startedIn t.history := by
    rw [hhistory, startedIn_append, startedIn_ofCalls hevents, List.append_nil]
  have hended : endedIn t'.history = endedIn t.history := by
    rw [hhistory, endedIn_append, endedIn_ofCalls hevents, List.append_nil]
  have hrunning : runningIn t'.history = runningIn t.history := by
    rw [hhistory, runningIn_append_ofCalls hevents]
  constructor
  · rw [hstarted, hqueries]
    exact h.started
  · rw [hstarted, hended]
    exact h.ended
  · rw [hpending, hrunning]
    exact h.pending
  · rw [hrunning]
    exact h.keys
  · rw [hrunning]
    exact fun e he => h.cache e (hcache he)

/-- The next number is that of no look-up so far. -/
theorem next_not_mem_ended (h : Flights limits t) (name : String) :
    ⟨t.resolver.queries.length, name⟩ ∉ endedIn t.history := by
  intro hmem
  have hstarted := h.ended hmem
  rw [h.started, List.mem_mapIdx] at hstarted
  obtain ⟨i, hi, heq⟩ := hstarted
  have hnumber : i = t.resolver.queries.length := congrArg Lookup.number heq
  omega

/-- A look-up is started for a key of which none runs and no answer is kept. -/
theorem submitted (h : Flights limits t) {t' : Traffic} {name : String} {call : Call}
    (hnone : t.resolver.pending.lookup (keyOf name) = none)
    (hcache : t'.resolver.cache ⊆ t.resolver.cache)
    (hkey : limits.ttl.le Binary64.zero = false → ∀ e ∈ t'.resolver.cache, e.1 ≠ keyOf name)
    (hpending : t'.resolver.pending =
      t.resolver.pending ++ [(keyOf name, ⟨t.resolver.queries.length, name⟩)])
    (hqueries : t'.resolver.queries = t.resolver.queries ++ [name])
    (hhistory : t'.history = t.history ++ [.started ⟨t.resolver.queries.length, name⟩,
      .waits call ⟨t.resolver.queries.length, name⟩]) : Flights limits t' := by
  have hstarted : startedIn t'.history =
      startedIn t.history ++ [⟨t.resolver.queries.length, name⟩] := by
    rw [hhistory, startedIn_append]
    rfl
  have hended : endedIn t'.history = endedIn t.history := by
    rw [hhistory, endedIn_append]
    exact List.append_nil _
  have hrunning : runningIn t'.history =
      runningIn t.history ++ [⟨t.resolver.queries.length, name⟩] := by
    rw [hhistory, runningIn_append_started (h.next_not_mem_ended name)]
  have hother := h.lookup_eq_none_iff.1 hnone
  constructor
  · rw [hstarted, hqueries, List.mapIdx_concat, h.started]
  · rw [hstarted, hended]
    exact fun l hl => List.mem_append_left _ (h.ended hl)
  · rw [hpending, hrunning, List.map_append, h.pending]
    rfl
  · rw [hrunning, List.map_append, List.map_singleton]
    exact List.nodup_append.2 ⟨h.keys, List.nodup_singleton _, by simpa using hother⟩
  · intro e he
    obtain ⟨httl, hfree⟩ := h.cache e (hcache he)
    refine ⟨httl, fun l hl => ?_⟩
    rw [hrunning, List.mem_append, List.mem_singleton] at hl
    rcases hl with hl | rfl
    · exact hfree l hl
    · exact (hkey httl e he).symm

/-- A look-up that runs ends, and its answer may be kept. -/
theorem finish (h : Flights limits t) {t' : Traffic} {events : List Event} {time : Binary64}
    {outcome : Except Fault (List Address)} (hl : lookup ∈ runningIn t.history)
    (hresolver : t'.resolver = t.resolver.finish limits (keyOf lookup.name) outcome)
    (hhistory : t'.history = t.history ++ .ofOutcome lookup time outcome :: events)
    (hevents : ∀ e ∈ events, e.OfCalls) : Flights limits t' := by
  have hstarted : startedIn t'.history = startedIn t.history := by
    rw [hhistory, startedIn_append, startedIn_ofOutcome_cons hevents, List.append_nil]
  have hended : endedIn t'.history = endedIn t.history ++ [lookup] := by
    rw [hhistory, endedIn_append, endedIn_ofOutcome_cons hevents]
  have hrunning : runningIn t'.history =
      (runningIn t.history).filter fun l => decide (l ≠ lookup) := by
    rw [hhistory, runningIn_append_ended hevents]
  constructor
  · rw [hstarted, hresolver, finish_queries]
    exact h.started
  · rw [hstarted, hended]
    refine List.append_subset.2 ⟨h.ended, ?_⟩
    simpa using (List.mem_filter.1 hl).1
  · rw [hresolver, finish_pending, hrunning, h.pending, filter_rows h.keys hl]
  · rw [hrunning]
    exact h.keys.sublist (List.filter_sublist.map _)
  · intro e he
    rw [hresolver] at he
    rw [hrunning]
    rcases mem_cache_finish he with he | ⟨httl, hkey⟩
    · obtain ⟨httl, hfree⟩ := h.cache e he
      exact ⟨httl, fun l hl' => hfree l (List.mem_filter.1 hl').1⟩
    · -- the answer has the key of the look-up that ends, and no other one of this key runs
      refine ⟨httl, fun l hl' heq => ?_⟩
      obtain ⟨hl', hne⟩ := List.mem_filter.1 hl'
      have heq : l = lookup := List.inj_on_of_nodup_map h.keys hl' hl (heq.trans hkey)
      simp [heq] at hne

/-! ## The steps -/

theorem begin (h : Flights limits t) (host : String) (filter : FamilyFilter) :
    Flights limits (t.begin limits host filter) := by
  rcases begin_cases limits host filter t with ⟨-, result, heq⟩ |
    ⟨-, ⟨lookup, -, heq⟩ | ⟨lookup, rfl, hnone, heq⟩⟩
  · rw [heq]
    exact h.extend rfl rfl (List.Subset.refl _) rfl
      (List.forall_mem_singleton.2 (Event.ofCalls_ofResult _ _ _))
  · rw [heq]
    exact h.extend rfl rfl searched_sublist.subset rfl (by simp [Event.OfCalls])
  · rw [heq]
    exact h.submitted hnone searched_sublist.subset (fun httl _ => ne_of_mem_searched httl)
      rfl rfl rfl

theorem complete (h : Flights limits t) (key : String) (reply : Reply) :
    Flights limits (t.complete limits key reply) := by
  rcases complete_cases limits key reply t with ⟨-, heq⟩ | ⟨lookup, hl, heq⟩
  · rw [heq]
    exact h
  · obtain ⟨hrunning, rfl⟩ := h.lookup_eq_some_iff.1 hl
    rw [heq]
    exact h.finish hrunning rfl rfl ofCalls_handOver

theorem giveUp (h : Flights limits t) (number : Nat) :
    Flights limits (t.giveUp limits number) := by
  rcases giveUp_cases limits number t with heq | ⟨w, -, -, -, heq⟩
  · rw [heq]
    exact h
  · rw [heq]
    exact h.extend rfl rfl (List.Subset.refl _) rfl (by simp [Event.OfCalls])

theorem advance (h : Flights limits t) (now : Binary64) : Flights limits (t.advance now) := by
  rcases advance_cases now t with heq | ⟨-, heq⟩
  · rw [heq]
    exact h
  · rw [heq]
    exact { h with }

theorem close (h : Flights limits t) : Flights limits t.close :=
  h.extend rfl rfl (List.nil_subset _) rfl (by simp [Event.OfCalls])

end Flights

theorem flights_startingAt (limits : ResolverLimits) (s : Surroundings) (start : Binary64) :
    Flights limits (startingAt s start) :=
  ⟨rfl, List.nil_subset _, rfl, List.nodup_nil, by simp [startingAt, ofResolver, ofSurroundings]⟩

theorem flights_step {limits : ResolverLimits} {t : Traffic} (h : Flights limits t) (s : Step) :
    Flights limits (t.step limits s) := by
  cases s with
  | resolve host filter => exact h.begin host filter
  | complete key reply => exact h.complete key reply
  | giveUp number => exact h.giveUp number
  | advance now => exact h.advance now
  | close => exact h.close

theorem flights_run {limits : ResolverLimits} (steps : List Step) {t : Traffic}
    (h : Flights limits t) : Flights limits (t.run limits steps) :=
  run_induction (p := Flights limits) (fun _ s h => flights_step h s) steps h

end Traffic

end PacScript.Resolver
