import PacScript.Proofs.Resolver.Steps

/-!
# Kept answers make no difference

Where every look-up ends at once with a reply that its key determines, a kept answer is the answer
that a look-up of its key would give now (`Truthful`). So every call comes to what a look-up of its
own comes to, whatever is kept, has expired or was forgotten (`results_serve`), and a resolver that
keeps no answers serves the same calls in the same way (`results_serve_unused`).
-/

namespace PacScript.Resolver

/-- What is done with a resolver: it is asked for a host, time passes, or it is closed. -/
inductive Use
  | resolve (host : String) (filter : FamilyFilter)
  | advance (now : Binary64)
  | close

namespace Use

/-- Host and filter of a call. -/
def asked? : Use → Option (String × FamilyFilter)
  | .resolve host filter => some (host, filter)
  | .advance _ => none
  | .close => none

/-- The steps of a use. If there is a look-up, it ends at once, with the reply to its key. -/
def steps (reply : String → Reply) : Use → List Step
  | .resolve host filter =>
    [.resolve host filter, .complete (keyOf (nameOf host)) (reply (keyOf (nameOf host)))]
  | .advance now => [.advance now]
  | .close => [.close]

end Use

/-- The call that ends, with what it comes to. -/
def Event.result? : Event → Option (Call × Except Fault (List Address))
  | .returned call found _ => some (call, .ok found)
  | .raised call fault _ => some (call, .error fault)
  | _ => none

@[simp] theorem Event.result?_ofResult (call : Call) (time : Binary64)
    (result : Except Fault (List Address)) :
    (ofResult call time result).result? = some (call, result) := by
  cases result <;> rfl

@[simp] theorem Event.result?_ofOutcome (lookup : Lookup) (time : Binary64)
    (outcome : Except Fault (List Address)) : (ofOutcome lookup time outcome).result? = none := by
  cases outcome <;> rfl

/-- What a call comes to that no kept answer serves. -/
def uncached (limits : ResolverLimits) (reply : String → Reply) (host : String)
    (filter : FamilyFilter) : Except Fault (List Address) :=
  if nameOf host = "" then .error (.resolution .emptyName)
  else
    match Address.parse? (nameOf host) with
    | some a => .ok (Address.select filter [a])
    | none => received limits host filter (outcomeOf (reply (keyOf (nameOf host))))

/-- Only how long callers wait matters to a call that no kept answer serves. -/
theorem uncached_congr {limits limits' : ResolverLimits} (h : limits.timeout = limits'.timeout) :
    uncached limits = uncached limits' := by
  funext reply host filter
  have hreceived : received limits = received limits' := by
    funext host filter outcome
    cases outcome <;> simp only [received, lookupFault, timeoutFault, h]
  simp only [uncached, hreceived]

/-- A call fails as a resolution, or it passes on a fault of its look-up that is none of those which
look-ups are expected to have. -/
theorem fault_of_uncached {limits : ResolverLimits} {reply : String → Reply} {host : String}
    {filter : FamilyFilter} {fault : Fault} (h : uncached limits reply host filter = .error fault) :
    fault.isResolution = true ∨ (fault.isTimeout = false ∧ fault.isLookupFailure = false ∧
      outcomeOf (reply (keyOf (nameOf host))) = .error fault) := by
  unfold uncached at h
  split at h
  · cases h
    exact Or.inl rfl
  · split at h
    · cases h
    · rcases houtcome : outcomeOf (reply (keyOf (nameOf host))) with cause | found
      · rw [houtcome] at h
        simp only [received, Except.error.injEq] at h
        rw [← h, lookupFault]
        split
        · exact Or.inl rfl
        · rename_i htimeout
          split
          · exact Or.inl rfl
          · rename_i hfailure
            exact Or.inr ⟨by simpa using htimeout, by simpa using hfailure, rfl⟩
      · rw [houtcome] at h
        cases h

namespace Traffic

/-- The resolver is used, and every look-up ends at once with the reply to its key. -/
def serve (limits : ResolverLimits) (reply : String → Reply) (t : Traffic) (uses : List Use) :
    Traffic :=
  t.run limits (uses.flatMap (Use.steps reply))

/-- The calls that have ended, each with what it came to. -/
def results (t : Traffic) : List (Call × Except Fault (List Address)) :=
  t.history.filterMap Event.result?

/-- A resolver that has not been used. -/
def unused (surroundings : Surroundings) (now : Binary64) : Traffic :=
  ofResolver { ofSurroundings surroundings with now }

/-- No look-up is pending, no call waits, and kept answers are what look-ups come to. -/
structure Truthful (reply : String → Reply) (t : Traffic) : Prop where
  pending : t.resolver.pending = []
  waiting : t.waiting = []
  cache : ∀ e ∈ t.resolver.cache, outcomeOf (reply e.1) = .ok e.2.found

variable {limits : ResolverLimits} {reply : String → Reply} {t : Traffic}

theorem truthful_unused (surroundings : Surroundings) (now : Binary64) :
    Truthful reply (unused surroundings now) :=
  ⟨rfl, rfl, by simp [unused, ofResolver, ofSurroundings]⟩

theorem run_call (host : String) (filter : FamilyFilter) :
    t.run limits (Use.steps reply (.resolve host filter)) = (t.begin limits host filter).complete
      limits (keyOf (nameOf host)) (reply (keyOf (nameOf host))) := by
  rw [Use.steps, run_cons, run_cons, step, step, run, List.foldl_nil]

/-- The end of a look-up that one call waits for, and no other call waits. -/
theorem complete_only {r : Resolver} {number : Nat} {call : Call} {lookup : Lookup}
    {deadline : Binary64} {history : List Event} {key : String} {answer : Reply}
    (hl : r.pending.lookup key = some lookup) :
    complete limits key answer ⟨r, number, [⟨call, lookup, deadline⟩], history⟩ =
      ⟨r.finish limits key (outcomeOf answer), number, [], history ++
        [.ofOutcome lookup r.now (outcomeOf answer),
          .ofResult call r.now (received limits call.host call.filter (outcomeOf answer))]⟩ := by
  simp [complete, hl, record, handOver]

namespace Truthful

/-- An answer is kept for its own key. -/
theorem finish_cache (h : ∀ e ∈ t.resolver.cache, outcomeOf (reply e.1) = .ok e.2.found)
    (key name : String) :
    ∀ e ∈ (Resolver.finish limits key (outcomeOf (reply key))
      (submitted key name (t.resolver.missed limits key))).cache,
        outcomeOf (reply e.1) = .ok e.2.found := by
  intro e he
  rcases houtcome : outcomeOf (reply key) with fault | found
  · rw [houtcome, finish_cache_of_error] at he
    exact h e (searched_sublist.subset he)
  · rw [houtcome] at he
    rcases httl : limits.ttl.le Binary64.zero with _ | _
    · rw [finish_cache_of_ok httl] at he
      rcases mem_storeIn he with rfl | ⟨he, -⟩
      · exact houtcome
      · exact h e (searched_sublist.subset he)
    · simp only [Resolver.finish, settle, store, httl, if_true] at he
      exact h e (searched_sublist.subset he)

/-- A call that is not submitted ends at once, and there is no look-up to end. -/
theorem serve_of_ends (h : Truthful reply t) {host : String} {filter : FamilyFilter}
    {result : Except Fault (List Address)}
    (hbegin : t.begin limits host filter = ⟨t.resolver, t.calls + 1, t.waiting,
      t.history ++ [.ofResult ⟨t.calls, host, filter⟩ t.resolver.now result]⟩) :
    Truthful reply (t.run limits (Use.steps reply (.resolve host filter))) ∧
      (t.run limits (Use.steps reply (.resolve host filter))).calls = t.calls + 1 ∧
      (t.run limits (Use.steps reply (.resolve host filter))).results =
        t.results ++ [(⟨t.calls, host, filter⟩, result)] := by
  have hrun : t.run limits (Use.steps reply (.resolve host filter)) = ⟨t.resolver, t.calls + 1,
      t.waiting, t.history ++ [.ofResult ⟨t.calls, host, filter⟩ t.resolver.now result]⟩ := by
    rw [run_call, hbegin]
    simp only [complete, h.pending, List.lookup_nil]
  rw [hrun]
  exact ⟨⟨h.pending, h.waiting, h.cache⟩, rfl, by simp [results]⟩

/-- A call that is submitted starts a look-up, whose end it is told at once. -/
theorem serve_of_submitted (h : Truthful reply t) {host : String} {filter : FamilyFilter}
    (hs : t.resolver.start limits host =
      submit (keyOf (nameOf host)) (nameOf host)
        (t.resolver.missed limits (keyOf (nameOf host)))) :
    Truthful reply (t.run limits (Use.steps reply (.resolve host filter))) ∧
      (t.run limits (Use.steps reply (.resolve host filter))).calls = t.calls + 1 ∧
      (t.run limits (Use.steps reply (.resolve host filter))).results =
        t.results ++ [(⟨t.calls, host, filter⟩,
          received limits host filter (outcomeOf (reply (keyOf (nameOf host)))))] := by
  have hnone : t.resolver.pending.lookup (keyOf (nameOf host)) = none := by
    rw [h.pending, List.lookup_nil]
  have hbegin : t.begin limits host filter = _ :=
    begin_of_starts (hs.trans (submit_of_none hnone))
  have hpending : (submitted (keyOf (nameOf host)) (nameOf host)
      (t.resolver.missed limits (keyOf (nameOf host)))).pending.lookup (keyOf (nameOf host)) =
        some ⟨(t.resolver.missed limits (keyOf (nameOf host))).queries.length, nameOf host⟩ := by
    simp [lookup_submitted, hnone]
  rw [run_call, hbegin, h.waiting, List.nil_append, complete_only hpending]
  refine ⟨⟨?_, rfl, finish_cache h.cache _ _⟩, rfl, ?_⟩
  · rw [finish_pending, submitted, missed_pending, h.pending]
    simp
  · rw [results, List.append_assoc, List.filterMap_append, List.cons_append, List.cons_append,
      List.nil_append, List.filterMap_cons_none rfl, List.filterMap_cons_none rfl,
      List.filterMap_cons_none (Event.result?_ofOutcome _ _ _),
      List.filterMap_cons_some (Event.result?_ofResult _ _ _)]
    rfl

/-- Every call comes to what a look-up of its own comes to. -/
theorem serve_call (h : Truthful reply t) (limits : ResolverLimits) (host : String)
    (filter : FamilyFilter) :
    Truthful reply (t.run limits (Use.steps reply (.resolve host filter))) ∧
      (t.run limits (Use.steps reply (.resolve host filter))).calls = t.calls + 1 ∧
      (t.run limits (Use.steps reply (.resolve host filter))).results =
        t.results ++ [(⟨t.calls, host, filter⟩, uncached limits reply host filter)] := by
  rcases start_cases limits host t.resolver with ⟨hname, hs⟩ | ⟨a, hparse, hs⟩ |
    ⟨hname, hparse, entry, hlive, hs⟩ | ⟨hname, hparse, -, hs⟩
  · have huncached : uncached limits reply host filter = .error (.resolution .emptyName) :=
      if_pos hname
    rw [huncached]
    exact h.serve_of_ends (by simp only [begin, hs]; rfl)
  · have hname : nameOf host ≠ "" := by
      intro hname
      rw [hname] at hparse
      cases hparse
    have huncached : uncached limits reply host filter = .ok (Address.select filter [a]) := by
      simp only [uncached, if_neg hname, hparse]
    rw [huncached]
    exact h.serve_of_ends (by simp only [begin, hs]; rfl)
  · -- the kept answer is the one that a look-up would give
    have huncached : uncached limits reply host filter =
        .ok (Address.select filter entry.found) := by
      simp only [uncached, if_neg hname, hparse, h.cache _ (mem_of_lookup hlive.2.1), received]
    rw [huncached]
    exact h.serve_of_ends (by simp only [begin, hs]; rfl)
  · have huncached : uncached limits reply host filter =
        received limits host filter (outcomeOf (reply (keyOf (nameOf host)))) := by
      simp only [uncached, if_neg hname, hparse]
    rw [huncached]
    exact h.serve_of_submitted hs

end Truthful

/-- The calls of the uses, numbered from some number, each with what a look-up of its own
comes to. -/
def expected (limits : ResolverLimits) (reply : String → Reply) (number : Nat) (uses : List Use) :
    List (Call × Except Fault (List Address)) :=
  (uses.filterMap Use.asked?).mapIdx fun i (host, filter) =>
    (⟨number + i, host, filter⟩, uncached limits reply host filter)

/-- All calls end, and each comes to what a look-up of its own comes to. -/
theorem results_serve (uses : List Use) : ∀ {t : Traffic}, Truthful reply t →
    (t.serve limits reply uses).results = t.results ++ expected limits reply t.calls uses := by
  induction uses with
  | nil =>
    intro t _
    simp [serve, run, expected]
  | cons use uses ih =>
    intro t h
    have hserve : t.serve limits reply (use :: uses) =
        (t.run limits (use.steps reply)).serve limits reply uses := by
      simp only [serve, run, List.flatMap_cons, List.foldl_append]
    rw [hserve]
    -- the invariant holds after each use, so the hypothesis is about the state that it leaves
    cases use with
    | resolve host filter =>
      obtain ⟨hnext, hcalls, hresults⟩ := h.serve_call limits host filter
      rw [ih hnext, hcalls, hresults, List.append_assoc]
      simp [expected, Use.asked?, List.mapIdx_cons, Nat.add_assoc, Nat.add_comm 1]
    | advance now =>
      rcases advance_cases now t with heq | ⟨-, heq⟩ <;>
        simp only [Use.steps, run, List.foldl_cons, List.foldl_nil, step, heq]
      · exact ih h
      · exact ih ⟨h.pending, h.waiting, h.cache⟩
    | close =>
      have hclosed : Truthful reply t.close :=
        ⟨h.pending, h.waiting, by simp [close, record, Resolver.close]⟩
      have hresults : t.close.results = t.results := by
        simp [close, record, results, Event.result?]
      have hih := ih hclosed
      rw [hresults] at hih
      exact hih

/-- However long answers are kept, and however many, a resolver that was not used before serves
calls as one that keeps none, and fails as a resolution unless a look-up fails in an unexpected way.
-/
theorem results_serve_unused (limits : ResolverLimits) (reply : String → Reply)
    (surroundings : Surroundings) (now : Binary64) (uses : List Use) :
    ((unused surroundings now).serve limits reply uses).results =
        ((unused surroundings now).serve { limits with ttl := Binary64.zero } reply uses).results ∧
      ((unused surroundings now).serve limits reply uses).results = expected limits reply 0 uses ∧
      ∀ call fault,
        (call, .error fault) ∈ ((unused surroundings now).serve limits reply uses).results →
        fault.isResolution = true ∨ (fault.isTimeout = false ∧ fault.isLookupFailure = false ∧
          outcomeOf (reply (keyOf (nameOf call.host))) = .error fault) := by
  have hserve (limits : ResolverLimits) :
      ((unused surroundings now).serve limits reply uses).results = expected limits reply 0 uses :=
    results_serve uses (truthful_unused surroundings now)
  refine ⟨?_, hserve limits, fun call fault hmem => ?_⟩
  · have huncached : uncached { limits with ttl := Binary64.zero } = uncached limits :=
      uncached_congr rfl
    rw [hserve, hserve, expected, expected, huncached]
  · rw [hserve, expected, List.mem_mapIdx] at hmem
    obtain ⟨i, hi, he⟩ := hmem
    obtain ⟨rfl, hfault⟩ := Prod.mk.inj he
    exact fault_of_uncached hfault

end Traffic

end PacScript.Resolver
