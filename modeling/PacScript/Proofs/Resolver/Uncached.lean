import PacScript.Proofs.Resolver.Alone
import PacScript.Proofs.Resolver.Calls

/-!
# Calls and their own look-ups

Each call waits for the look-up that is pending for its key (`Keyed`). Where answers are not kept,
whether a call ends at once does not depend on the state (`begin_uncached`), and of all look-ups a
call that no other overlaps depends on that of its key only (`resolve_congr`).
-/

namespace PacScript.Resolver.Traffic

variable {limits : ResolverLimits} {t : Traffic} {w : Waiting} {lookup : Lookup} {key : String}

/-- Pending look-ups have their own keys, and each call waits for the pending look-up of its key. -/
structure Keyed (t : Traffic) : Prop where
  pending : ∀ key lookup, t.resolver.pending.lookup key = some lookup → keyOf lookup.name = key
  waiting : ∀ w ∈ t.waiting,
    t.resolver.pending.lookup (keyOf (nameOf w.call.host)) = some w.lookup

theorem Keyed.lookup_eq_iff (h : Keyed t) (hw : w ∈ t.waiting)
    (hl : t.resolver.pending.lookup key = some lookup) :
    w.lookup = lookup ↔ keyOf (nameOf w.call.host) = key := by
  constructor
  · intro heq
    rw [← h.pending _ _ (h.waiting w hw), heq, h.pending _ _ hl]
  · rintro rfl
    exact Option.some.inj ((h.waiting w hw).symm.trans hl)

theorem keyed_step (h : Keyed t) (s : Step) : Keyed (t.step limits s) := by
  cases s with
  | resolve host filter =>
    rcases begin_cases limits host filter t with ⟨-, result, heq⟩ |
      ⟨-, ⟨lookup, hl, heq⟩ | ⟨lookup, rfl, hnone, heq⟩⟩ <;> rw [step, heq]
    · exact ⟨h.pending, h.waiting⟩
    · refine ⟨h.pending, fun w hw => ?_⟩
      rcases List.mem_append.1 hw with hw | hw
      · exact h.waiting w hw
      · rw [List.mem_singleton.1 hw]
        exact hl
    · have hlookup (k : String) := @lookup_submitted (keyOf (nameOf host)) (nameOf host)
        (t.resolver.missed limits (keyOf (nameOf host))) k
      refine ⟨fun key lookup hkey => ?_, fun w hw => ?_⟩
      · rw [hlookup, Option.or_eq_some_iff] at hkey
        rcases hkey with hkey | ⟨-, hkey⟩
        · exact h.pending key lookup hkey
        · split at hkey
          · rename_i heq
            cases hkey
            exact (beq_iff_eq.1 heq).symm
          · cases hkey
      · show (submitted _ _ _).pending.lookup _ = _
        rw [hlookup, missed_pending]
        rcases List.mem_append.1 hw with hw | hw
        · rw [h.waiting w hw]
          rfl
        · rw [List.mem_singleton.1 hw]
          simp [hnone]
  | complete key reply =>
    rcases complete_cases limits key reply t with ⟨-, heq⟩ | ⟨lookup, hl, heq⟩ <;> rw [step, heq]
    · exact h
    · refine ⟨fun k l hk => ?_, fun w hw => ?_⟩
      · rw [finish_pending, lookup_filter (· != key)] at hk
        split at hk
        · exact h.pending k l hk
        · cases hk
      · obtain ⟨hw, hother⟩ := List.mem_filter.1 hw
        have hkey : keyOf (nameOf w.call.host) ≠ key :=
          fun heq => by simp [(h.lookup_eq_iff hw hl).2 heq] at hother
        rw [finish_pending, lookup_filter_of_ne hkey]
        exact h.waiting w hw
  | giveUp number =>
    rcases giveUp_cases limits number t with heq | ⟨w, -, -, -, heq⟩ <;> rw [step, heq]
    · exact h
    · exact ⟨h.pending, fun w hw => h.waiting w (List.mem_filter.1 hw).1⟩
  | advance now =>
    rcases advance_cases now t with heq | ⟨-, heq⟩ <;> rw [step, heq] <;>
      exact ⟨h.pending, h.waiting⟩
  | close => exact ⟨h.pending, h.waiting⟩

theorem keyed_startingAt (s : Surroundings) (start : Binary64) : Keyed (startingAt s start) where
  pending key lookup h := by cases h
  waiting w hw := by cases hw

theorem keyed_run (h : Keyed t) (steps : List Step) : Keyed (t.run limits steps) :=
  run_induction (p := Keyed) (fun _ s h => keyed_step h s) steps h

/-! ## Steps where answers are not kept -/

theorem start_uncached (httl : limits.ttl.le Binary64.zero = true) (host : String) :
    (∃ fault, ∀ r : Resolver, r.start limits host = (.fails fault, r)) ∨
    (∃ found, ∀ r : Resolver, r.start limits host = (.found found, r)) ∨
    ∀ r : Resolver, r.start limits host = r.submit (keyOf (nameOf host)) (nameOf host) := by
  have hcached (key : String) (r : Resolver) : r.cached limits key = (none, r) := if_pos httl
  by_cases hempty : (nameOf host).isEmpty = true
  · exact Or.inl ⟨_, fun r => if_pos hempty⟩
  · refine Or.inr ?_
    rcases hparse : Address.parse? (nameOf host) with _ | a
    · exact Or.inr fun r => by simp only [start, hempty, hparse, hcached]; rfl
    · exact Or.inl ⟨_, fun r => by simp only [start, hempty, hparse]; rfl⟩

section Alone

variable {host : String} {filter : FamilyFilter} {r r' : Resolver}

theorem await_congr (hnow : r'.now = r.now) (hsurroundings : r'.surroundings = r.surroundings)
    (lookup : Lookup) :
    (r'.await limits host filter lookup).1 = (r.await limits host filter lookup).1 ∧
      (r'.await limits host filter lookup).2.now = (r.await limits host filter lookup).2.now := by
  unfold await
  rw [hsurroundings]
  simp only
  split
  · rw [finish_now, finish_now]
    exact ⟨rfl, hnow⟩
  · exact ⟨rfl, congrArg limits.deadline hnow⟩

/-- Of all look-ups, a call that no other call overlaps depends on that of its key only. -/
theorem resolve_congr (httl : limits.ttl.le Binary64.zero = true) (hnow : r'.now = r.now)
    (hsurroundings : r'.surroundings = r.surroundings) (hqueries : r'.queries = r.queries)
    (hpending : r'.pending.lookup (keyOf (nameOf host)) =
      r.pending.lookup (keyOf (nameOf host))) :
    ((resolve limits host filter).run.run r').1 = ((resolve limits host filter).run.run r).1 ∧
      ((resolve limits host filter).run.run r').2.now =
        ((resolve limits host filter).run.run r).2.now := by
  rw [resolve_run, resolve_run]
  rcases start_uncached httl host with ⟨fault, hs⟩ | ⟨found, hs⟩ | hs
  · rw [hs, hs]
    exact ⟨rfl, hnow⟩
  · rw [hs, hs]
    exact ⟨rfl, hnow⟩
  · rw [hs, hs]
    rcases hl : r.pending.lookup (keyOf (nameOf host)) with _ | lookup
    · rw [submit_of_none hl, submit_of_none (hpending.trans hl), hqueries]
      exact @await_congr limits host filter (submitted _ _ r) (submitted _ _ r') hnow
        hsurroundings _
    · rw [submit_of_some hl, submit_of_some (hpending.trans hl)]
      exact await_congr hnow hsurroundings lookup

end Alone

/-- Whether a call ends at once, and how, does not depend on the state. -/
theorem begin_uncached (httl : limits.ttl.le Binary64.zero = true) (host : String)
    (filter : FamilyFilter) :
    (∃ result, ∀ t : Traffic, t.begin limits host filter = ⟨t.resolver, t.calls + 1, t.waiting,
      t.history ++ [.ofResult ⟨t.calls, host, filter⟩ t.resolver.now result]⟩) ∨
    ∀ t : Traffic, ∃ resolver lookup events, t.begin limits host filter =
        ⟨resolver, t.calls + 1, t.waiting ++
          [⟨⟨t.calls, host, filter⟩, lookup, limits.deadline t.resolver.now⟩],
          t.history ++ events⟩ ∧
      resolver.now = t.resolver.now ∧ (∀ e ∈ events, e.call? = none) ∧
      ∀ k, resolver.pending.lookup k = none ↔
        k ≠ keyOf (nameOf host) ∧ t.resolver.pending.lookup k = none := by
  rcases start_uncached httl host with ⟨fault, hs⟩ | ⟨found, hs⟩ | hs
  · refine Or.inl ⟨.error fault, fun t => ?_⟩
    simp only [begin, hs]
    rfl
  · refine Or.inl ⟨.ok (Address.select filter found), fun t => ?_⟩
    simp only [begin, hs]
    rfl
  · refine Or.inr fun t => ?_
    rcases hl : t.resolver.pending.lookup (keyOf (nameOf host)) with _ | lookup
    · have hbegin : t.begin limits host filter = _ :=
        begin_of_starts ((hs t.resolver).trans (submit_of_none hl))
      refine ⟨_, _, _, hbegin, rfl, by simp [Event.call?], fun k => ?_⟩
      rw [lookup_submitted, Option.or_eq_none_iff, and_comm]
      simp
    · have hbegin : t.begin limits host filter = _ :=
        begin_of_joins ((hs t.resolver).trans (submit_of_some hl))
      refine ⟨_, _, _, hbegin, rfl, by simp [Event.call?], fun k => ?_⟩
      refine ⟨fun hnone => ⟨fun heq => ?_, hnone⟩, And.right⟩
      rw [heq, hl] at hnone
      cases hnone

end PacScript.Resolver.Traffic
