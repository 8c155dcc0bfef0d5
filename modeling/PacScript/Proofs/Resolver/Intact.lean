import PacScript.Proofs.Resolver.Eviction
import PacScript.Proofs.Resolver.Uncached

/-!
# What calls that fail leave behind

A call takes away at most an expired entry of its own key when it begins (`spares_resolve`), and
nothing when it ends with a fault (`leavesIntact_step`). A key that has neither an entry nor a
pending look-up stays so until it is called for (`absent_run`), and a look-up stays pending until it
ends (`pending_run`).

An entry stays until it expires, makes room or is forgotten (`entry_run`), and serves every call as
long as it does. So a call that fails costs nobody else anything (`failures_leave_intact`).
-/

namespace PacScript.Resolver

variable {limits : ResolverLimits} {key : String} {entry : CacheEntry}

/-- Nothing is taken away but an expired entry of the host's own key. -/
def Spares (host : String) (r r' : Resolver) : Prop :=
  r'.cache = r.cache ∨ ∃ before expired after,
    r.cache = before ++ (keyOf (nameOf host), expired) :: after ∧ r'.cache = before ++ after ∧
      expired.expires.lt r.now = true

/-- Of the rows with different keys, only that of the key is taken away. -/
theorem erase_append_cons {before after : List (String × CacheEntry)}
    (h : ((before ++ (key, entry) :: after).map (·.1)).Nodup) :
    erase key (before ++ (key, entry) :: after) = before ++ after := by
  rw [List.map_append, List.map_cons, List.nodup_append, List.nodup_cons] at h
  obtain ⟨-, ⟨hafter, -⟩, hbefore⟩ := h
  have hfront : key ∉ before.map (·.1) := fun hmem => hbefore key hmem key List.mem_cons_self rfl
  show List.filter _ _ = _
  rw [List.filter_append, List.filter_cons_of_neg (by simp)]
  exact congrArg₂ _ (erase_of_not_mem hfront) (erase_of_not_mem hafter)

theorem spares_missed {host : String} {r : Resolver} (hkeys : r.cacheKeys.Nodup)
    (hasks : Asks limits host r) : Spares host r (r.missed limits (keyOf (nameOf host))) := by
  rcases httl : limits.ttl.le Binary64.zero with _ | _
  · rw [Spares, missed_cache, searched_of_keeps httl]
    rcases hl : r.cache.lookup (keyOf (nameOf host)) with _ | entry
    · exact Or.inl (erase_of_not_mem (not_mem_of_lookup hl))
    · obtain ⟨before, after, heq, -⟩ := List.lookup_eq_some_iff.1 hl
      have hexpired : entry.expires.lt r.now = true := by
        rw [← Bool.not_eq_false]
        exact fun hlive => hasks.2.2 entry ⟨httl, hl, hlive⟩
      rw [cacheKeys, heq] at hkeys
      refine Or.inr ⟨before, entry, after, heq, ?_, hexpired⟩
      rw [heq, erase_append_cons hkeys]
  · exact Or.inl (by rw [missed_cache, searched, if_pos httl])

namespace Traffic

variable {t : Traffic} {lookup : Lookup}

theorem spares_resolve (hkeys : t.resolver.cacheKeys.Nodup) (host : String)
    (filter : FamilyFilter) :
    Spares host t.resolver (t.step limits (.resolve host filter)).resolver := by
  rw [step]
  rcases begin_cases limits host filter t with ⟨-, result, heq⟩ |
    ⟨hasks, ⟨lookup, -, heq⟩ | ⟨lookup, -, -, heq⟩⟩ <;> rw [heq]
  · exact Or.inl rfl
  · exact spares_missed hkeys hasks
  · exact spares_missed hkeys hasks

/-! ## Calls that end with a fault -/

/-- The key has neither an entry nor a pending look-up. -/
def Absent (key : String) (r : Resolver) : Prop :=
  key ∉ r.cacheKeys ∧ r.pending.lookup key = none

/-- What a call that ends with a fault leaves behind. A call for a blank host changes nothing, and
neither does one that has waited for too long, whose look-up is still pending. A look-up that fails
is not pending any more; there is no answer to its key, and the others stay. -/
def LeavesIntact (call : Call) (t t' : Traffic) : Step → Prop
  | .resolve _ _ => nameOf call.host = "" ∧ t'.resolver = t.resolver
  | .complete key _ => keyOf (nameOf call.host) = key ∧ t'.resolver = settle key t.resolver ∧
    Absent key t'.resolver
  | .giveUp _ => t'.resolver = t.resolver ∧ ∃ w ∈ t.waiting, w.call = call ∧
    t'.resolver.pending.lookup (keyOf (nameOf call.host)) = some w.lookup
  | .advance _ => False
  | .close => False

section Faults

variable {events : List Event} {call : Call} {fault : Fault} {time : Binary64}

/-- A call that ends with a fault as it begins is one for a blank host. -/
theorem raised_resolve {host : String} {filter : FamilyFilter}
    (hhistory : (t.step limits (.resolve host filter)).history = t.history ++ events)
    (hraised : .raised call fault time ∈ events) :
    nameOf call.host = "" ∧ (t.step limits (.resolve host filter)).resolver = t.resolver := by
  rw [step] at hhistory ⊢
  rcases start_cases limits host t.resolver with ⟨hname, hs⟩ | ⟨a, -, hs⟩ |
    ⟨-, -, entry, -, hs⟩ | ⟨-, -, -, hs⟩
  · simp only [begin, hs, record] at hhistory
    obtain rfl := List.append_cancel_left hhistory
    cases List.mem_singleton.1 hraised
    refine ⟨hname, ?_⟩
    simp only [begin, hs]
    rfl
  · simp only [begin, hs, record] at hhistory
    obtain rfl := List.append_cancel_left hhistory
    cases List.mem_singleton.1 hraised
  · simp only [begin, hs, record] at hhistory
    obtain rfl := List.append_cancel_left hhistory
    cases List.mem_singleton.1 hraised
  · -- the call waits, so that it has not ended
    unfold submit at hs
    split at hs <;> simp only [begin, hs, record, wait] at hhistory <;>
      obtain rfl := List.append_cancel_left hhistory <;> simp at hraised

theorem raised_complete (hkeyed : Keyed t) {key : String} {reply : Reply}
    (hhistory : (t.step limits (.complete key reply)).history = t.history ++ events)
    (hraised : .raised call fault time ∈ events) :
    keyOf (nameOf call.host) = key ∧ (∃ lookup, t.resolver.pending.lookup key = some lookup) ∧
      ∃ fault, outcomeOf reply = .error fault := by
  rcases complete_cases limits key reply t with ⟨-, heq⟩ | ⟨lookup, hl, heq⟩ <;>
    rw [step, heq] at hhistory
  · rw [List.self_eq_append_right.1 hhistory] at hraised
    cases hraised
  · obtain rfl := List.append_cancel_left hhistory
    rcases List.mem_cons.1 hraised with hraised | hraised
    · have hcall := congrArg Event.call? hraised
      rw [Event.call?_ofOutcome] at hcall
      cases hcall
    · obtain ⟨w, hw, htold⟩ := List.mem_map.1 hraised
      obtain ⟨hwaits, hlookup⟩ := List.mem_filter.1 hw
      rcases houtcome : outcomeOf reply with fault | found <;> rw [houtcome] at htold <;>
        cases htold
      exact ⟨(hkeyed.lookup_eq_iff hwaits hl).1 (by simpa using hlookup), ⟨lookup, hl⟩, fault, rfl⟩

theorem settled_of_failed (hflights : Flights limits t) {key : String} {reply : Reply}
    (hl : t.resolver.pending.lookup key = some lookup) (houtcome : outcomeOf reply = .error fault) :
    (t.step limits (.complete key reply)).resolver = settle key t.resolver ∧
      Absent key (t.step limits (.complete key reply)).resolver := by
  have hsettled : (t.step limits (.complete key reply)).resolver = settle key t.resolver := by
    rw [step, complete_of_some limits reply hl, houtcome]
    rfl
  refine ⟨hsettled, ?_, lookup_complete limits key reply t⟩
  rw [hsettled]
  exact hflights.not_mem_cacheKeys hl

theorem leavesIntact_step (hflights : Flights limits t) (hkeyed : Keyed t) (s : Step)
    (hhistory : (t.step limits s).history = t.history ++ events)
    (hraised : .raised call fault time ∈ events) : LeavesIntact call t (t.step limits s) s := by
  cases s with
  | resolve host filter => exact raised_resolve hhistory hraised
  | complete key reply =>
    obtain ⟨hkey, ⟨lookup, hl⟩, fault, houtcome⟩ := raised_complete hkeyed hhistory hraised
    exact ⟨hkey, settled_of_failed hflights hl houtcome⟩
  | giveUp number =>
    rcases giveUp_cases limits number t with heq | ⟨w, hw, -, -, heq⟩ <;> rw [step, heq] at hhistory
    · rw [List.self_eq_append_right.1 hhistory] at hraised
      cases hraised
    · obtain rfl := List.append_cancel_left hhistory
      cases List.mem_singleton.1 hraised
      rw [step, heq]
      exact ⟨rfl, w, hw, rfl, hkeyed.waiting w hw⟩
  | advance now =>
    rcases advance_cases now t with heq | ⟨-, heq⟩ <;> rw [step, heq] at hhistory <;>
      rw [List.self_eq_append_right.1 hhistory] at hraised <;> cases hraised
  | close =>
    obtain rfl := List.append_cancel_left hhistory
    cases List.mem_singleton.1 hraised

end Faults

/-! ## Pending look-ups -/

/-- A step that does not end the look-ups of a key leaves the pending one, or it starts one. -/
theorem lookup_pending_step (limits : ResolverLimits) (t : Traffic) {s : Step}
    (hs : ∀ reply, s ≠ .complete key reply) :
    (t.step limits s).resolver.pending.lookup key = t.resolver.pending.lookup key ∨
      t.resolver.pending.lookup key = none ∧
        ∃ host filter, s = .resolve host filter ∧ keyOf (nameOf host) = key := by
  cases s with
  | resolve host filter =>
    rcases begin_cases limits host filter t with ⟨-, result, heq⟩ |
      ⟨-, ⟨lookup', -, heq⟩ | ⟨lookup', -, hnone, heq⟩⟩ <;> rw [step, heq]
    · exact Or.inl rfl
    · exact Or.inl rfl
    · by_cases hkey : keyOf (nameOf host) = key
      · subst hkey
        exact Or.inr ⟨hnone, host, filter, rfl, rfl⟩
      · have hne : (key == keyOf (nameOf host)) = false := by simpa using Ne.symm hkey
        rw [lookup_submitted, missed_pending, hne]
        exact Or.inl (Option.or_none)
  | complete other reply =>
    have hne : key ≠ other := by
      rintro rfl
      exact hs reply rfl
    rcases complete_cases limits other reply t with ⟨-, heq⟩ | ⟨lookup', -, heq⟩ <;> rw [step, heq]
    · exact Or.inl rfl
    · rw [finish_pending, lookup_filter_of_ne hne]
      exact Or.inl rfl
  | giveUp number =>
    rcases giveUp_cases limits number t with heq | ⟨w, -, -, -, heq⟩ <;> rw [step, heq] <;>
      exact Or.inl rfl
  | advance now =>
    rcases advance_cases now t with heq | ⟨-, heq⟩ <;> rw [step, heq] <;> exact Or.inl rfl
  | close => exact Or.inl rfl

theorem pending_run (steps : List Step) : ∀ {t : Traffic},
    t.resolver.pending.lookup key = some lookup → (∀ reply, .complete key reply ∉ steps) →
      (t.run limits steps).resolver.pending.lookup key = some lookup := by
  induction steps with
  | nil => exact fun h _ => h
  | cons s steps ih =>
    intro t h hsteps
    have hs : ∀ reply, s ≠ .complete key reply := by
      rintro reply rfl
      exact hsteps reply List.mem_cons_self
    rw [run_cons]
    refine ih ?_ fun reply hmem => hsteps reply (List.mem_cons_of_mem _ hmem)
    rcases lookup_pending_step limits t hs with heq | ⟨hnone, -⟩
    · rw [heq, h]
    · rw [h] at hnone
      cases hnone

/-! ## After a look-up has failed -/

theorem absent_step (h : Absent key t.resolver) {s : Step}
    (hs : ∀ host filter, s = .resolve host filter → keyOf (nameOf host) ≠ key) :
    Absent key (t.step limits s).resolver := by
  constructor
  · rintro hmem
    obtain ⟨e, he, rfl⟩ := List.mem_map.1 hmem
    have hold : e ∉ t.resolver.cache := fun he => h.1 (mem_cacheKeys he)
    rcases cache_step limits t s with heq | ⟨host, filter, -, -, heq⟩ |
      ⟨key, reply, lookup, found, -, -, hl, -, -, heq⟩ | ⟨-, heq⟩ <;> rw [heq] at he
    · exact hold he
    · exact hold (searched_sublist.subset he)
    · rcases mem_storeIn he with rfl | ⟨he, -⟩
      · rw [h.2] at hl
        cases hl
      · exact hold he
    · cases he
  · by_cases hcomplete : ∃ reply, s = .complete key reply
    · obtain ⟨reply, rfl⟩ := hcomplete
      exact lookup_complete limits key reply t
    · rw [not_exists] at hcomplete
      rcases lookup_pending_step limits t hcomplete with heq |
        ⟨-, host, filter, rfl, hkey⟩
      · rw [heq, h.2]
      · exact absurd hkey (hs host filter rfl)

theorem absent_run (steps : List Step) : ∀ {t : Traffic}, Absent key t.resolver →
    (∀ host filter, .resolve host filter ∈ steps → keyOf (nameOf host) ≠ key) →
      Absent key (t.run limits steps).resolver := by
  induction steps with
  | nil => exact fun h _ => h
  | cons s steps ih =>
    intro t h hsteps
    rw [run_cons]
    refine ih (absent_step h ?_) fun host filter hmem => ?_
    · rintro host filter rfl
      exact hsteps host filter List.mem_cons_self
    · exact hsteps host filter (List.mem_cons_of_mem _ hmem)

/-- A call starts a look-up of its name, for which it waits. -/
def StartsLookup (host : String) (filter : FamilyFilter) (t t' : Traffic) : Prop :=
  t'.resolver.queries = t.resolver.queries ++ [nameOf host] ∧ ∃ lookup, lookup.name = nameOf host ∧
    t'.history = t.history ++ [.started lookup, .waits ⟨t.calls, host, filter⟩ lookup]

theorem starts_of_absent {host : String} (h : Absent (keyOf (nameOf host)) t.resolver)
    (hname : nameOf host ≠ "") (hparse : Address.parse? (nameOf host) = none)
    (filter : FamilyFilter) :
    StartsLookup host filter t (t.step limits (.resolve host filter)) := by
  have hasks : Asks limits host t.resolver := ⟨hname, hparse, fun entry hlive =>
    h.1 (mem_cacheKeys (mem_of_lookup hlive.2.1))⟩
  rcases begin_cases limits host filter t with ⟨hno, -⟩ |
    ⟨-, ⟨lookup, hl, -⟩ | ⟨lookup, rfl, -, heq⟩⟩
  · exact absurd hasks hno
  · rw [h.2] at hl
    cases hl
  · rw [step, heq]
    exact ⟨rfl, _, rfl, rfl⟩

/-! ## While an answer is kept -/

theorem expired_run {expires : Binary64} (steps : List Step)
    (h : expires.lt t.resolver.now = true) :
    expires.lt (t.run limits steps).resolver.now = true := by
  refine run_induction (p := fun t => expires.lt t.resolver.now = true) (fun t s h => ?_) steps h
  rcases (step_forward limits t s).2 with hnow | hnow
  · rwa [hnow]
  · exact Binary64.lt_of_lt_of_le h hnow

theorem entry_step (hflights : Flights limits t) (hbounded : Bounded limits t.resolver.cache)
    (httl : limits.ttl.le Binary64.zero = false) (hmem : (key, entry) ∈ t.resolver.cache)
    (hlive : entry.expires.lt t.resolver.now = false) (s : Step) :
    (key, entry) ∈ (t.step limits s).resolver.cache ∨ s = .close ∨ Evicts limits t s key := by
  have hkeys := hbounded.keys
  rcases cache_step limits t s with heq | ⟨host, filter, -, hasks, heq⟩ |
    ⟨other, reply, lookup, found, rfl, houtcome, hl, -, -, heq⟩ | ⟨rfl, -⟩
  · rw [heq]
    exact Or.inl hmem
  · -- whoever calls for the key is served from the entry
    have hne : key ≠ keyOf (nameOf host) := by
      rintro rfl
      exact hasks.2.2 entry ⟨httl, lookup_of_mem hkeys hmem, hlive⟩
    rw [heq, searched_of_keeps httl]
    exact Or.inl (List.mem_filter.2 ⟨hmem, by simpa using hne⟩)
  · have hother := hflights.not_mem_cacheKeys hl
    by_cases hkept : key ∈ (t.step limits (.complete other reply)).resolver.cacheKeys
    · -- the entry of the key is still the old one, since the new one has another key
      obtain ⟨⟨k, entry'⟩, hmem', rfl⟩ := List.mem_map.1 hkept
      have hold := hmem'
      rw [heq] at hold
      rcases mem_storeIn hold with hnew | ⟨hold, -⟩
      · cases hnew
        exact absurd (mem_cacheKeys hmem) hother
      · have hsame := (lookup_of_mem hkeys hold).symm.trans (lookup_of_mem hkeys hmem)
        rw [← Option.some.inj hsame]
        exact Or.inl hmem'
    · refine Or.inr (Or.inr ⟨⟨other, by simp [useOf, hl, houtcome, httl]⟩, ?_, hkept⟩)
      exact List.mem_map.2 ⟨(key, entry), mem_unexpired.2 ⟨hmem, hlive⟩, rfl⟩
  · exact Or.inr (Or.inl rfl)

/-- At some point among the steps the key makes room for another, as the first of unexpired entries
that fill the cache. -/
def EvictedIn (limits : ResolverLimits) (key : String) (t : Traffic) (steps : List Step) : Prop :=
  ∃ before s after first rest, steps = before ++ s :: after ∧
    Evicts limits (t.run limits before) s key ∧
    unexpired (t.run limits before).resolver.now (t.run limits before).resolver.cache =
      (key, first) :: rest ∧ rest.length + 1 = limits.capacity

theorem entry_run (httl : limits.ttl.le Binary64.zero = false) (steps : List Step) :
    ∀ {t : Traffic}, Flights limits t → Bounded limits t.resolver.cache →
      (key, entry) ∈ t.resolver.cache →
        (key, entry) ∈ (t.run limits steps).resolver.cache ∨ .close ∈ steps ∨
          entry.expires.lt (t.run limits steps).resolver.now = true ∨
          EvictedIn limits key t steps := by
  induction steps with
  | nil => exact fun _ _ hmem => Or.inl hmem
  | cons s steps ih =>
    intro t hflights hbounded hmem
    rcases hlive : entry.expires.lt t.resolver.now with _ | _
    · rcases entry_step hflights hbounded httl hmem hlive s with hmem | rfl | hevicts
      · rcases ih (flights_step hflights s) (bounded_step hflights hbounded s) hmem with
          hmem | hclose | hexpired | ⟨before, s', after, first, rest, rfl, hevicts⟩
        · exact Or.inl hmem
        · exact Or.inr (Or.inl (List.mem_cons_of_mem _ hclose))
        · exact Or.inr (Or.inr (Or.inl hexpired))
        · exact Or.inr (Or.inr (Or.inr ⟨s :: before, s', after, first, rest, rfl, hevicts⟩))
      · exact Or.inr (Or.inl List.mem_cons_self)
      · obtain ⟨first, rest, hfull⟩ := hevicts.full hflights hbounded
        exact Or.inr (Or.inr (Or.inr ⟨[], s, steps, first, rest, rfl, hevicts, hfull⟩))
    · exact Or.inr (Or.inr (Or.inl (expired_run (s :: steps) hlive)))

/-- Every call for a name of the key ends at once with what it asks for of the answer. -/
def Serves (limits : ResolverLimits) (key : String) (found : List Address) (t : Traffic) : Prop :=
  ∀ host filter, nameOf host ≠ "" → Address.parse? (nameOf host) = none →
    keyOf (nameOf host) = key → t.step limits (.resolve host filter) =
      ⟨t.resolver, t.calls + 1, t.waiting, t.history ++
        [.returned ⟨t.calls, host, filter⟩ (Address.select filter found) t.resolver.now]⟩

/-- What comes of a pending look-up that succeeds: its answer is the youngest entry, and serves
every call until the resolver is closed, the entry expires or makes room for another. -/
structure Succeeds (limits : ResolverLimits) (key : String) (found : List Address)
    (t t' : Traffic) : Prop where
  kept : ∃ rest, t'.resolver.cache = rest ++ [(key, ⟨t.resolver.now.add limits.ttl, found⟩)]
  serves : ∀ steps, .close ∈ steps ∨
    (t.resolver.now.add limits.ttl).lt (t'.run limits steps).resolver.now = true ∨
    EvictedIn limits key t' steps ∨ Serves limits key found (t'.run limits steps)

theorem succeeds_complete (hflights : Flights limits t) (hbounded : Bounded limits t.resolver.cache)
    (httl : limits.ttl.le Binary64.zero = false) {reply : Reply} {found : List Address}
    (hl : t.resolver.pending.lookup key = some lookup) (houtcome : outcomeOf reply = .ok found) :
    Succeeds limits key found t (t.step limits (.complete key reply)) := by
  have hcache : (t.step limits (.complete key reply)).resolver.cache =
      storeIn limits t.resolver.now key found t.resolver.cache := by
    rw [step, complete_of_some limits reply hl, houtcome]
    exact finish_cache_of_ok httl found
  rw [storeIn_eq (hflights.not_mem_cacheKeys hl)] at hcache
  refine ⟨⟨_, hcache⟩, fun steps => ?_⟩
  have hmem : (key, ⟨t.resolver.now.add limits.ttl, found⟩) ∈
      (t.step limits (.complete key reply)).resolver.cache := by
    rw [hcache]
    exact List.mem_append_right _ List.mem_cons_self
  have hflights' := flights_step hflights (.complete key reply)
  have hbounded' := bounded_step hflights hbounded (.complete key reply)
  rcases entry_run httl steps hflights' hbounded' hmem with hmem | hclose | hexpired | hevicted
  · rcases hlive : (t.resolver.now.add limits.ttl).lt
      ((t.step limits (.complete key reply)).run limits steps).resolver.now with _ | _
    · refine Or.inr (Or.inr (Or.inr fun host filter hname hparse hkey => ?_))
      have hlookup := lookup_of_mem (bounded_run hflights' hbounded' steps).keys hmem
      subst hkey
      rw [step]
      exact begin_of_live hname hparse ⟨httl, hlookup, hlive⟩
    · exact Or.inr (Or.inl rfl)
  · exact Or.inl hclose
  · exact Or.inr (Or.inl hexpired)
  · exact Or.inr (Or.inr (Or.inl hevicted))

/-- What holds at a moment of calls that fail. -/
structure FailuresLeaveIntact (limits : ResolverLimits) (t : Traffic) : Prop where
  /-- A call that begins takes away at most an expired entry of its own key. -/
  begins : ∀ host filter, Spares host t.resolver (t.step limits (.resolve host filter)).resolver
  /-- A call that ends with a fault takes nothing away. -/
  ends : ∀ s events call fault time, (t.step limits s).history = t.history ++ events →
    .raised call fault time ∈ events → LeavesIntact call t (t.step limits s) s
  /-- After a look-up has failed, the next call for its key starts another one. -/
  failed : ∀ key lookup reply fault, t.resolver.pending.lookup key = some lookup →
    outcomeOf reply = .error fault → ∀ steps,
      (∀ host filter, .resolve host filter ∈ steps → keyOf (nameOf host) ≠ key) →
      let later := (t.step limits (.complete key reply)).run limits steps
      Absent key later.resolver ∧ ∀ host filter, nameOf host ≠ "" →
        Address.parse? (nameOf host) = none → keyOf (nameOf host) = key →
          StartsLookup host filter later (later.step limits (.resolve host filter))
  /-- A look-up is pending until it ends, whoever gives up, and an answer that it gives is kept. -/
  pending : ∀ key lookup, t.resolver.pending.lookup key = some lookup → ∀ steps,
    (∀ reply, .complete key reply ∉ steps) →
      let later := t.run limits steps
      later.resolver.pending.lookup key = some lookup ∧ ∀ reply found,
        limits.ttl.le Binary64.zero = false → outcomeOf reply = .ok found →
          Succeeds limits key found later (later.step limits (.complete key reply))

/-- Whatever happens to a resolver, whatever its limits, and whatever its clock shows at first:
calls that fail leave its state intact. -/
theorem failures_leave_intact (limits : ResolverLimits) (s : Surroundings) (start : Binary64)
    (steps : List Step) :
    FailuresLeaveIntact limits ((startingAt s start).run limits steps) := by
  have hbegun := flights_startingAt limits s start
  have hflights := flights_run steps hbegun
  have hbounded := bounded_run hbegun (bounded_startingAt s start) steps
  have hkeyed : Keyed ((startingAt s start).run limits steps) :=
    keyed_run (keyed_startingAt s start) steps
  refine ⟨fun host filter => spares_resolve hbounded.keys host filter,
    fun s events call fault time => leavesIntact_step hflights hkeyed s,
    fun key lookup reply fault hl houtcome more hmore => ?_, fun key lookup hl more hmore => ?_⟩
  · intro later
    have habsent : Absent key later.resolver :=
      absent_run more (settled_of_failed hflights hl houtcome).2 hmore
    refine ⟨habsent, fun host filter hname hparse hkey => ?_⟩
    subst hkey
    exact starts_of_absent habsent hname hparse filter
  · intro later
    have hl : later.resolver.pending.lookup key = some lookup := pending_run more hl hmore
    refine ⟨hl, fun reply found httl houtcome => ?_⟩
    exact succeeds_complete (flights_run more hflights) (bounded_run hflights hbounded more) httl hl
      houtcome

/-- A call has waited for as long as it is willing to. -/
def tooLate : Traffic :=
  (startingAt ⟨[], [], [], "", []⟩ Binary64.zero).run minute
    [.resolve "slow.example" .every, .advance (Binary64.ofInt 5)]

/-- The call gives up, the answer comes after all, and half a minute passes. -/
def answeredLate : Traffic :=
  ((tooLate.run minute [.giveUp 0]).step minute (.complete "slow.example" twoAddresses)).run minute
    [.advance (Binary64.ofInt 35)]

/-- The call that gives up changes nothing, and the late answer serves another one. -/
theorem failures_leave_intact_tooLate :
    (tooLate.step minute (.giveUp 0)).history.length = tooLate.history.length + 1 ∧
    (tooLate.step minute (.giveUp 0)).resolver = tooLate.resolver ∧
    .returned ⟨1, " SLOW.example", .only .v6⟩ [.v6 1 none] (Binary64.ofInt 35) ∈
      (answeredLate.step minute (.resolve " SLOW.example" (.only .v6))).history := by
  have hintact : FailuresLeaveIntact minute tooLate := failures_leave_intact minute _ _ _
  refine ⟨by decide +kernel, ?_, ?_⟩
  · rcases giveUp_cases minute 0 tooLate with heq | ⟨w, -, -, -, heq⟩
    · rw [step, heq]
    · exact (hintact.ends (.giveUp 0) _ w.call _ _ (by rw [step, heq]) List.mem_cons_self).1
  · obtain ⟨-, hsucceeds⟩ := hintact.pending "slow.example" ⟨0, "slow.example"⟩
      (by decide +kernel) [.giveUp 0] (by simp)
    have hfound : (outcomeOf twoAddresses).toOption = some [.v4 167772161, .v6 1 none] := by
      decide +kernel
    rcases houtcome : outcomeOf twoAddresses with fault | found <;> rw [houtcome] at hfound
    · cases hfound
    · obtain rfl : found = [.v4 167772161, .v6 1 none] := Option.some.inj hfound
      have hserves := (hsucceeds twoAddresses _ (by decide +kernel) houtcome).serves
        [.advance (Binary64.ofInt 35)]
      rcases hserves with hclose | hexpired | ⟨before, s, after, _, _, heq, hevicts, -⟩ | hserves
      · simp at hclose
      · exact absurd hexpired (by decide +kernel)
      · obtain ⟨⟨other, huse⟩, -⟩ := hevicts
        rcases before with _ | ⟨_, _ | _⟩ <;> simp at heq
        rw [← heq.1] at huse
        cases huse
      · have hserves : Serves minute "slow.example" [.v4 167772161, .v6 1 none] answeredLate :=
          hserves
        have hcall := hserves " SLOW.example" (.only .v6) (by decide +kernel) (by decide +kernel)
          (by decide +kernel)
        have hcalls : answeredLate.calls = 1 := by decide +kernel
        have hnow : answeredLate.resolver.now = Binary64.ofInt 35 := by decide +kernel
        have hselect : Address.select (.only .v6) [.v4 167772161, .v6 1 none] = [.v6 1 none] := by
          decide +kernel
        rw [hcalls, hnow, hselect] at hcall
        rw [hcall]
        exact List.mem_append_right _ List.mem_cons_self

end Traffic

end PacScript.Resolver
