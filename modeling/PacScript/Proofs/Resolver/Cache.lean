import PacScript.Proofs.Number.Rounding
import PacScript.Proofs.Resolver.Calls

/-!
# The order of the cache

A step leaves the cache as it is, takes entries away or keeps one more answer (`cache_step`). Each
key therefore has one entry and no more are kept than there is room for (`Bounded`), and the entries
stand in the order in which they expire (`Ordered`).

So the expired entries are the first ones, and those that are evicted after them are the next to
expire (`cache_ordered`).
-/

namespace PacScript.Resolver

variable {limits : ResolverLimits} {key : String} {found : List Address} {now : Binary64}
  {cache cache' : List (String × CacheEntry)}

/-- The entries that have not expired. -/
def unexpired (now : Binary64) (cache : List (String × CacheEntry)) : List (String × CacheEntry) :=
  cache.filter fun e => !e.2.expires.lt now

theorem mem_unexpired {e : String × CacheEntry} :
    e ∈ unexpired now cache ↔ e ∈ cache ∧ e.2.expires.lt now = false := by
  simp [unexpired]

theorem unexpired_sublist (now : Binary64) (cache : List (String × CacheEntry)) :
    (unexpired now cache).Sublist cache :=
  List.filter_sublist

theorem drop_unexpired_sublist (now : Binary64) (cache : List (String × CacheEntry)) (count : Nat) :
    ((unexpired now cache).drop count).Sublist cache :=
  (List.drop_sublist _ _).trans (unexpired_sublist _ _)

/-- The answer to a key that has none becomes the last entry, after the unexpired ones without the
first of them, as many as there is no room for. -/
theorem storeIn_eq (h : key ∉ cache.map (·.1)) : storeIn limits now key found cache =
    (unexpired now cache).drop ((unexpired now cache).length + 1 - limits.capacity) ++
      [(key, ⟨now.add limits.ttl, found⟩)] := by
  have hkey : key ∉ (unexpired now cache).map (·.1) :=
    fun hmem => h (((unexpired_sublist _ _).map _).subset hmem)
  have hpos := limits.capacity_pos
  show (erase key (unexpired now cache) ++ [_]).drop
    ((erase key (unexpired now cache) ++ [_]).length - _) = _
  rw [erase_of_not_mem hkey, List.length_append, List.length_singleton,
    List.drop_append_of_le_length (by omega)]

/-! ## One entry for a key, and not too many -/

/-- Each key has one entry, and there are no more than there is room for. -/
structure Bounded (limits : ResolverLimits) (cache : List (String × CacheEntry)) : Prop where
  keys : (cache.map (·.1)).Nodup
  size : cache.length ≤ limits.capacity

theorem Bounded.sublist (h : Bounded limits cache) (hsub : cache'.Sublist cache) :
    Bounded limits cache' :=
  ⟨h.keys.sublist (hsub.map _), Nat.le_trans hsub.length_le h.size⟩

theorem Bounded.storeIn (h : Bounded limits cache) (hkey : key ∉ cache.map (·.1)) :
    Bounded limits (storeIn limits now key found cache) := by
  have hpos := limits.capacity_pos
  have hsub := drop_unexpired_sublist now cache
    ((unexpired now cache).length + 1 - limits.capacity)
  rw [storeIn_eq hkey]
  constructor
  · rw [List.map_append, List.map_singleton]
    refine List.nodup_append.2 ⟨h.keys.sublist (hsub.map _), List.nodup_singleton _, ?_⟩
    intro k hk k' hk' heq
    rw [List.mem_singleton] at hk'
    subst heq hk'
    exact hkey ((hsub.map _).subset hk)
  · rw [List.length_append, List.length_drop, List.length_singleton]
    omega

namespace Traffic

variable {t : Traffic}

/-- All that a step can do to the cache. -/
theorem cache_step (limits : ResolverLimits) (t : Traffic) (s : Step) :
    (t.step limits s).resolver.cache = t.resolver.cache ∨
    (∃ host filter, s = .resolve host filter ∧ Asks limits host t.resolver ∧
      (t.step limits s).resolver.cache =
        searched limits (keyOf (nameOf host)) t.resolver.cache) ∨
    (∃ key reply lookup found, s = .complete key reply ∧ outcomeOf reply = .ok found ∧
      t.resolver.pending.lookup key = some lookup ∧ limits.ttl.le Binary64.zero = false ∧
      (t.step limits s).resolver.now = t.resolver.now ∧
      (t.step limits s).resolver.cache =
        storeIn limits t.resolver.now key found t.resolver.cache) ∨
    (s = .close ∧ (t.step limits s).resolver.cache = []) := by
  cases s with
  | resolve host filter =>
    rcases begin_cases limits host filter t with ⟨-, result, heq⟩ |
      ⟨hasks, ⟨lookup, -, heq⟩ | ⟨lookup, -, -, heq⟩⟩ <;> rw [step, heq]
    · exact Or.inl rfl
    · exact Or.inr (Or.inl ⟨host, filter, rfl, hasks, rfl⟩)
    · exact Or.inr (Or.inl ⟨host, filter, rfl, hasks, rfl⟩)
  | complete key reply =>
    rcases complete_cases limits key reply t with ⟨-, heq⟩ | ⟨lookup, hl, heq⟩ <;> rw [step, heq]
    · exact Or.inl rfl
    · rcases houtcome : outcomeOf reply with fault | found
      · exact Or.inl rfl
      · rcases httl : limits.ttl.le Binary64.zero with _ | _
        · exact Or.inr (Or.inr (Or.inl ⟨key, reply, lookup, found, rfl, houtcome, hl, rfl,
            finish_now _, finish_cache_of_ok httl found⟩))
        · exact Or.inl (by simp [finish, settle, store, httl])
  | giveUp number =>
    rcases giveUp_cases limits number t with heq | ⟨w, -, -, -, heq⟩ <;> rw [step, heq] <;>
      exact Or.inl rfl
  | advance now =>
    rcases advance_cases now t with heq | ⟨-, heq⟩ <;> rw [step, heq] <;> exact Or.inl rfl
  | close => exact Or.inr (Or.inr (Or.inr ⟨rfl, rfl⟩))

theorem Flights.not_mem_cacheKeys (h : Flights limits t) {lookup : Lookup}
    (hl : t.resolver.pending.lookup key = some lookup) : key ∉ t.resolver.cacheKeys := by
  obtain ⟨hrunning, rfl⟩ := h.lookup_eq_some_iff.1 hl
  intro hmem
  obtain ⟨e, he, heq⟩ := List.mem_map.1 hmem
  exact (h.cache e he).2 lookup hrunning heq.symm

theorem bounded_step (hflights : Flights limits t) (h : Bounded limits t.resolver.cache)
    (s : Step) : Bounded limits (t.step limits s).resolver.cache := by
  rcases cache_step limits t s with heq | ⟨host, filter, -, -, heq⟩ |
    ⟨key, reply, lookup, found, -, -, hl, -, -, heq⟩ | ⟨-, heq⟩ <;> rw [heq]
  · exact h
  · exact h.sublist searched_sublist
  · exact h.storeIn (hflights.not_mem_cacheKeys hl)
  · exact h.sublist (List.nil_sublist _)

theorem bounded_run (hflights : Flights limits t) (h : Bounded limits t.resolver.cache)
    (steps : List Step) : Bounded limits (t.run limits steps).resolver.cache :=
  (run_induction (p := fun t => Flights limits t ∧ Bounded limits t.resolver.cache)
    (fun _ s h => ⟨flights_step h.1 s, bounded_step h.1 h.2 s⟩) steps ⟨hflights, h⟩).2

theorem bounded_startingAt (s : Surroundings) (start : Binary64) :
    Bounded limits (startingAt s start).resolver.cache :=
  ⟨List.nodup_nil, Nat.zero_le _⟩

end Traffic

/-! ## The order of the entries -/

/-- The entries stand in the order in which they expire, and none expires later than an answer that
is kept now. -/
structure Ordered (limits : ResolverLimits) (r : Resolver) : Prop where
  clock : r.now ≠ .nan
  sorted : r.cache.Pairwise fun e e' => e.2.expires.le e'.2.expires = true
  newest : ∀ e ∈ r.cache, e.2.expires.le (r.now.add limits.ttl) = true

section Split

variable {α : Type} {p : α → Bool} {xs : List α}

/-- Where all that comes before an element of a class is in it as well, the class comes first. -/
theorem filter_append_filter_not (h : xs.Pairwise fun x y => p y = true → p x = true) :
    (xs.filter p ++ xs.filter fun x => !p x) = xs := by
  induction xs with
  | nil => rfl
  | cons x xs ih =>
    obtain ⟨hx, hxs⟩ := List.pairwise_cons.1 h
    rcases hp : p x with _ | _
    · have hnone : ∀ y ∈ xs, p y = false := fun y hy => by
        rcases hy' : p y with _ | _
        · rfl
        · exact absurd (hx y hy hy') (by simp [hp])
      rw [List.filter_eq_nil_iff.2 (by simpa [hp] using hnone), List.nil_append,
        List.filter_eq_self.2 (by simpa [hp] using hnone)]
    · simp [hp, ih hxs]

end Split

namespace Ordered

variable {r : Resolver}

theorem expired_first (h : Ordered limits r) :
    (r.cache.filter fun e => e.2.expires.lt r.now) ++ unexpired r.now r.cache = r.cache :=
  filter_append_filter_not (h.sorted.imp fun hle hlt => Binary64.lt_of_le_of_lt hle hlt)

section

variable (hpos : Binary64.zero.lt limits.ttl = true) (hfin : limits.ttl.isInfinite = false)

include hpos hfin

theorem sum_ne_nan (h : Ordered limits r) : r.now.add limits.ttl ≠ .nan :=
  Binary64.add_ne_nan h.clock (Binary64.ne_nan_of_lt hpos).2 hfin

/-- An answer that is kept now has not expired. -/
theorem not_expired (h : Ordered limits r) : (r.now.add limits.ttl).lt r.now = false :=
  Binary64.not_lt_of_le (Binary64.le_add (by rw [Binary64.le, hpos, Bool.true_or])
    (h.sum_ne_nan hpos hfin))

theorem sublist (h : Ordered limits r) {r' : Resolver}
    (hnow : r'.now = r.now ∨ r.now.le r'.now = true) (hsub : r'.cache.Sublist r.cache) :
    Ordered limits r' where
  clock := by
    rcases hnow with hnow | hnow
    · rw [hnow]
      exact h.clock
    · exact (Binary64.ne_nan_of_le hnow).2
  sorted := h.sorted.sublist hsub
  newest e he := by
    have hnewest := h.newest e (hsub.subset he)
    rcases hnow with hnow | hnow
    · rwa [hnow]
    · exact Binary64.le_trans hnewest
        (Binary64.add_le_add_right (Binary64.ne_nan_of_lt hpos).2 hfin hnow)

theorem storeIn (h : Ordered limits r) {r' : Resolver} (hkey : key ∉ r.cache.map (·.1))
    (hnow : r'.now = r.now) (hcache : r'.cache = storeIn limits r.now key found r.cache) :
    Ordered limits r' := by
  have hsub := drop_unexpired_sublist r.now r.cache
    ((unexpired r.now r.cache).length + 1 - limits.capacity)
  have hlast := Binary64.le_self (h.sum_ne_nan hpos hfin)
  rw [storeIn_eq hkey] at hcache
  refine ⟨by rw [hnow]; exact h.clock, ?_, fun e he => ?_⟩
  · rw [hcache]
    refine List.pairwise_append.2 ⟨h.sorted.sublist hsub, List.pairwise_singleton _ _, ?_⟩
    intro e he e' he'
    rw [List.mem_singleton.1 he']
    exact h.newest e (hsub.subset he)
  · rw [hcache, List.mem_append, List.mem_singleton] at he
    rw [hnow]
    rcases he with he | rfl
    · exact h.newest e (hsub.subset he)
    · exact hlast

end

end Ordered

namespace Traffic

variable {t : Traffic} (hpos : Binary64.zero.lt limits.ttl = true)
  (hfin : limits.ttl.isInfinite = false)

include hpos hfin

theorem ordered_step (hflights : Flights limits t) (h : Ordered limits t.resolver) (s : Step) :
    Ordered limits (t.step limits s).resolver := by
  obtain ⟨-, hnow⟩ := step_forward limits t s
  rcases cache_step limits t s with heq | ⟨host, filter, -, -, heq⟩ |
    ⟨key, reply, lookup, found, -, -, hl, -, hnow, heq⟩ | ⟨-, heq⟩
  · exact h.sublist hpos hfin hnow (by rw [heq])
  · exact h.sublist hpos hfin hnow (by rw [heq]; exact searched_sublist)
  · exact h.storeIn hpos hfin (hflights.not_mem_cacheKeys hl) hnow heq
  · exact h.sublist hpos hfin hnow (by rw [heq]; exact List.nil_sublist _)

theorem ordered_run (hflights : Flights limits t) (h : Ordered limits t.resolver)
    (steps : List Step) : Ordered limits (t.run limits steps).resolver :=
  (run_induction (p := fun t => Flights limits t ∧ Ordered limits t.resolver)
    (fun _ s h => ⟨flights_step h.1 s, ordered_step hpos hfin h.1 h.2 s⟩) steps ⟨hflights, h⟩).2

end Traffic

/-! ## What keeping an answer takes away -/

/-- The answer to a key becomes the youngest entry. The entries that have expired go, and as many of
the others as there is no room for, which are the next to expire. -/
structure Stored (limits : ResolverLimits) (key : String) (found : List Address)
    (expired evicted rest : List (String × CacheEntry)) (r r' : Resolver) : Prop where
  clock : r'.now = r.now
  before : r.cache = expired ++ evicted ++ rest
  after : r'.cache = rest ++ [(key, ⟨r.now.add limits.ttl, found⟩)]
  past : ∀ e ∈ expired, e.2.expires.lt r.now = true
  present : ∀ e ∈ evicted, e.2.expires.lt r.now = false
  fresh : ∀ e ∈ r'.cache, e.2.expires.lt r'.now = false
  needed : evicted.length = (evicted ++ rest).length + 1 - limits.capacity
  soonest : ∀ e ∈ evicted, ∀ e' ∈ r'.cache, e.2.expires.le e'.2.expires = true
  dropped : ∀ k, k ∈ r.cacheKeys ∧ k ∉ r'.cacheKeys ↔ k ∈ (expired ++ evicted).map (·.1)

/-- The names before `ys` are those that are gone once a new one is put behind `ys`. -/
theorem mem_and_not_mem_append_iff {xs ys : List String} (h : (xs ++ ys).Nodup)
    (hkey : key ∉ xs ++ ys) (k : String) : k ∈ xs ++ ys ∧ k ∉ ys ++ [key] ↔ k ∈ xs := by
  rw [List.mem_append, List.mem_append, List.mem_singleton]
  constructor
  · rintro ⟨hk | hk, hgone⟩
    · exact hk
    · exact absurd (Or.inl hk) hgone
  · intro hk
    refine ⟨Or.inl hk, ?_⟩
    rintro (hk' | rfl)
    · exact (List.nodup_append.1 h).2.2 k hk k hk' rfl
    · exact hkey (List.mem_append_left _ hk)

theorem Ordered.stored {r r' : Resolver} (h : Ordered limits r)
    (hpos : Binary64.zero.lt limits.ttl = true) (hfin : limits.ttl.isInfinite = false)
    (hkeys : r.cacheKeys.Nodup) (hkey : key ∉ r.cacheKeys) (hnow : r'.now = r.now)
    (hcache : r'.cache = Resolver.storeIn limits r.now key found r.cache) :
    ∃ expired evicted rest, Stored limits key found expired evicted rest r r' := by
  rw [storeIn_eq hkey] at hcache
  generalize hlive : unexpired r.now r.cache = live at hcache
  generalize hcount : live.length + 1 - limits.capacity = count at hcache
  have hfresh : ∀ e ∈ live, e.2.expires.lt r.now = false := by
    rw [← hlive]
    exact fun e he => (mem_unexpired.1 he).2
  obtain ⟨expired, hpast, hsplit⟩ : ∃ expired, (∀ e ∈ expired, e.2.expires.lt r.now = true) ∧
      r.cache = expired ++ live.take count ++ live.drop count := by
    refine ⟨r.cache.filter fun e => e.2.expires.lt r.now, fun e he => (List.mem_filter.1 he).2, ?_⟩
    rw [List.append_assoc, List.take_append_drop, ← hlive, h.expired_first]
  -- whatever is left stands after what goes, and so expires later
  have hsorted := h.sorted
  rw [hsplit, List.pairwise_append] at hsorted
  refine ⟨expired, live.take count, live.drop count, hnow, hsplit, hcache, hpast,
    fun e he => hfresh e (List.mem_of_mem_take he), fun e he => ?_, ?_, fun e he e' he' => ?_,
    fun k => ?_⟩
  · rw [hcache, List.mem_append, List.mem_singleton] at he
    rw [hnow]
    rcases he with he | rfl
    · exact hfresh e (List.mem_of_mem_drop he)
    · exact h.not_expired hpos hfin
  · have hroom := limits.capacity_pos
    rw [List.take_append_drop, List.length_take]
    omega
  · rw [hcache, List.mem_append, List.mem_singleton] at he'
    rcases he' with he' | rfl
    · exact hsorted.2.2 e (List.mem_append_right _ he) e' he'
    · refine h.newest e ?_
      rw [hsplit]
      exact List.mem_append_left _ (List.mem_append_right _ he)
  · have hbefore : r.cacheKeys =
        (expired ++ live.take count).map (·.1) ++ (live.drop count).map (·.1) := by
      rw [cacheKeys, hsplit, List.map_append]
    have hafter : r'.cacheKeys = (live.drop count).map (·.1) ++ [key] := by
      rw [cacheKeys, hcache, List.map_append, List.map_singleton]
    rw [hbefore] at hkeys hkey ⊢
    rw [hafter]
    exact mem_and_not_mem_append_iff hkeys hkey k

namespace Traffic

/-! ## The names that are kept -/

variable {t : Traffic}

theorem queries_step (limits : ResolverLimits) (t : Traffic) (s : Step) :
    (t.step limits s).resolver.queries = t.resolver.queries ∨
    ∃ host filter, s = .resolve host filter ∧
      (t.step limits s).resolver.queries = t.resolver.queries ++ [nameOf host] := by
  cases s with
  | resolve host filter =>
    rcases begin_cases limits host filter t with ⟨-, result, heq⟩ |
      ⟨-, ⟨lookup, -, heq⟩ | ⟨lookup, -, -, heq⟩⟩ <;> rw [step, heq]
    · exact Or.inl rfl
    · exact Or.inl rfl
    · exact Or.inr ⟨host, filter, rfl, rfl⟩
  | complete key reply =>
    rcases complete_cases limits key reply t with ⟨-, heq⟩ | ⟨lookup, -, heq⟩ <;> rw [step, heq]
    · exact Or.inl rfl
    · exact Or.inl (finish_queries _)
  | giveUp number =>
    rcases giveUp_cases limits number t with heq | ⟨w, -, -, -, heq⟩ <;> rw [step, heq] <;>
      exact Or.inl rfl
  | advance now =>
    rcases advance_cases now t with heq | ⟨-, heq⟩ <;> rw [step, heq] <;> exact Or.inl rfl
  | close => exact Or.inl rfl

/-- Whatever is asked for is the name of a host that a call is for. -/
theorem mem_queries_run {name : String} (steps : List Step)
    (h : name ∈ (t.run limits steps).resolver.queries) : name ∈ t.resolver.queries ∨
      ∃ host filter, .resolve host filter ∈ steps ∧ nameOf host = name := by
  induction steps generalizing t with
  | nil => exact Or.inl h
  | cons s steps ih =>
    rw [run_cons] at h
    rcases ih h with h | ⟨host, filter, hmem, hname⟩
    · rcases queries_step limits t s with heq | ⟨host, filter, rfl, heq⟩ <;> rw [heq] at h
      · exact Or.inl h
      · rcases List.mem_append.1 h with h | h
        · exact Or.inl h
        · exact Or.inr ⟨host, filter, List.mem_cons_self, (List.mem_singleton.1 h).symm⟩
    · exact Or.inr ⟨host, filter, List.mem_cons_of_mem _ hmem, hname⟩

theorem mem_queries_of_mem_cache (hflights : Flights limits t) (hsound : Sound limits t)
    (h : key ∈ t.resolver.cacheKeys) : ∃ name ∈ t.resolver.queries, keyOf name = key := by
  -- the entry is the answer of a look-up, which was started for a name that was asked for
  obtain ⟨⟨k, entry⟩, he, rfl⟩ := List.mem_map.1 h
  obtain ⟨lookup, stored, -, -, before, after, hhistory, hkey, -⟩ := hsound.cache k entry he
  have hended : lookup ∈ endedIn t.history := by
    rw [mem_endedIn_iff, hhistory]
    exact ⟨_, List.mem_append_right _ List.mem_cons_self, rfl⟩
  have hstarted := hflights.ended hended
  rw [hflights.started, List.mem_mapIdx] at hstarted
  obtain ⟨i, hi, rfl⟩ := hstarted
  exact ⟨_, List.getElem_mem hi, hkey⟩

/-- What the cache is like after steps: there is room for its names, each of which is there once and
was called for, and the entries stand in the order in which they expire. One more answer takes away
what has expired, and else only as much as it has to. -/
structure WellKept (limits : ResolverLimits) (steps : List Step) (t : Traffic) : Prop where
  size : t.resolver.cacheKeys.length ≤ limits.capacity
  keys : t.resolver.cacheKeys.Nodup
  hosts : ∀ key ∈ t.resolver.cacheKeys, ∃ host filter, .resolve host filter ∈ steps ∧
    keyOf (nameOf host) = key
  sorted : t.resolver.cache.Pairwise fun e e' => e.2.expires.le e'.2.expires = true
  stores : ∀ key lookup reply found, t.resolver.pending.lookup key = some lookup →
    outcomeOf reply = .ok found → ∃ expired evicted rest, Stored limits key found expired evicted
      rest t.resolver (t.step limits (.complete key reply)).resolver

/-- Whatever happens to a resolver that keeps answers for a positive finite time, and whatever its
clock shows at first: its cache is well kept. -/
theorem cache_wellKept (limits : ResolverLimits) (hpos : Binary64.zero.lt limits.ttl = true)
    (hfin : limits.ttl.isInfinite = false) (s : Surroundings) (start : Binary64)
    (hstart : start ≠ .nan) (steps : List Step) :
    WellKept limits steps ((startingAt s start).run limits steps) := by
  have hbegun := flights_startingAt limits s start
  have hflights := flights_run steps hbegun
  have hnew : Sound limits (startingAt s start) := sound_ofResolver hstart rfl rfl
  have hsound := sound_run hpos hfin steps hnew
  have hbounded := bounded_run hbegun (bounded_startingAt s start) steps
  have hordered : Ordered limits ((startingAt s start).run limits steps).resolver :=
    ordered_run hpos hfin hbegun ⟨hstart, List.Pairwise.nil, by simp [startingAt, ofResolver,
      ofSurroundings]⟩ steps
  refine ⟨by rw [cacheKeys, List.length_map]; exact hbounded.size, hbounded.keys,
    fun key hkey => ?_, hordered.sorted, fun key lookup reply found hl houtcome => ?_⟩
  · obtain ⟨name, hname, rfl⟩ := mem_queries_of_mem_cache hflights hsound hkey
    rcases mem_queries_run steps hname with hname | ⟨host, filter, hmem, rfl⟩
    · cases hname
    · exact ⟨host, filter, hmem, rfl⟩
  · have hkey := hflights.not_mem_cacheKeys hl
    rw [step, complete_of_some limits reply hl, houtcome]
    refine hordered.stored hpos hfin hbounded.keys hkey (finish_now _) ?_
    exact finish_cache_of_ok (Binary64.not_le_of_lt hpos) found

/-- Answers are kept for a minute, and there is room for two. -/
def twoPlaces : ResolverLimits := { minute with capacity := 2, capacity_pos := by decide }

/-- The third answer is yet to come. -/
def threeNames : List Step :=
  [.resolve " A.example" .every, .complete "a.example" (.rows [(some .v4, "10.0.0.1")]),
    .advance (Binary64.ofInt 7), .resolve "b.example" .every,
    .complete "b.example" (.rows [(some .v4, "10.0.0.2")]), .resolve "c.example" .every]

/-- The first answer makes room for the third one. -/
theorem cache_wellKept_threeNames : Binary64.zero.lt twoPlaces.ttl = true ∧
    twoPlaces.ttl.isInfinite = false ∧ Binary64.zero ≠ .nan ∧
    WellKept twoPlaces threeNames
      ((startingAt ⟨[], [], [], "", []⟩ Binary64.zero).run twoPlaces threeNames) ∧
    (((startingAt ⟨[], [], [], "", []⟩ Binary64.zero).run twoPlaces threeNames).step twoPlaces
      (.complete "c.example" (.rows []))).resolver.cacheKeys = ["b.example", "c.example"] := by
  have hpos : Binary64.zero.lt twoPlaces.ttl = true := by decide +kernel
  have hfin : twoPlaces.ttl.isInfinite = false := by decide +kernel
  have hstart : Binary64.zero ≠ .nan := by decide
  exact ⟨hpos, hfin, hstart, cache_wellKept twoPlaces hpos hfin _ _ hstart threeNames,
    by decide +kernel⟩

end Traffic

end PacScript.Resolver
