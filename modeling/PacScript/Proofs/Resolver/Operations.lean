import PacScript.Resolver.Basic

/-!
# What the operations of a resolver do

One lemma for each operation says what it leaves in the state. A call begins in one of four ways
(`start_cases`): it fails, its host is an address, a kept answer serves it, or it is submitted.
-/

namespace PacScript.Resolver

section Rows

variable {α : Type} {key k : String} {rows : List (String × α)}

theorem mem_of_lookup {x : α} (h : rows.lookup k = some x) : (k, x) ∈ rows := by
  obtain ⟨before, after, heq, -⟩ := List.lookup_eq_some_iff.1 h
  simp [heq]

theorem not_mem_of_lookup (h : rows.lookup k = none) : k ∉ rows.map (·.1) := by
  intro hmem
  obtain ⟨e, he, rfl⟩ := List.mem_map.1 hmem
  simpa using List.lookup_eq_none_iff.1 h e he

theorem lookup_of_mem (h : (rows.map (·.1)).Nodup) {x : α} (hmem : (k, x) ∈ rows) :
    rows.lookup k = some x := by
  obtain ⟨before, after, rfl⟩ := List.append_of_mem hmem
  rw [List.map_append, List.map_cons, List.nodup_append] at h
  refine List.lookup_eq_some_iff.2 ⟨before, after, rfl, fun e he => ?_⟩
  simpa using (h.2.2 e.1 (List.mem_map_of_mem he) k List.mem_cons_self).symm

/-- Rows are found as before among those whose keys are of a class. -/
theorem lookup_filter (p : String → Bool) (k : String) :
    (rows.filter fun e => p e.1).lookup k = if p k then rows.lookup k else none := by
  induction rows with
  | nil => simp
  | cons e rows ih =>
    obtain ⟨k', x⟩ := e
    by_cases hk : k = k'
    · subst hk
      rcases hp : p k with _ | _ <;> simp [hp, ih]
    · have hne : (k == k') = false := by simpa using hk
      rcases hp : p k' with _ | _ <;> simp [List.lookup_cons, hne, hp, ih]

theorem lookup_filter_self : (rows.filter fun e => e.1 != key).lookup key = none := by
  rw [lookup_filter (· != key)]
  simp

theorem lookup_filter_of_ne (h : k ≠ key) :
    (rows.filter fun e => e.1 != key).lookup k = rows.lookup k := by
  rw [lookup_filter (· != key)]
  simp [h]

end Rows

variable {limits : ResolverLimits} {key name : String} {r : Resolver}

/-! ## Keeping answers -/

theorem erase_of_not_mem {cache : List (String × CacheEntry)} (h : key ∉ cache.map (·.1)) :
    erase key cache = cache := by
  refine List.filter_eq_self.2 fun e he => ?_
  rw [bne_iff_ne]
  rintro rfl
  exact h (List.mem_map_of_mem he)

theorem mem_storeIn {now : Binary64} {found : List Address} {cache : List (String × CacheEntry)}
    {e : String × CacheEntry} (h : e ∈ storeIn limits now key found cache) :
    e = (key, ⟨now.add limits.ttl, found⟩) ∨ e ∈ cache ∧ e.1 ≠ key := by
  have h := List.mem_of_mem_drop h
  rw [List.mem_append, List.mem_singleton] at h
  rcases h with h | h
  · simp only [erase, List.mem_filter, bne_iff_ne] at h
    exact Or.inr ⟨h.1.1, h.2⟩
  · exact Or.inl h

theorem mem_cacheKeys {entry : CacheEntry} (h : (key, entry) ∈ r.cache) : key ∈ r.cacheKeys :=
  List.mem_map.2 ⟨(key, entry), h, rfl⟩

/-- An entry that answers for its key. -/
def Live (limits : ResolverLimits) (r : Resolver) (key : String) (entry : CacheEntry) : Prop :=
  limits.ttl.le Binary64.zero = false ∧ r.cache.lookup key = some entry ∧
    entry.expires.lt r.now = false

/-- The cache once a key is found to have no answer: an expired entry of the key is gone. Where
answers are not kept, none is looked for. -/
def searched (limits : ResolverLimits) (key : String) (cache : List (String × CacheEntry)) :
    List (String × CacheEntry) :=
  if limits.ttl.le Binary64.zero then cache else erase key cache

section Searched

variable {cache : List (String × CacheEntry)} {e : String × CacheEntry}

theorem searched_of_keeps (h : limits.ttl.le Binary64.zero = false) :
    searched limits key cache = erase key cache := by
  simp [searched, h]

theorem searched_sublist : (searched limits key cache).Sublist cache := by
  unfold searched
  split
  · exact List.Sublist.refl _
  · exact List.filter_sublist

theorem ne_of_mem_searched (h : limits.ttl.le Binary64.zero = false)
    (he : e ∈ searched limits key cache) : e.1 ≠ key := by
  rw [searched_of_keeps h] at he
  simpa using (List.mem_filter.1 he).2

end Searched

def missed (limits : ResolverLimits) (key : String) (r : Resolver) : Resolver :=
  { r with cache := searched limits key r.cache }

@[simp] theorem missed_now : (r.missed limits key).now = r.now := rfl

@[simp] theorem missed_surroundings : (r.missed limits key).surroundings = r.surroundings := rfl

@[simp] theorem missed_queries : (r.missed limits key).queries = r.queries := rfl

@[simp] theorem missed_pending : (r.missed limits key).pending = r.pending := rfl

@[simp] theorem missed_cache : (r.missed limits key).cache = searched limits key r.cache := rfl

/-- A key has a live entry, whose answer is given, or it has none, and is left without any. -/
theorem cached_cases (limits : ResolverLimits) (key : String) (r : Resolver) :
    (∃ entry, Live limits r key entry ∧ r.cached limits key = (some entry.found, r)) ∨
    ((∀ entry, ¬Live limits r key entry) ∧ r.cached limits key = (none, r.missed limits key)) := by
  unfold cached missed searched
  by_cases httl : limits.ttl.le Binary64.zero = true
  · refine Or.inr ⟨fun entry h => ?_, by rw [if_pos httl, if_pos httl]⟩
    rw [h.1] at httl
    exact absurd httl Bool.false_ne_true
  · rw [if_neg httl, if_neg httl]
    have httl : limits.ttl.le Binary64.zero = false := by simpa using httl
    rcases hl : r.cache.lookup key with _ | entry
    · refine Or.inr ⟨fun entry h => ?_, by rw [erase_of_not_mem (not_mem_of_lookup hl)]⟩
      have hsome := h.2.1
      rw [hl] at hsome
      cases hsome
    · rcases hexp : entry.expires.lt r.now with _ | _
      · exact Or.inl ⟨entry, ⟨httl, hl, hexp⟩, by simp [hexp]⟩
      · refine Or.inr ⟨fun entry' h => ?_, by simp [hexp]⟩
        obtain rfl : entry = entry' := Option.some.inj (hl.symm.trans h.2.1)
        rw [h.2.2] at hexp
        cases hexp

/-! ## The ends of look-ups -/

@[simp] theorem finish_now (outcome : Except Fault (List Address)) :
    (r.finish limits key outcome).now = r.now := by
  cases outcome <;> simp [finish, settle, store, apply_ite]

@[simp] theorem finish_surroundings (outcome : Except Fault (List Address)) :
    (r.finish limits key outcome).surroundings = r.surroundings := by
  cases outcome <;> simp [finish, settle, store, apply_ite]

@[simp] theorem finish_queries (outcome : Except Fault (List Address)) :
    (r.finish limits key outcome).queries = r.queries := by
  cases outcome <;> simp [finish, settle, store, apply_ite]

@[simp] theorem finish_pending (outcome : Except Fault (List Address)) :
    (r.finish limits key outcome).pending = r.pending.filter fun e => e.1 != key := by
  cases outcome <;> simp [finish, settle, store, apply_ite]

theorem finish_cache_of_error (fault : Fault) :
    (r.finish limits key (.error fault)).cache = r.cache := rfl

theorem finish_cache_of_ok (h : limits.ttl.le Binary64.zero = false) (found : List Address) :
    (r.finish limits key (.ok found)).cache = storeIn limits r.now key found r.cache := by
  simp [finish, settle, store, h]

/-- What is kept after the end of a look-up was kept before, or it is the answer. -/
theorem mem_cache_finish {outcome : Except Fault (List Address)} {e : String × CacheEntry}
    (h : e ∈ (r.finish limits key outcome).cache) :
    e ∈ r.cache ∨ limits.ttl.le Binary64.zero = false ∧ e.1 = key := by
  rcases outcome with fault | found
  · exact Or.inl h
  · rcases httl : limits.ttl.le Binary64.zero with _ | _
    · rw [finish_cache_of_ok httl] at h
      rcases mem_storeIn h with rfl | ⟨h, -⟩
      · exact Or.inr ⟨rfl, rfl⟩
      · exact Or.inl h
    · simp only [finish, settle, store, httl, if_true] at h
      exact Or.inl h

/-! ## The beginnings of calls -/

/-- The state in which a new look-up is pending. -/
def submitted (key name : String) (r : Resolver) : Resolver :=
  { r with
    queries := r.queries ++ [name]
    pending := r.pending ++ [(key, ⟨r.queries.length, name⟩)] }

@[simp] theorem length_queries_submitted :
    (r.submitted key name).queries.length = r.queries.length + 1 := by
  simp [submitted]

theorem lookup_submitted {k : String} : (r.submitted key name).pending.lookup k =
    (r.pending.lookup k).or (if k == key then some ⟨r.queries.length, name⟩ else none) := by
  rw [submitted, List.lookup_append]
  by_cases hk : k = key
  · simp [hk]
  · have hk : (k == key) = false := by simpa using hk
    simp [List.lookup_cons, hk]

theorem submit_of_some {lookup : Lookup} (h : r.pending.lookup key = some lookup) :
    r.submit key name = (.joins lookup, r) := by
  simp [submit, h]

theorem submit_of_none (h : r.pending.lookup key = none) :
    r.submit key name = (.starts ⟨r.queries.length, name⟩, r.submitted key name) := by
  simp [submit, h, submitted]

theorem start_cases (limits : ResolverLimits) (host : String) (r : Resolver) :
    (nameOf host = "" ∧ r.start limits host = (.fails (.resolution .emptyName), r)) ∨
    (∃ a, Address.parse? (nameOf host) = some a ∧ r.start limits host = (.found [a], r)) ∨
    (nameOf host ≠ "" ∧ Address.parse? (nameOf host) = none ∧
      ∃ entry, Live limits r (keyOf (nameOf host)) entry ∧
        r.start limits host = (.found entry.found, r)) ∨
    (nameOf host ≠ "" ∧ Address.parse? (nameOf host) = none ∧
      (∀ entry, ¬Live limits r (keyOf (nameOf host)) entry) ∧
        r.start limits host = submit (keyOf (nameOf host)) (nameOf host)
          (r.missed limits (keyOf (nameOf host)))) := by
  unfold start
  by_cases hempty : nameOf host = ""
  · exact Or.inl ⟨hempty, by simp [hempty]⟩
  · rw [if_neg (by simpa using hempty)]
    rcases hparse : Address.parse? (nameOf host) with _ | a
    · rcases cached_cases limits (keyOf (nameOf host)) r with
        ⟨entry, hlive, hc⟩ | ⟨hnone, hc⟩
      · exact Or.inr (Or.inr (Or.inl ⟨hempty, rfl, entry, hlive, by simp [hc]⟩))
      · exact Or.inr (Or.inr (Or.inr ⟨hempty, rfl, hnone, by simp [hc]⟩))
    · exact Or.inr (Or.inl ⟨a, rfl, rfl⟩)

theorem start_of_address {host : String} {a : Address}
    (hparse : Address.parse? (nameOf host) = some a) :
    r.start limits host = (.found [a], r) := by
  have hname : nameOf host ≠ "" := by
    intro hname
    have hempty : Address.parse? "" = none := by decide +kernel
    rw [hname, hempty] at hparse
    cases hparse
  simp [start, hname, hparse]

theorem start_of_live {host : String} (hname : nameOf host ≠ "")
    (hparse : Address.parse? (nameOf host) = none) {entry : CacheEntry}
    (hlive : Live limits r (keyOf (nameOf host)) entry) :
    r.start limits host = (.found entry.found, r) := by
  rcases start_cases limits host r with ⟨hempty, -⟩ | ⟨a, haddress, -⟩ |
    ⟨-, -, entry', hlive', hs⟩ | ⟨-, -, hnone, -⟩
  · exact absurd hempty hname
  · rw [hparse] at haddress
    cases haddress
  · obtain rfl : entry = entry' := Option.some.inj (hlive.2.1.symm.trans hlive'.2.1)
    exact hs
  · exact absurd hlive (hnone entry)

theorem submit_frame {outset : Outset} {r' : Resolver} (h : r.submit key name = (outset, r')) :
    r'.now = r.now ∧ r'.surroundings = r.surroundings ∧ r'.cache = r.cache ∧
      ∀ lookup, outset = .joins lookup ∨ outset = .starts lookup →
        r'.pending.lookup key = some lookup := by
  rcases hl : r.pending.lookup key with _ | l
  · rw [submit_of_none hl] at h
    cases h
    refine ⟨rfl, rfl, rfl, fun lookup hlookup => ?_⟩
    obtain rfl : ⟨r.queries.length, name⟩ = lookup := by simpa using hlookup
    simp [lookup_submitted, hl]
  · rw [submit_of_some hl] at h
    cases h
    refine ⟨rfl, rfl, rfl, fun lookup hlookup => ?_⟩
    obtain rfl : l = lookup := by simpa using hlookup
    exact hl

/-- A call begins without time passing, and the look-up that it waits for is pending for its key. -/
theorem start_frame {host : String} {outset : Outset} {r' : Resolver}
    (h : r.start limits host = (outset, r')) :
    r'.now = r.now ∧ r'.surroundings = r.surroundings ∧
      ∀ lookup, outset = .joins lookup ∨ outset = .starts lookup →
        r'.pending.lookup (keyOf (nameOf host)) = some lookup := by
  rcases start_cases limits host r with ⟨-, hs⟩ | ⟨a, -, hs⟩ |
    ⟨-, -, entry, -, hs⟩ | ⟨-, -, -, hs⟩
  · cases hs.symm.trans h
    exact ⟨rfl, rfl, by simp⟩
  · cases hs.symm.trans h
    exact ⟨rfl, rfl, by simp⟩
  · cases hs.symm.trans h
    exact ⟨rfl, rfl, by simp⟩
  · obtain ⟨hnow, hsurroundings, -, hpending⟩ := submit_frame (hs.symm.trans h)
    exact ⟨hnow, hsurroundings, hpending⟩

end PacScript.Resolver
