import Mathlib.Data.List.DropRight
import PacScript.Proofs.Resolver.Cache
import PacScript.Proofs.Resolver.SingleFlight

/-!
# Which name makes room for another

The record of the uses of the cache (`usesOf`) has each answer that is kept and each that is given.
The entries stand in the order in which their answers were kept (`InTurn`), and an answer that is
given moves nothing.

So the name that makes room is the one whose answer was kept the longest time ago
(`evicts_least_recently_stored`). It is the least recently used one as well where no answer has been
given for it since, but not always (`evicts_recently_served`).
-/

namespace PacScript.Resolver

/-- A use of the cache: an answer to a key is kept, or given. -/
inductive CacheUse
  | stored (key : String)
  | served (key : String)
  deriving DecidableEq

def CacheUse.key : CacheUse → String
  | .stored key => key
  | .served key => key

/-- The uses after the last one of a kind. -/
def since (p : CacheUse → Bool) (uses : List CacheUse) : List CacheUse :=
  uses.rtakeWhile fun u => !p u

/-- The others have been used since this key was, which was used the longest time ago. -/
def LeastRecentlyUsed (key : String) (others : List String) (uses : List CacheUse) : Prop :=
  ∀ other ∈ others, ∃ u ∈ since (fun u => u.key == key) uses, u.key = other

/-- An answer to each of the others has been kept since the last one to the key was. -/
def LeastRecentlyStored (key : String) (others : List String) (uses : List CacheUse) : Prop :=
  ∀ other ∈ others, .stored other ∈ since (· == .stored key) uses

instance (key : String) (others : List String) (uses : List CacheUse) :
    Decidable (LeastRecentlyUsed key others uses) :=
  inferInstanceAs (Decidable (∀ other ∈ others, ∃ u ∈ since (fun u => u.key == key) uses,
    u.key = other))

theorem since_append (p : CacheUse → Bool) (uses : List CacheUse) (u : CacheUse) :
    since p (uses ++ [u]) = if p u then [] else since p uses ++ [u] := by
  rw [since, List.rtakeWhile_concat]
  rcases p u with _ | _ <;> rfl

/-- Where no answer was given since the last one was kept, that was the last use. -/
theorem since_key_eq {key : String} {uses : List CacheUse}
    (h : .served key ∉ since (· == .stored key) uses) :
    since (fun u => u.key == key) uses = since (· == .stored key) uses := by
  induction uses using List.reverseRecOn with
  | nil => rfl
  | append_singleton uses u ih =>
    rw [since_append] at h ⊢
    rw [since_append]
    by_cases hu : u = .stored key
    · simp [hu, CacheUse.key]
    · have hstored : ¬(u == .stored key) = true := by simpa using hu
      rw [if_neg hstored, List.mem_append, List.mem_singleton, not_or] at h
      have hkey : ¬(u.key == key) = true := by
        rw [beq_iff_eq]
        rintro rfl
        cases u with
        | stored k => exact hu rfl
        | served k => exact h.2 rfl
      rw [if_neg hkey, if_neg hstored, ih h.1]

theorem LeastRecentlyStored.used {key : String} {others : List String} {uses : List CacheUse}
    (h : LeastRecentlyStored key others uses)
    (hserved : .served key ∉ since (· == .stored key) uses) :
    LeastRecentlyUsed key others uses := by
  intro other hother
  rw [since_key_eq hserved]
  exact ⟨.stored other, h other hother, rfl⟩

namespace Traffic

variable {limits : ResolverLimits} {t : Traffic}

/-- The use that a step makes of the cache. -/
def useOf (limits : ResolverLimits) (t : Traffic) : Step → Option CacheUse
  | .resolve host _ =>
    if nameOf host != "" && (Address.parse? (nameOf host)).isNone &&
      isLive limits (keyOf (nameOf host)) t.resolver then some (.served (keyOf (nameOf host)))
    else none
  | .complete key reply =>
    match t.resolver.pending.lookup key, outcomeOf reply with
    | some _, .ok _ => if limits.ttl.le Binary64.zero then none else some (.stored key)
    | _, _ => none
  | _ => none

/-- The uses that steps make of the cache, in order. -/
def usesOf (limits : ResolverLimits) : Traffic → List Step → List CacheUse
  | _, [] => []
  | t, s :: steps => (useOf limits t s).toList ++ usesOf limits (t.step limits s) steps

theorem usesOf_append (steps more : List Step) : ∀ t : Traffic, usesOf limits t (steps ++ more) =
    usesOf limits t steps ++ usesOf limits (t.run limits steps) more := by
  induction steps with
  | nil => exact fun t => rfl
  | cons s steps ih =>
    intro t
    rw [List.cons_append, usesOf, ih, usesOf, List.append_assoc, run_cons]

/-- A step keeps an answer, and so uses its key, or else it can only take entries away. -/
theorem useOf_cases (limits : ResolverLimits) (t : Traffic) (s : Step) :
    ((∀ key, useOf limits t s ≠ some (.stored key)) ∧
      (t.step limits s).resolver.cache.Sublist t.resolver.cache) ∨
    ∃ key lookup found, useOf limits t s = some (.stored key) ∧
      t.resolver.pending.lookup key = some lookup ∧
      (t.step limits s).resolver.cache =
        storeIn limits t.resolver.now key found t.resolver.cache := by
  cases s with
  | resolve host filter =>
    refine Or.inl ⟨fun key => ?_, ?_⟩
    · simp only [useOf]
      split <;> simp
    · rcases cache_step limits t (.resolve host filter) with heq | ⟨host, filter, -, -, heq⟩ |
        ⟨_, _, _, _, hs, -⟩ | ⟨hs, -⟩
      · rw [heq]
      · rw [heq]
        exact searched_sublist
      · cases hs
      · cases hs
  | complete key reply =>
    rcases complete_cases limits key reply t with ⟨hnone, heq⟩ | ⟨lookup, hl, heq⟩ <;>
      rw [step, heq]
    · exact Or.inl ⟨by simp [useOf, hnone], List.Sublist.refl _⟩
    · rcases houtcome : outcomeOf reply with fault | found
      · exact Or.inl ⟨by simp [useOf, houtcome], List.Sublist.refl _⟩
      · rcases httl : limits.ttl.le Binary64.zero with _ | _
        · exact Or.inr ⟨key, lookup, found, by simp [useOf, hl, houtcome, httl], hl,
            finish_cache_of_ok httl found⟩
        · exact Or.inl ⟨by simp [useOf, hl, houtcome, httl], by simp [finish, settle, store, httl]⟩
  | giveUp number =>
    refine Or.inl ⟨by simp [useOf], ?_⟩
    rcases giveUp_cases limits number t with heq | ⟨w, -, -, -, heq⟩ <;> rw [step, heq]
  | advance now =>
    refine Or.inl ⟨by simp [useOf], ?_⟩
    rcases advance_cases now t with heq | ⟨-, heq⟩ <;> rw [step, heq]
  | close => exact Or.inl ⟨by simp [useOf], List.nil_sublist _⟩

/-- The answers that are kept were kept one after the other, as their entries stand. -/
structure InTurn (uses : List CacheUse) (cache : List (String × CacheEntry)) : Prop where
  stored : ∀ e ∈ cache, .stored e.1 ∈ uses
  turns : cache.Pairwise fun e e' => .stored e'.1 ∈ since (· == .stored e.1) uses

namespace InTurn

variable {uses : List CacheUse} {cache cache' : List (String × CacheEntry)} {key : String}

theorem sublist (h : InTurn uses cache) (hsub : cache'.Sublist cache) : InTurn uses cache' :=
  ⟨fun e he => h.stored e (hsub.subset he), h.turns.sublist hsub⟩

/-- The use of another key, or one that keeps no answer, changes nothing. -/
theorem append (h : InTurn uses cache) {u : CacheUse} (hu : ∀ e ∈ cache, u ≠ .stored e.1) :
    InTurn (uses ++ [u]) cache := by
  refine ⟨fun e he => List.mem_append_left _ (h.stored e he), h.turns.imp_of_mem ?_⟩
  intro e e' he _ hturn
  rw [since_append, if_neg (by simpa using hu e he)]
  exact List.mem_append_left _ hturn

/-- One more answer is kept, for a key that has none. -/
theorem keep (h : InTurn uses cache) (hkey : key ∉ cache.map (·.1)) (entry : CacheEntry) :
    InTurn (uses ++ [.stored key]) (cache ++ [(key, entry)]) := by
  have hother : ∀ e ∈ cache, CacheUse.stored key ≠ .stored e.1 := by
    intro e he heq
    cases heq
    exact hkey (List.mem_map_of_mem he)
  obtain ⟨hstored, hturns⟩ := h.append hother
  refine ⟨fun e he => ?_, List.pairwise_append.2 ⟨hturns, List.pairwise_singleton _ _, ?_⟩⟩
  · rcases List.mem_append.1 he with he | he
    · exact hstored e he
    · rw [List.mem_singleton.1 he]
      exact List.mem_append_right _ List.mem_cons_self
  · intro e he e' he'
    rw [List.mem_singleton.1 he', since_append, if_neg (by simpa using hother e he)]
    exact List.mem_append_right _ List.mem_cons_self

end InTurn

theorem inTurn_step {uses : List CacheUse} (hflights : Flights limits t)
    (h : InTurn uses t.resolver.cache) (s : Step) :
    InTurn (uses ++ (useOf limits t s).toList) (t.step limits s).resolver.cache := by
  rcases useOf_cases limits t s with ⟨hnone, hsub⟩ | ⟨key, lookup, found, huse, hl, heq⟩
  · rcases huse : useOf limits t s with _ | u
    · rw [Option.toList_none, List.append_nil]
      exact h.sublist hsub
    · refine (h.sublist hsub).append fun e _ hu => hnone e.1 ?_
      rw [huse, hu]
  · have hkey : key ∉ t.resolver.cache.map (·.1) := hflights.not_mem_cacheKeys hl
    have hsub := drop_unexpired_sublist t.resolver.now t.resolver.cache
    rw [huse, heq, storeIn_eq hkey]
    exact (h.sublist (hsub _)).keep (fun hmem => hkey (((hsub _).map _).subset hmem)) _

theorem inTurn_run (steps : List Step) : ∀ {t : Traffic} {uses : List CacheUse}, Flights limits t →
    InTurn uses t.resolver.cache →
      InTurn (uses ++ usesOf limits t steps) (t.run limits steps).resolver.cache := by
  induction steps with
  | nil =>
    intro t uses _ h
    rw [usesOf, List.append_nil]
    exact h
  | cons s steps ih =>
    intro t uses hflights h
    rw [usesOf, ← List.append_assoc, run_cons]
    exact ih (flights_step hflights s) (inTurn_step hflights h s)

theorem inTurn_startingAt (s : Surroundings) (start : Binary64) :
    InTurn [] (startingAt s start).resolver.cache :=
  ⟨by simp [startingAt, ofResolver, ofSurroundings], List.Pairwise.nil⟩

/-! ## Names that make room -/

/-- The step keeps an answer, and an unexpired entry of the key is gone. -/
def Evicts (limits : ResolverLimits) (t : Traffic) (s : Step) (key : String) : Prop :=
  (∃ other, useOf limits t s = some (.stored other)) ∧
    key ∈ (unexpired t.resolver.now t.resolver.cache).map (·.1) ∧
    key ∉ (t.step limits s).resolver.cacheKeys

theorem Evicts.cache_eq (hflights : Flights limits t) {s : Step} {key : String}
    (h : Evicts limits t s key) : ∃ other found, useOf limits t s = some (.stored other) ∧
      other ∉ t.resolver.cacheKeys ∧ (t.step limits s).resolver.cache =
        (unexpired t.resolver.now t.resolver.cache).drop
          ((unexpired t.resolver.now t.resolver.cache).length + 1 - limits.capacity) ++
          [(other, ⟨t.resolver.now.add limits.ttl, found⟩)] := by
  obtain ⟨⟨other, huse⟩, -, -⟩ := h
  rcases useOf_cases limits t s with ⟨hnone, -⟩ | ⟨other', lookup, found, huse', hl, heq⟩
  · exact absurd huse (hnone other)
  · have hother := hflights.not_mem_cacheKeys hl
    rw [storeIn_eq hother] at heq
    exact ⟨other', found, huse', hother, heq⟩

/-- No name makes room while there is room, and only one does: the first of those that have not
expired. -/
theorem Evicts.full (hflights : Flights limits t) (hbounded : Bounded limits t.resolver.cache)
    {s : Step} {key : String} (h : Evicts limits t s key) :
    ∃ entry rest, unexpired t.resolver.now t.resolver.cache = (key, entry) :: rest ∧
      rest.length + 1 = limits.capacity := by
  obtain ⟨other, found, -, -, heq⟩ := h.cache_eq hflights
  obtain ⟨-, hkey, hgone⟩ := h
  obtain ⟨⟨key, entry⟩, hmem, rfl⟩ := List.mem_map.1 hkey
  have hlength := (unexpired_sublist t.resolver.now t.resolver.cache).length_le
  have hsize := hbounded.size
  generalize unexpired t.resolver.now t.resolver.cache = live at heq hmem hlength
  have hdropped : (key, entry) ∉ live.drop (live.length + 1 - limits.capacity) := by
    intro hkept
    refine hgone (@mem_cacheKeys key _ entry ?_)
    rw [heq]
    exact List.mem_append_left _ hkept
  rcases Nat.lt_or_ge live.length limits.capacity with hroom | hfull
  · rw [Nat.sub_eq_zero_of_le hroom, List.drop_zero] at hdropped
    exact absurd hmem hdropped
  · have hcount : live.length + 1 - limits.capacity = 1 := by omega
    rcases live with _ | ⟨e, rest⟩
    · cases hmem
    · rw [hcount] at hdropped
      rcases List.mem_cons.1 hmem with rfl | hmem
      · refine ⟨entry, rest, rfl, ?_⟩
        rw [List.length_cons] at hcount
        omega
      · exact absurd hmem hdropped

/-- Whatever happens to a resolver, whatever its limits, and whatever its clock shows at first:
where an unexpired name makes room for another, the cache is full of unexpired names, and the answer
to this one was kept the longest time ago. If it was not given since, the name was also used the
longest time ago. -/
theorem evicts_least_recently_stored (limits : ResolverLimits) (surroundings : Surroundings)
    (start : Binary64) (steps : List Step) (s : Step) (key : String)
    (h : Evicts limits ((startingAt surroundings start).run limits steps) s key) :
    let before := (startingAt surroundings start).run limits steps
    let others := (before.step limits s).resolver.cacheKeys
    let uses := usesOf limits (startingAt surroundings start) (steps ++ [s])
    (unexpired before.resolver.now before.resolver.cache).length = limits.capacity ∧
      LeastRecentlyStored key others uses ∧
      (.served key ∉ since (· == .stored key) uses → LeastRecentlyUsed key others uses) := by
  intro before others uses
  have hbegun := flights_startingAt limits surroundings start
  have hflights : Flights limits before := flights_run steps hbegun
  have hbounded := bounded_run hbegun (bounded_startingAt surroundings start) steps
  have hturns := (inTurn_run steps hbegun (inTurn_startingAt surroundings start)).turns
  obtain ⟨entry, rest, hlive, hlength⟩ := h.full hflights hbounded
  obtain ⟨other, found, huse, hother, heq⟩ := h.cache_eq hflights
  have huses : uses = usesOf limits (startingAt surroundings start) steps ++ [.stored other] := by
    show usesOf limits (startingAt surroundings start) (steps ++ [s]) = _
    rw [usesOf_append, usesOf, huse, usesOf]
    rfl
  have hne : CacheUse.stored other ≠ .stored key := by
    rintro ⟨⟩
    exact hother (mem_cacheKeys (mem_unexpired.1 (by rw [hlive]; exact List.mem_cons_self)).1)
  have hstored : LeastRecentlyStored key others uses := by
    intro k hk
    obtain ⟨e, he, rfl⟩ := List.mem_map.1 hk
    rw [huses, since_append, if_neg (by simpa using hne)]
    rw [heq, hlive, List.length_cons, hlength, Nat.add_sub_cancel_left, List.drop_one,
      List.tail_cons, List.mem_append, List.mem_singleton] at he
    rcases he with he | rfl
    · -- the entry stands after that of the name that makes room
      have hturn := hturns.sublist (unexpired_sublist before.resolver.now before.resolver.cache)
      rw [hlive, List.pairwise_cons] at hturn
      exact List.mem_append_left _ (hturn.1 e he)
    · exact List.mem_append_right _ List.mem_cons_self
  exact ⟨by rw [hlive, List.length_cons, hlength], hstored, hstored.used⟩

/-- The first two answers fill the cache, and the third one is yet to come. -/
theorem evicts_least_recently_stored_threeNames :
    Evicts twoPlaces ((startingAt ⟨[], [], [], "", []⟩ Binary64.zero).run twoPlaces threeNames)
      (.complete "c.example" (.rows [])) "a.example" ∧
    LeastRecentlyUsed "a.example" ["b.example", "c.example"]
      (usesOf twoPlaces (startingAt ⟨[], [], [], "", []⟩ Binary64.zero)
        (threeNames ++ [.complete "c.example" (.rows [])])) := by
  have hevicts : Evicts twoPlaces ((startingAt ⟨[], [], [], "", []⟩ Binary64.zero).run twoPlaces
      threeNames) (.complete "c.example" (.rows [])) "a.example" :=
    ⟨⟨"c.example", by decide +kernel⟩, by decide +kernel, by decide +kernel⟩
  have hothers : (((startingAt ⟨[], [], [], "", []⟩ Binary64.zero).run twoPlaces threeNames).step
      twoPlaces (.complete "c.example" (.rows []))).resolver.cacheKeys =
        ["b.example", "c.example"] := by decide +kernel
  obtain ⟨-, -, hused⟩ := evicts_least_recently_stored twoPlaces _ _ threeNames _ _ hevicts
  rw [hothers] at hused
  exact ⟨hevicts, hused (by decide +kernel)⟩

/-- After the first name has been served from the cache, the third one is yet to come. -/
def servedAgain : List Step :=
  [.resolve "a.example" .every, .complete "a.example" (.rows [(some .v4, "10.0.0.1")]),
    .resolve "b.example" .every, .complete "b.example" (.rows [(some .v4, "10.0.0.2")]),
    .resolve "a.example" .every, .resolve "c.example" .every]

/-- The name that makes room is the one that was used last. -/
theorem evicts_recently_served :
    Evicts twoPlaces ((startingAt ⟨[], [], [], "", []⟩ Binary64.zero).run twoPlaces servedAgain)
      (.complete "c.example" (.rows [(some .v4, "10.0.0.3")])) "a.example" ∧
    ¬LeastRecentlyUsed "a.example"
      (((startingAt ⟨[], [], [], "", []⟩ Binary64.zero).run twoPlaces servedAgain).step twoPlaces
        (.complete "c.example" (.rows [(some .v4, "10.0.0.3")]))).resolver.cacheKeys
      (usesOf twoPlaces (startingAt ⟨[], [], [], "", []⟩ Binary64.zero)
        (servedAgain ++ [.complete "c.example" (.rows [(some .v4, "10.0.0.3")])])) :=
  ⟨⟨⟨"c.example", by decide +kernel⟩, by decide +kernel, by decide +kernel⟩, by decide +kernel⟩

end Traffic

end PacScript.Resolver
