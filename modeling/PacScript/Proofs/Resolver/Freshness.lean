import PacScript.Proofs.Number.Rounding
import PacScript.Proofs.Resolver.Operations
import PacScript.Resolver.Traffic

/-!
# Where the answers of a resolver come from

Every entry of the cache is the answer of the last look-up of its key since the resolver was closed
(`Kept`), every pending look-up has not ended yet (`Running`), and a call waits for the look-up that
is pending for its key. All this is kept by every step (`sound_step`).

So what a call returns is the answer of a look-up of its own key that ran while the call waited, or
else the last one, which has not expired (`returned_fresh`).
-/

namespace PacScript.Resolver.Traffic

/-- A look-up ends. -/
def Ends (lookup : Lookup) : Event → Prop
  | .answered l _ _ => l = lookup
  | .failed l _ _ => l = lookup
  | _ => False

/-- An answer to a key comes, or all answers are forgotten. -/
def Supersedes (key : String) : Event → Prop
  | .answered l _ _ => keyOf l.name = key
  | .closed => True
  | _ => False

/-- The look-up has been started and has not ended. -/
def Running (history : List Event) (lookup : Lookup) : Prop :=
  .started lookup ∈ history ∧ ∀ e ∈ history, ¬Ends lookup e

/-- The call has begun to wait for a look-up that was started before. -/
def Waits (history : List Event) (call : Call) (lookup : Lookup) : Prop :=
  ∃ before after, history = before ++ .waits call lookup :: after ∧ .started lookup ∈ before

/-- The look-up gave the answer at the given time, while the call waited for it. -/
def Awaited (history : List Event) (call : Call) (lookup : Lookup) (answer : List Address)
    (time : Binary64) : Prop :=
  ∃ before after, history = before ++ .answered lookup answer time :: after ∧
    Running before lookup ∧ Waits before call lookup

/-- The look-up gave the answer at the given time, as the last one of the key since then, and the
resolver has not been closed since. -/
def Latest (history : List Event) (key : String) (lookup : Lookup) (answer : List Address)
    (time : Binary64) : Prop :=
  ∃ before after, history = before ++ .answered lookup answer time :: after ∧
    keyOf lookup.name = key ∧ ∀ e ∈ after, ¬Supersedes key e

/-- The addresses are those that the call asks for among the answer of a look-up of its key, which
ran while the call waited, or else is the latest one and has not expired. -/
def Fresh (limits : ResolverLimits) (history : List Event) (call : Call) (found : List Address)
    (time : Binary64) : Prop :=
  ∃ lookup answer, keyOf lookup.name = keyOf (nameOf call.host) ∧
    found = Address.select call.filter answer ∧
    (Awaited history call lookup answer time ∨
      ∃ stored, Latest history (keyOf (nameOf call.host)) lookup answer stored ∧
        time.le (stored.add limits.ttl) = true)

/-- Every list that the events return for a name is fresh when it is returned. -/
def Justified (limits : ResolverLimits) (history events : List Event) : Prop :=
  ∀ before call found time after, events = before ++ .returned call found time :: after →
    Address.parse? (nameOf call.host) = none → Fresh limits (history ++ before) call found time

/-! ## Longer histories -/

section Extension

variable {history events : List Event} {lookup : Lookup} {call : Call} {key : String}
  {answer found : List Address} {time : Binary64}

theorem Running.append (h : Running history lookup) (hnew : ∀ e ∈ events, ¬Ends lookup e) :
    Running (history ++ events) lookup := by
  refine ⟨List.mem_append_left _ h.1, fun e he => ?_⟩
  rcases List.mem_append.1 he with he | he
  · exact h.2 e he
  · exact hnew e he

theorem Waits.append (h : Waits history call lookup) (events : List Event) :
    Waits (history ++ events) call lookup := by
  obtain ⟨before, after, rfl, hstarted⟩ := h
  exact ⟨before, after ++ events, by simp, hstarted⟩

theorem Latest.append (h : Latest history key lookup answer time)
    (hnew : ∀ e ∈ events, ¬Supersedes key e) :
    Latest (history ++ events) key lookup answer time := by
  obtain ⟨before, after, rfl, hkey, hafter⟩ := h
  refine ⟨before, after ++ events, by simp, hkey, fun e he => ?_⟩
  rcases List.mem_append.1 he with he | he
  · exact hafter e he
  · exact hnew e he

theorem justified_of_not_returned {limits : ResolverLimits}
    (h : ∀ e ∈ events, ∀ call found time, e ≠ .returned call found time) :
    Justified limits history events := by
  intro before call found time after heq
  subst heq
  exact absurd rfl (h (.returned call found time) (by simp) call found time)

theorem justified_returned {limits : ResolverLimits}
    (h : Address.parse? (nameOf call.host) = none → Fresh limits history call found time) :
    Justified limits history [.returned call found time] := by
  intro before call' found' time' after heq hname
  rcases before with _ | ⟨_, _ | _⟩ <;> simp at heq
  obtain ⟨⟨rfl, rfl, rfl⟩, -⟩ := heq
  rw [List.append_nil]
  exact h hname

theorem Justified.append {limits : ResolverLimits} (h : Justified limits [] history)
    (hnew : Justified limits history events) : Justified limits [] (history ++ events) := by
  intro before call found time after heq hname
  rcases List.append_eq_append_iff.1 heq with ⟨front, rfl, hevents⟩ | ⟨rest, hhistory, hevents⟩
  · exact hnew front call found time after hevents hname
  · rcases rest with _ | ⟨e, rest⟩
    · rw [List.append_nil] at hhistory
      subst hhistory
      have := hnew [] call found time after hevents.symm hname
      rwa [List.append_nil] at this
    · obtain ⟨rfl, -⟩ := List.cons.inj hevents
      exact h before call found time rest hhistory hname

end Extension

/-! ## What every step keeps -/

/-- What holds of a resolver and its record after every step. -/
structure Sound (limits : ResolverLimits) (t : Traffic) : Prop where
  clock : t.resolver.now ≠ .nan
  cache : ∀ key entry, (key, entry) ∈ t.resolver.cache → ∃ lookup stored, stored ≠ .nan ∧
    entry.expires = stored.add limits.ttl ∧ Latest t.history key lookup entry.found stored
  pending : ∀ key lookup, t.resolver.pending.lookup key = some lookup →
    keyOf lookup.name = key ∧ lookup.number < t.resolver.queries.length ∧
      Running t.history lookup
  waiting : ∀ w ∈ t.waiting,
    t.resolver.pending.lookup (keyOf (nameOf w.call.host)) = some w.lookup ∧
      Waits t.history w.call w.lookup
  numbers : ∀ lookup, ∀ e ∈ t.history, Ends lookup e → lookup.number < t.resolver.queries.length
  fresh : Justified limits [] t.history

/-- An event that ends no look-up and supersedes no answer. -/
def Quiet (e : Event) : Prop := (∀ lookup, ¬Ends lookup e) ∧ ∀ key, ¬Supersedes key e

theorem sound_ofResolver {limits : ResolverLimits} {r : Resolver} (hnow : r.now ≠ .nan)
    (hcache : r.cache = []) (hpending : r.pending = []) : Sound limits (ofResolver r) where
  clock := hnow
  cache key entry h := by simp [ofResolver, hcache] at h
  pending key lookup h := by simp [ofResolver, hpending] at h
  waiting w h := by simp [ofResolver] at h
  numbers lookup e h := by simp [ofResolver] at h
  fresh before call found time after h := by simp [ofResolver] at h

namespace Sound

variable {limits : ResolverLimits} {t : Traffic} {events : List Event}

/-- Nothing but quiet events happen, some entries of the cache are forgotten, and some calls wait no
longer. -/
theorem extend (h : Sound limits t) {t' : Traffic}
    (hnow : t'.resolver.now = t.resolver.now) (hpending : t'.resolver.pending = t.resolver.pending)
    (hqueries : t'.resolver.queries = t.resolver.queries)
    (hcache : ∀ e ∈ t'.resolver.cache, e ∈ t.resolver.cache)
    (hwaiting : ∀ w ∈ t'.waiting, w ∈ t.waiting)
    (hhistory : t'.history = t.history ++ events) (hquiet : ∀ e ∈ events, Quiet e)
    (hfresh : Justified limits t.history events) : Sound limits t' where
  clock := by rw [hnow]; exact h.clock
  cache key entry hmem := by
    obtain ⟨lookup, stored, hstored, hexpires, hlatest⟩ := h.cache key entry (hcache _ hmem)
    rw [hhistory]
    exact ⟨lookup, stored, hstored, hexpires, hlatest.append fun e he => (hquiet e he).2 key⟩
  pending key lookup hl := by
    rw [hpending] at hl
    obtain ⟨hkey, hnumber, hrunning⟩ := h.pending key lookup hl
    rw [hqueries, hhistory]
    exact ⟨hkey, hnumber, hrunning.append fun e he => (hquiet e he).1 lookup⟩
  waiting w hw := by
    obtain ⟨hl, hwaits⟩ := h.waiting w (hwaiting w hw)
    rw [hpending, hhistory]
    exact ⟨hl, hwaits.append events⟩
  numbers lookup e he hends := by
    rw [hhistory] at he
    rw [hqueries]
    rcases List.mem_append.1 he with he | he
    · exact h.numbers lookup e he hends
    · exact absurd hends ((hquiet e he).1 lookup)
  fresh := by
    rw [hhistory]
    exact h.fresh.append hfresh

/-- A look-up is started for a key that has none pending. -/
theorem submitted (h : Sound limits t) {key name : String} (hkey : keyOf name = key)
    (hnone : t.resolver.pending.lookup key = none) :
    Sound limits ({ t with resolver := t.resolver.submitted key name }.record
      [.started ⟨t.resolver.queries.length, name⟩]) where
  clock := h.clock
  cache k entry hmem := by
    obtain ⟨lookup, stored, hstored, hexpires, hlatest⟩ := h.cache k entry hmem
    exact ⟨lookup, stored, hstored, hexpires, hlatest.append (by simp [Supersedes])⟩
  pending k lookup hl := by
    change (t.resolver.submitted key name).pending.lookup k = some lookup at hl
    show _ ∧ _ < (t.resolver.submitted key name).queries.length ∧ _
    rw [lookup_submitted] at hl
    rw [length_queries_submitted]
    rcases hold : t.resolver.pending.lookup k with _ | l
    · rw [hold, Option.none_or] at hl
      split at hl
      · rename_i hk
        obtain rfl : k = key := by simpa using hk
        cases hl
        refine ⟨hkey, Nat.lt_succ_self _, by simp [record], fun e he hends => ?_⟩
        rcases List.mem_append.1 he with he | he
        · exact absurd (h.numbers _ e he hends) (Nat.lt_irrefl _)
        · obtain rfl := List.mem_singleton.1 he
          exact hends
      · cases hl
    · rw [hold, Option.some_or] at hl
      cases hl
      obtain ⟨hk, hnumber, hrunning⟩ := h.pending k lookup hold
      exact ⟨hk, Nat.lt_succ_of_lt hnumber, hrunning.append (by simp [Ends])⟩
  waiting w hw := by
    obtain ⟨hl, hwaits⟩ := h.waiting w hw
    refine ⟨?_, hwaits.append _⟩
    show (t.resolver.submitted key name).pending.lookup _ = _
    rw [lookup_submitted, hl, Option.some_or]
  numbers lookup e he hends := by
    show _ < (t.resolver.submitted key name).queries.length
    rw [length_queries_submitted]
    rcases List.mem_append.1 he with he | he
    · exact Nat.lt_succ_of_lt (h.numbers lookup e he hends)
    · obtain rfl := List.mem_singleton.1 he
      exact absurd hends (by simp [Ends])
  fresh := h.fresh.append (justified_of_not_returned (by simp))

/-- One more call waits for the look-up that is pending for its key. -/
theorem wait (h : Sound limits t) (call : Call) {lookup : Lookup}
    (hl : t.resolver.pending.lookup (keyOf (nameOf call.host)) = some lookup) :
    Sound limits ((t.wait limits call lookup).record [.waits call lookup]) := by
  have hwaits : Waits (t.history ++ [.waits call lookup]) call lookup :=
    ⟨t.history, [], rfl, (h.pending _ _ hl).2.2.1⟩
  have hextended : Sound limits (t.record [.waits call lookup]) := by
    exact h.extend rfl rfl rfl (fun _ he => he) (fun _ hw => hw) rfl
      (by simp [Quiet, Ends, Supersedes]) (justified_of_not_returned (by simp))
  refine { hextended with waiting := fun w hw => ?_ }
  rcases List.mem_append.1 hw with hw | hw
  · exact hextended.waiting w hw
  · obtain rfl := List.mem_singleton.1 hw
    exact ⟨hl, hwaits⟩

/-! ## Calls -/

/-- A live entry serves a call for its key. -/
theorem fresh_of_live (h : Sound limits t) (hpos : Binary64.zero.lt limits.ttl = true)
    (hfin : limits.ttl.isInfinite = false) {call : Call} {entry : CacheEntry}
    (hlive : Live limits t.resolver (keyOf (nameOf call.host)) entry) :
    Fresh limits t.history call (Address.select call.filter entry.found) t.resolver.now := by
  obtain ⟨-, hl, hexpires⟩ := hlive
  obtain ⟨lookup, stored, hstored, hsum, hlatest⟩ := h.cache _ _ (mem_of_lookup hl)
  obtain ⟨_, _, _, hkey, _⟩ := id hlatest
  refine ⟨lookup, entry.found, hkey, rfl, Or.inr ⟨stored, hlatest, ?_⟩⟩
  rw [hsum] at hexpires
  exact Binary64.le_of_not_lt
    (Binary64.add_ne_nan hstored (Binary64.ne_nan_of_lt hpos).2 hfin) h.clock hexpires

theorem begin (h : Sound limits t) (hpos : Binary64.zero.lt limits.ttl = true)
    (hfin : limits.ttl.isInfinite = false) (host : String) (filter : FamilyFilter) :
    Sound limits (t.begin limits host filter) := by
  rcases start_cases limits host t.resolver with ⟨-, hs⟩ | ⟨a, hparse, hs⟩ |
    ⟨-, -, entry, hlive, hs⟩ | ⟨-, -, -, hs⟩
  · simp only [Traffic.begin, hs]
    exact h.extend rfl rfl rfl (fun _ he => he) (fun _ hw => hw) rfl
      (by simp [Quiet, Ends, Supersedes]) (justified_of_not_returned (by simp))
  · simp only [Traffic.begin, hs]
    refine h.extend rfl rfl rfl (fun _ he => he) (fun _ hw => hw) rfl
      (by simp [Quiet, Ends, Supersedes]) (justified_returned fun hname => ?_)
    -- an address stands for itself, so this is not a call for a name
    rw [hparse] at hname
    cases hname
  · simp only [Traffic.begin, hs]
    exact h.extend rfl rfl rfl (fun _ he => he) (fun _ hw => hw) rfl
      (by simp [Quiet, Ends, Supersedes])
      (justified_returned fun _ => h.fresh_of_live hpos hfin hlive)
  · have hforgets : Sound limits
        { t with
          calls := t.calls + 1
          resolver := t.resolver.missed limits (keyOf (nameOf host)) } := by
      exact h.extend rfl rfl rfl (fun _ he => searched_sublist.subset he) (fun _ hw => hw)
        (List.append_nil _).symm (by simp) (justified_of_not_returned (by simp))
    rcases hl : t.resolver.pending.lookup (keyOf (nameOf host)) with _ | lookup
    · have hs := hs.trans (submit_of_none hl)
      have hpending : (Resolver.submitted (keyOf (nameOf host)) (nameOf host)
          (t.resolver.missed limits (keyOf (nameOf host)))).pending.lookup (keyOf (nameOf host)) =
            some ⟨t.resolver.queries.length, nameOf host⟩ := by
        simp [lookup_submitted, hl]
      have hwaits := (hforgets.submitted rfl hl).wait ⟨t.calls, host, filter⟩ hpending
      simp only [Traffic.begin, hs]
      simpa [Traffic.wait, record] using hwaits
    · have hs := hs.trans (submit_of_some hl)
      simp only [Traffic.begin, hs]
      exact hforgets.wait ⟨t.calls, host, filter⟩ hl

/-! ## The ends of look-ups -/

theorem supersedes_ofOutcome_iff {key : String} {lookup : Lookup} {time : Binary64}
    {outcome : Except Fault (List Address)} :
    Supersedes key (.ofOutcome lookup time outcome) ↔
      keyOf lookup.name = key ∧ ∃ found, outcome = .ok found := by
  cases outcome <;> simp [Event.ofOutcome, Supersedes]

theorem ends_ofOutcome_iff {l lookup : Lookup} {time : Binary64}
    {outcome : Except Fault (List Address)} :
    Ends l (.ofOutcome lookup time outcome) ↔ lookup = l := by
  cases outcome <;> simp [Event.ofOutcome, Ends]

/-- An answer becomes the latest one of its key, and the latest answers of other keys stay. -/
theorem latest_finish (h : Sound limits t) (hpos : Binary64.zero.lt limits.ttl = true)
    {key : String} {lookup : Lookup} (hkey : keyOf lookup.name = key)
    (outcome : Except Fault (List Address)) {k : String} {entry : CacheEntry}
    (hmem : (k, entry) ∈ (t.resolver.finish limits key outcome).cache) :
    ∃ l stored, stored ≠ .nan ∧ entry.expires = stored.add limits.ttl ∧
      Latest (t.history ++ [.ofOutcome lookup t.resolver.now outcome]) k l entry.found stored := by
  rcases outcome with fault | found
  · rw [finish_cache_of_error] at hmem
    obtain ⟨l, stored, hstored, hexpires, hlatest⟩ := h.cache k entry hmem
    exact ⟨l, stored, hstored, hexpires, hlatest.append (by simp [Event.ofOutcome, Supersedes])⟩
  · rw [finish_cache_of_ok (Binary64.not_le_of_lt hpos)] at hmem
    rcases mem_storeIn hmem with hnew | ⟨hold, hk⟩
    · cases hnew
      exact ⟨lookup, t.resolver.now, h.clock, rfl, t.history, [], rfl, hkey, by simp⟩
    · obtain ⟨l, stored, hstored, hexpires, hlatest⟩ := h.cache k entry hold
      refine ⟨l, stored, hstored, hexpires, hlatest.append ?_⟩
      simp only [List.mem_singleton, forall_eq, supersedes_ofOutcome_iff, not_and]
      intro hk'
      exact absurd (hk'.symm.trans hkey) hk

/-- The look-up that is pending for a key ends, and the calls that wait for it wait no longer. -/
theorem finish (h : Sound limits t) (hpos : Binary64.zero.lt limits.ttl = true) {key : String}
    {lookup : Lookup} (hl : t.resolver.pending.lookup key = some lookup)
    (outcome : Except Fault (List Address)) :
    Sound limits ({ t with
      resolver := t.resolver.finish limits key outcome
      waiting := t.waiting.filter fun w => w.lookup != lookup
    }.record [.ofOutcome lookup t.resolver.now outcome]) := by
  obtain ⟨hkey, hnumber, -⟩ := h.pending key lookup hl
  refine ⟨?_, fun k entry hmem => ?_, fun k l hpending => ?_, fun w hw => ?_,
    fun l e he hends => ?_, ?_⟩
  · show (t.resolver.finish limits key outcome).now ≠ .nan
    rw [finish_now]
    exact h.clock
  · exact h.latest_finish hpos hkey outcome hmem
  · change (t.resolver.finish limits key outcome).pending.lookup k = some l at hpending
    show _ ∧ _ < (t.resolver.finish limits key outcome).queries.length ∧ _
    rw [finish_pending] at hpending
    rw [finish_queries]
    have hne : k ≠ key := by
      rintro rfl
      rw [lookup_filter_self] at hpending
      cases hpending
    rw [lookup_filter_of_ne hne] at hpending
    obtain ⟨hk, hl', hrunning⟩ := h.pending k l hpending
    refine ⟨hk, hl', hrunning.append ?_⟩
    simp only [List.mem_singleton, forall_eq, ends_ofOutcome_iff]
    rintro rfl
    exact hne (hk.symm.trans hkey)
  · obtain ⟨hw, hother⟩ := List.mem_filter.1 hw
    obtain ⟨hpending, hwaits⟩ := h.waiting w hw
    refine ⟨?_, hwaits.append _⟩
    show (t.resolver.finish limits key outcome).pending.lookup _ = _
    rw [finish_pending, lookup_filter_of_ne, hpending]
    intro hk
    rw [hk, hl] at hpending
    cases hpending
    simp at hother
  · show _ < (t.resolver.finish limits key outcome).queries.length
    rw [finish_queries]
    rcases List.mem_append.1 he with he | he
    · exact h.numbers l e he hends
    · obtain rfl := List.mem_singleton.1 he
      rw [ends_ofOutcome_iff] at hends
      subst hends
      exact hnumber
  · refine h.fresh.append (justified_of_not_returned fun e he => ?_)
    obtain rfl := List.mem_singleton.1 he
    cases outcome <;> simp [Event.ofOutcome]

theorem complete (h : Sound limits t) (hpos : Binary64.zero.lt limits.ttl = true) (key : String)
    (reply : Reply) : Sound limits (t.complete limits key reply) := by
  rcases hl : t.resolver.pending.lookup key with _ | lookup
  · simp only [Traffic.complete, hl]
    exact h
  · obtain ⟨hkey, -, hrunning⟩ := h.pending key lookup hl
    have hfinish := h.finish hpos hl (outcomeOf reply)
    have heq : t.complete limits key reply = ({ t with
        resolver := t.resolver.finish limits key (outcomeOf reply)
        waiting := t.waiting.filter fun w => w.lookup != lookup
      }.record [.ofOutcome lookup t.resolver.now (outcomeOf reply)]).record
        ((t.waiting.filter fun w : Waiting => w.lookup == lookup).map
          (handOver limits (outcomeOf reply) t.resolver.now)) := by
      simp [Traffic.complete, hl, record]
    rw [heq]
    refine hfinish.extend rfl rfl rfl (fun _ he => he) (fun _ hw => hw) rfl ?_ ?_
    · intro e he
      obtain ⟨w, -, rfl⟩ := List.mem_map.1 he
      unfold handOver
      rcases received limits w.call.host w.call.filter (outcomeOf reply) with fault | found <;>
        simp [Quiet, Event.ofResult, Ends, Supersedes]
    · intro before call found time after hevents _
      have hmem : .returned call found time ∈
          (t.waiting.filter fun w : Waiting => w.lookup == lookup).map
            (handOver limits (outcomeOf reply) t.resolver.now) := by simp [hevents]
      obtain ⟨w, hw, hreturned⟩ := List.mem_map.1 hmem
      obtain ⟨hwaiting, hlookup⟩ := List.mem_filter.1 hw
      obtain rfl : w.lookup = lookup := by simpa using hlookup
      obtain ⟨hpending, hwaits⟩ := h.waiting w hwaiting
      rcases houtcome : outcomeOf reply with fault | answer
      · simp [handOver, houtcome, received, Event.ofResult] at hreturned
      · simp only [handOver, houtcome, received, Event.ofResult, Event.returned.injEq] at hreturned
        obtain ⟨rfl, rfl, rfl⟩ := hreturned
        refine ⟨w.lookup, answer, (h.pending _ _ hpending).1, rfl,
          Or.inl ⟨t.history, before, ?_, hrunning, hwaits⟩⟩
        simp [record, Event.ofOutcome]

/-! ## The rest -/

theorem giveUp (h : Sound limits t) (number : Nat) : Sound limits (t.giveUp limits number) := by
  simp only [Traffic.giveUp]
  split
  · exact h
  · exact h.extend rfl rfl rfl (fun _ he => he) (fun _ hw => (List.mem_filter.1 hw).1) rfl
      (by simp [Quiet, Ends, Supersedes]) (justified_of_not_returned (by simp))

theorem advance (h : Sound limits t) (now : Binary64) : Sound limits (t.advance now) := by
  unfold Traffic.advance
  split
  · rename_i hguard
    rw [Bool.and_eq_true] at hguard
    exact { h with clock := (Binary64.ne_nan_of_le hguard.1).2 }
  · exact h

theorem close (h : Sound limits t) : Sound limits t.close where
  clock := h.clock
  cache key entry hmem := by simp [Traffic.close, record, Resolver.close] at hmem
  pending key lookup hl := by
    obtain ⟨hkey, hnumber, hrunning⟩ := h.pending key lookup hl
    exact ⟨hkey, hnumber, hrunning.append (by simp [Ends])⟩
  waiting w hw := by
    obtain ⟨hl, hwaits⟩ := h.waiting w hw
    exact ⟨hl, hwaits.append _⟩
  numbers lookup e he hends := by
    rcases List.mem_append.1 he with he | he
    · exact h.numbers lookup e he hends
    · obtain rfl := List.mem_singleton.1 he
      exact absurd hends (by simp [Ends])
  fresh := h.fresh.append (justified_of_not_returned (by simp))

end Sound

theorem sound_step {limits : ResolverLimits} {t : Traffic}
    (hpos : Binary64.zero.lt limits.ttl = true) (hfin : limits.ttl.isInfinite = false)
    (h : Sound limits t) (s : Step) : Sound limits (t.step limits s) := by
  cases s with
  | resolve host filter => exact h.begin hpos hfin host filter
  | complete key reply => exact h.complete hpos key reply
  | giveUp number => exact h.giveUp number
  | advance now => exact h.advance now
  | close => exact h.close

theorem sound_run {limits : ResolverLimits} (hpos : Binary64.zero.lt limits.ttl = true)
    (hfin : limits.ttl.isInfinite = false) (steps : List Step) {t : Traffic}
    (h : Sound limits t) : Sound limits (t.run limits steps) := by
  induction steps generalizing t with
  | nil => exact h
  | cons s steps ih => exact ih (sound_step hpos hfin h s)

/-- A new resolver whose clock shows a given time. -/
def startingAt (s : Surroundings) (start : Binary64) : Traffic :=
  ofResolver { ofSurroundings s with now := start }

/-- Whatever happens to a resolver that keeps answers for a positive finite time, and whatever its
clock shows at first: the list that it returns for a name is fresh when it is returned. -/
theorem returned_fresh (limits : ResolverLimits) (hpos : Binary64.zero.lt limits.ttl = true)
    (hfin : limits.ttl.isInfinite = false) (s : Surroundings) (start : Binary64)
    (hstart : start ≠ .nan) (steps : List Step) (before : List Event) (call : Call)
    (found : List Address) (time : Binary64) (after : List Event)
    (hreturned : ((startingAt s start).run limits steps).history =
      before ++ .returned call found time :: after)
    (hname : Address.parse? (nameOf call.host) = none) : Fresh limits before call found time := by
  have hsound : Sound limits (startingAt s start) := sound_ofResolver hstart rfl rfl
  exact (sound_run hpos hfin steps hsound).fresh before call found time after hreturned hname

/-- Callers wait for five seconds, which is less than the longest wait, and answers are kept for a
minute. -/
def minute : ResolverLimits where
  timeout := Binary64.ofInt 5
  longest := Binary64.ofInt 9223372036
  ttl := Binary64.ofInt 60
  capacity := 1024
  capacity_pos := by decide

def twoCalls : List Step :=
  [.resolve "Example.com" .every,
    .complete "example.com" (.rows [(some .v4, "10.0.0.1"), (some .v6, "::1")]),
    .advance (Binary64.ofInt 30), .resolve " EXAMPLE.com " (.only .v6)]

/-- The second call is served at the last moment from the answer to the first. -/
theorem returned_fresh_twoCalls : Binary64.zero.lt minute.ttl = true ∧
    minute.ttl.isInfinite = false ∧ Binary64.ofInt (-30) ≠ .nan ∧ ∃ before after,
      ((startingAt ⟨[], [], [], "", []⟩ (Binary64.ofInt (-30))).run minute twoCalls).history =
        before ++ .returned ⟨1, " EXAMPLE.com ", .only .v6⟩ [.v6 1 none] (Binary64.ofInt 30) ::
          after ∧
      Fresh minute before ⟨1, " EXAMPLE.com ", .only .v6⟩ [.v6 1 none] (Binary64.ofInt 30) := by
  have hpos : Binary64.zero.lt minute.ttl = true := by decide +kernel
  have hfin : minute.ttl.isInfinite = false := by decide +kernel
  have hstart : Binary64.ofInt (-30) ≠ .nan := by decide +kernel
  have hshown : ((startingAt ⟨[], [], [], "", []⟩ (Binary64.ofInt (-30))).run minute
      twoCalls).history.any (fun e => match e with
        | .returned call found time => decide (call = ⟨1, " EXAMPLE.com ", .only .v6⟩ ∧
            found = [.v6 1 none] ∧ time = Binary64.ofInt 30)
        | _ => false) = true := by decide +kernel
  obtain ⟨e, hmem, he⟩ := List.any_eq_true.1 hshown
  rcases e with _ | _ | _ | _ | ⟨call, found, time⟩ | _ | _ <;> simp at he
  obtain ⟨hcall, hfound, htime⟩ := he
  rw [hcall, hfound, htime] at hmem
  obtain ⟨before, after, heq⟩ := List.append_of_mem hmem
  exact ⟨hpos, hfin, hstart, before, after, heq, returned_fresh minute hpos hfin _ _ hstart
    twoCalls before _ _ _ after heq (by decide +kernel)⟩

end PacScript.Resolver.Traffic
