import PacScript.Proofs.Address.FirstSeen
import PacScript.Proofs.Resolver.Cache
import PacScript.Proofs.Resolver.Failures

/-!
# What calls are told

A look-up answers with rows, and the rows of the two families list addresses (`Lists`). A kept
answer comes from the rows of the last look-up of its key that has answered (`lastRows`); a run
keeps nothing else (`keepsRows_run`). So a call is told the addresses that such rows list, each once
(`Tells.resolve_run`), unless its look-up raises a stray fault or the wait is too long
(`exists_tells`).
-/

namespace PacScript.Resolver

open Address

/-! ## What rows list -/

/-- The addresses that rows of the two families list, in the order of the rows. -/
def Lists (rows : List (Option Family × String)) (answer : List Address) : Prop :=
  List.Forall₂ (fun row a => Address.parse? row.2 = some a) (rows.filter (·.1.isSome)) answer

theorem addressesOf_ok_iff : ∀ {rows : List (Option Family × String)} {answer : List Address},
    addressesOf rows = .ok answer ↔ Lists rows answer
  | [], answer => by
    simp [addressesOf, Lists, eq_comm]
  | (none, text) :: rest, answer => by
    rw [addressesOf, addressesOf_ok_iff]
    rfl
  | (some family, text) :: rest, answer => by
    have hfilter : ((some family, text) :: rest).filter (fun row => row.1.isSome) =
        (some family, text) :: rest.filter fun row => row.1.isSome := rfl
    rw [addressesOf, Lists, hfilter, List.forall₂_cons_left_iff]
    rcases hparse : Address.parse? text with _ | a
    · simp
    · simp only [bind_ok_iff, addressesOf_ok_iff, Except.ok.injEq, Option.some.injEq]
      constructor
      · rintro ⟨found, hfound, rfl⟩
        exact ⟨a, found, rfl, hfound, rfl⟩
      · rintro ⟨b, found, rfl, hfound, rfl⟩
        exact ⟨found, hfound, rfl⟩

theorem outcomeOf_ok_iff {reply : Reply} {found : List Address} : outcomeOf reply = .ok found ↔
    ∃ rows answer, reply = .rows rows ∧ Lists rows answer ∧ found = dedup answer := by
  rcases reply with rows | fault
  · simp only [outcomeOf, map_eq_pure_bind, bind_ok_iff, pure_ok_iff, addressesOf_ok_iff,
      Reply.rows.injEq, exists_and_left, exists_eq_left']
  · simp [outcomeOf]

/-! ## The answers that are kept -/

/-- The rows of a look-up of the key that a step ends with addresses. -/
def rowsIn (key : String) (t : Traffic) : Step → Option (List (Option Family × String))
  | .complete k (.rows rows) =>
    if k = key ∧ (t.resolver.pending.lookup key).isSome ∧ (outcomeOf (.rows rows)).isOk then
      some rows
    else none
  | _ => none

/-- The rows of the last look-up of the key that ends with addresses in a run. -/
def lastRows (limits : ResolverLimits) (key : String) :
    Traffic → List Step → Option (List (Option Family × String))
  | _, [] => none
  | t, s :: steps => (lastRows limits key (t.step limits s) steps).or (rowsIn key t s)

theorem rowsIn_eq_some_iff {key : String} {t : Traffic} {s : Step}
    {rows : List (Option Family × String)} : rowsIn key t s = some rows ↔
      s = .complete key (.rows rows) ∧ (∃ lookup, t.resolver.pending.lookup key = some lookup) ∧
        ∃ found, outcomeOf (.rows rows) = .ok found := by
  unfold rowsIn
  split
  · rename_i k rows'
    rw [Option.ite_none_right_eq_some, Option.isSome_iff_exists, Option.some.injEq]
    have hok : (outcomeOf (.rows rows')).isOk = true ↔
        ∃ found, outcomeOf (.rows rows') = .ok found := by
      cases outcomeOf (.rows rows') <;> simp [Except.isOk, Except.toBool]
    rw [hok]
    constructor
    · rintro ⟨⟨rfl, hpending, houtcome⟩, rfl⟩
      exact ⟨rfl, hpending, houtcome⟩
    · rintro ⟨hs, hpending, houtcome⟩
      cases hs
      exact ⟨⟨rfl, hpending, houtcome⟩, rfl⟩
  · rename_i hnot
    refine iff_of_false nofun ?_
    rintro ⟨rfl, -⟩
    exact hnot _ _ rfl

/-- What is kept for the key is what the rows list. -/
def KeepsRows (key : String) (rows? : Option (List (Option Family × String))) (r : Resolver) :
    Prop :=
  ∀ entry, (key, entry) ∈ r.cache → ∃ rows, rows? = some rows ∧
    outcomeOf (.rows rows) = .ok entry.found

section Kept

variable {limits : ResolverLimits} {key : String} {t : Traffic}
  {rows? : Option (List (Option Family × String))}

theorem keepsRows_step (httl : limits.ttl.le Binary64.zero = false)
    (h : KeepsRows key rows? t.resolver) (s : Step) :
    KeepsRows key ((rowsIn key t s).or rows?) (t.step limits s).resolver := by
  intro entry hmem
  rcases hrows : rowsIn key t s with _ | rows
  · rw [Option.none_or]
    rcases Traffic.cache_step limits t s with heq | ⟨host, filter, -, -, heq⟩ |
      ⟨k, reply, lookup, found, rfl, houtcome, hl, -, -, heq⟩ | ⟨-, heq⟩ <;> rw [heq] at hmem
    · exact h entry hmem
    · exact h entry (searched_sublist.subset hmem)
    · rcases mem_storeIn hmem with hnew | ⟨hold, -⟩
      · cases hnew
        obtain ⟨rows, -, rfl, -⟩ := outcomeOf_ok_iff.1 houtcome
        rw [rowsIn_eq_some_iff.2 ⟨rfl, ⟨lookup, hl⟩, found, houtcome⟩] at hrows
        cases hrows
      · exact h entry hold
    · cases hmem
  · obtain ⟨rfl, ⟨lookup, hl⟩, found, houtcome⟩ := rowsIn_eq_some_iff.1 hrows
    have hcache : (t.step limits (.complete key (.rows rows))).resolver.cache =
        storeIn limits t.resolver.now key found t.resolver.cache := by
      rw [Traffic.step, Traffic.complete_of_some limits _ hl, houtcome]
      exact finish_cache_of_ok httl found
    rw [hcache] at hmem
    rcases mem_storeIn hmem with hnew | ⟨-, hne⟩
    · cases hnew
      exact ⟨rows, rfl, houtcome⟩
    · exact absurd rfl hne

theorem keepsRows_run (httl : limits.ttl.le Binary64.zero = false) (steps : List Step) :
    ∀ {t : Traffic} {rows?}, KeepsRows key rows? t.resolver →
      KeepsRows key ((lastRows limits key t steps).or rows?) (t.run limits steps).resolver := by
  induction steps with
  | nil => exact fun h => h
  | cons s steps ih =>
    intro t rows? h
    rw [Traffic.run_cons, lastRows, Option.or_assoc]
    exact ih (keepsRows_step httl h s)

end Kept

/-! ## What a host is answered -/

/-- What the resolver answers for a host, given the rows from which a kept answer for it comes: the
host itself if it is an address, what the rows of the kept answer or of a look-up list, and nothing
when the call fails as a resolution. -/
inductive Tells (limits : ResolverLimits) (host : String)
    (kept : Option (List (Option Family × String))) (r : Resolver) : List Address → Prop
  | address {a : Address} (hparse : Address.parse? (nameOf host) = some a) :
      Tells limits host kept r [a]
  | kept {entry : CacheEntry} {rows : List (Option Family × String)} {answer : List Address}
      (hname : nameOf host ≠ "") (hparse : Address.parse? (nameOf host) = none)
      (hlive : Live limits r (keyOf (nameOf host)) entry) (hkept : kept = some rows)
      (hrows : Lists rows answer) : Tells limits host kept r answer
  | told {lookup : Lookup} {rows : List (Option Family × String)} {answer : List Address}
      (hwaits : WaitsFor limits host r lookup)
      (hends : endsInTime limits r.surroundings (keyOf (nameOf host)) = true)
      (hreply : replyTo r.surroundings lookup.name = .rows rows) (hrows : Lists rows answer) :
      Tells limits host kept r answer
  | fails {fault : Fault} (hfault : ((resolve limits host .every).run.run r).1 = .error fault)
      (hkind : fault.isResolution = true) : Tells limits host kept r []

section Tells

variable {limits : ResolverLimits} {host : String} {r : Resolver} {answer : List Address}
  {kept : Option (List (Option Family × String))}

theorem exists_waitsFor {key name : String} {r' : Resolver}
    (hs : r.start limits host = submit key name r') :
    ∃ lookup, WaitsFor limits host r lookup := by
  rcases hl : r'.pending.lookup key with _ | lookup
  · exact ⟨_, Or.inr (by rw [hs, submit_of_none hl])⟩
  · exact ⟨lookup, Or.inl (by rw [hs, submit_of_some hl])⟩

theorem resolve_run_of_found {found : List Address} (hs : r.start limits host = (.found found, r)) :
    ((resolve limits host .every).run.run r).1 = .ok found := by
  rw [Traffic.resolve_run, hs]
  rfl

/-- A call comes to the addresses of the answer, each once, or it fails as a resolution and there is
no answer. -/
theorem Tells.resolve_run (h : Tells limits host kept r answer)
    (hkept : limits.ttl.le Binary64.zero = false → KeepsRows (keyOf (nameOf host)) kept r) :
    ((resolve limits host .every).run.run r).1 = .ok (dedup answer) ∨
      answer = [] ∧ ∃ fault, fault.isResolution = true ∧
        ((resolve limits host .every).run.run r).1 = .error fault := by
  cases h with
  | address hparse => exact Or.inl (resolve_run_of_found (start_of_address hparse))
  | @kept entry rows _ hname hparse hlive hkept' hrows =>
    obtain ⟨rows', hrows', houtcome⟩ := hkept hlive.1 entry (mem_of_lookup hlive.2.1)
    obtain rfl : rows = rows' := Option.some.inj (hkept'.symm.trans hrows')
    have hfound := outcomeOf_ok_iff.2 ⟨rows, answer, rfl, hrows, rfl⟩
    rw [houtcome] at hfound
    rw [resolve_run_of_found (start_of_live hname hparse hlive)]
    exact Or.inl hfound
  | told hwaits hends hreply hrows =>
    rw [resolve_run_of_waitsFor hwaits, hends,
      outcomeOf_ok_iff.2 ⟨_, answer, hreply, hrows, rfl⟩]
    exact Or.inl rfl
  | fails hfault hkind => exact Or.inr ⟨rfl, _, hkind, hfault⟩

/-- A host has an answer unless the look-up that a call for it waits for raises a stray fault, or
the wait is too long. -/
theorem exists_tells
    (hkept : limits.ttl.le Binary64.zero = false → KeepsRows (keyOf (nameOf host)) kept r) :
    (∃ answer, Tells limits host kept r answer) ∨ Slips limits host r := by
  rcases hresult : ((resolve limits host .every).run.run r).1 with fault | found
  · rcases raises_of_resolve_error hresult with hkind | ⟨hstrays, hraises⟩ | hoverwaits
    · exact Or.inl ⟨[], .fails hresult hkind⟩
    · exact Or.inr (Or.inl ⟨fault, hstrays, hraises⟩)
    · exact Or.inr (Or.inr hoverwaits)
  · left
    rcases start_cases limits host r with ⟨-, hs⟩ | ⟨a, hparse, -⟩ |
      ⟨hname, hparse, entry, hlive, -⟩ | ⟨-, -, -, hs⟩
    · rw [Traffic.resolve_run, hs] at hresult
      cases hresult
    · exact ⟨[a], .address hparse⟩
    · obtain ⟨rows, hrows, houtcome⟩ := hkept hlive.1 entry (mem_of_lookup hlive.2.1)
      obtain ⟨_, answer, ⟨⟩, hlists, -⟩ := outcomeOf_ok_iff.1 houtcome
      exact ⟨answer, .kept hname hparse hlive hrows hlists⟩
    · obtain ⟨lookup, hwaits⟩ := exists_waitsFor hs
      rw [resolve_run_of_waitsFor hwaits] at hresult
      split at hresult
      · rename_i hends
        rcases houtcome : outcomeOf (replyTo r.surroundings lookup.name) with fault | told
        · rw [houtcome] at hresult
          cases hresult
        · obtain ⟨rows, answer, hreply, hlists, -⟩ := outcomeOf_ok_iff.1 houtcome
          exact ⟨answer, .told hwaits hends hreply hlists⟩
      · cases hresult

end Tells

end PacScript.Resolver
