import PacScript.Proofs.Resolver.Steps

/-!
# A call alone

When nothing else happens during a call, the steps of the call do what `Resolver.resolve` does: the
call begins, and then its look-up ends as the surroundings have it, or time passes up to the call's
deadline, if it can wait at all, and the call gives up (`run_alone`).
-/

namespace PacScript.Resolver.Traffic

/-- What happens during a call for a look-up, when nothing else does. -/
def aloneWith (limits : ResolverLimits) (host : String) (t : Traffic) (lookup : Lookup) :
    List Step :=
  if endsInTime limits t.resolver.surroundings (keyOf (nameOf host)) then
    [.complete (keyOf (nameOf host)) (replyTo t.resolver.surroundings lookup.name)]
  else [.advance (limits.deadline t.resolver.now), .giveUp t.calls]

/-- The steps of a call during which nothing else happens. -/
def alone (limits : ResolverLimits) (host : String) (filter : FamilyFilter) (t : Traffic) :
    List Step :=
  .resolve host filter ::
    match (t.resolver.start limits host).1 with
    | .fails _ => []
    | .found _ => []
    | .joins lookup => aloneWith limits host t lookup
    | .starts lookup => aloneWith limits host t lookup

variable {limits : ResolverLimits} {host : String} {filter : FamilyFilter} {t : Traffic}

/-- The call has ended as the state says, and no other call waits. -/
def EndsAs (t : Traffic) (call : Call) (outcome : Except Fault (List Address) × Resolver) : Prop :=
  t.resolver = outcome.2 ∧ t.waiting = [] ∧
    t.history.getLast? = some (.ofResult call outcome.2.now outcome.1)

/-- A call that waits alone for a pending look-up. -/
theorem run_aloneWith {r : Resolver} {lookup : Lookup} {events : List Event} {number : Nat}
    (hdeadline : limits.deadline t.resolver.now ≠ .nan)
    (hnow : r.now = t.resolver.now) (hsurroundings : r.surroundings = t.resolver.surroundings)
    (hpending : r.pending.lookup (keyOf (nameOf host)) = some lookup) :
    EndsAs (run limits ⟨r, number, [⟨⟨t.calls, host, filter⟩, lookup, limits.deadline r.now⟩],
      events⟩ (aloneWith limits host t lookup)) ⟨t.calls, host, filter⟩
        (r.await limits host filter lookup) := by
  unfold aloneWith
  rw [← hsurroundings, ← hnow]
  rw [← hnow] at hdeadline
  split
  · rename_i hends
    have hawait : r.await limits host filter lookup =
        (received limits host filter (outcomeOf (replyTo r.surroundings lookup.name)),
          r.finish limits (keyOf (nameOf host)) (outcomeOf (replyTo r.surroundings lookup.name))) :=
      if_pos hends
    rw [hawait]
    simp [EndsAs, run, step, complete, record, hpending, handOver]
  · rename_i hends
    have hlater := ResolverLimits.le_deadline hdeadline
    have hle := Binary64.le_self hdeadline
    have hlt : (limits.deadline r.now).lt (limits.deadline r.now) = false :=
      Binary64.not_lt_of_le hle
    have hawait : r.await limits host filter lookup = (.error (giveUpFault limits (nameOf host)),
        { r with now := limits.deadline r.now }) := if_neg hends
    rw [hawait]
    simp [EndsAs, run, step, advance, giveUp, record, hlater, hle, hlt, Event.ofResult]

theorem resolve_run (limits : ResolverLimits) (host : String) (filter : FamilyFilter)
    (r : Resolver) : (resolve limits host filter).run.run r =
      match r.start limits host with
      | (.fails fault, r) => (.error fault, r)
      | (.found addresses, r) => (.ok (Address.select filter addresses), r)
      | (.joins lookup, r) => r.await limits host filter lookup
      | (.starts lookup, r) => r.await limits host filter lookup := by
  rcases hs : r.start limits host with ⟨_ | _ | _ | _, r'⟩ <;>
    simp only [resolve, ExceptT.run, ExceptT.mk, StateT.run, hs]

/-- A call that no other overlaps takes no time, or all the time up to its deadline. -/
theorem resolve_now (limits : ResolverLimits) (host : String) (filter : FamilyFilter)
    (r : Resolver) : ((resolve limits host filter).run.run r).2.now = r.now ∨
      ((resolve limits host filter).run.run r).2.now = limits.deadline r.now := by
  have hawait (r : Resolver) (lookup : Lookup) :
      (r.await limits host filter lookup).2.now = r.now ∨
        (r.await limits host filter lookup).2.now = limits.deadline r.now := by
    unfold await
    simp only
    split
    · exact Or.inl (finish_now _)
    · exact Or.inr rfl
  rw [resolve_run]
  rcases hs : r.start limits host with ⟨fault | found | lookup | lookup, r'⟩ <;>
    obtain ⟨hnow, -, -⟩ := start_frame hs <;> rw [← hnow]
  · exact Or.inl rfl
  · exact Or.inl rfl
  · exact hawait r' lookup
  · exact hawait r' lookup

theorem resolve_surroundings (limits : ResolverLimits) (host : String) (filter : FamilyFilter)
    (r : Resolver) :
    ((resolve limits host filter).run.run r).2.surroundings = r.surroundings := by
  have hawait (r : Resolver) (lookup : Lookup) :
      (r.await limits host filter lookup).2.surroundings = r.surroundings := by
    unfold await
    simp only
    split
    · exact finish_surroundings _
    · rfl
  rw [resolve_run]
  rcases hs : r.start limits host with ⟨fault | found | lookup | lookup, r'⟩ <;>
    obtain ⟨-, hsurroundings, -⟩ := start_frame hs <;> rw [← hsurroundings]
  · exact hawait r' lookup
  · exact hawait r' lookup

/-- A call during which nothing else happens comes to the same as `resolve`. -/
theorem run_alone (hwaiting : t.waiting = []) (hdeadline : limits.deadline t.resolver.now ≠ .nan) :
    EndsAs (t.run limits (alone limits host filter t)) ⟨t.calls, host, filter⟩
      ((resolve limits host filter).run.run t.resolver) := by
  rw [resolve_run]
  rcases hs : t.resolver.start limits host with ⟨fault | found | lookup | lookup, r⟩
  · simp [alone, run, step, begin, hs, EndsAs, record, Event.ofResult, hwaiting]
  · simp [alone, run, step, begin, hs, EndsAs, record, Event.ofResult, hwaiting]
  · obtain ⟨hnow, hsurroundings, hpending⟩ := start_frame hs
    have halone : alone limits host filter t =
        .resolve host filter :: aloneWith limits host t lookup := by simp only [alone, hs]
    rw [halone, run_cons, step, begin_of_joins hs, hwaiting]
    exact run_aloneWith hdeadline hnow hsurroundings (hpending lookup (Or.inl rfl))
  · obtain ⟨hnow, hsurroundings, hpending⟩ := start_frame hs
    have halone : alone limits host filter t =
        .resolve host filter :: aloneWith limits host t lookup := by simp only [alone, hs]
    rw [halone, run_cons, step, begin_of_starts hs, hwaiting]
    exact run_aloneWith hdeadline hnow hsurroundings (hpending lookup (Or.inr rfl))

end PacScript.Resolver.Traffic
