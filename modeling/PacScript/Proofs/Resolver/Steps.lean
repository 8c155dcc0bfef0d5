import PacScript.Proofs.Number.Rounding
import PacScript.Proofs.Resolver.Operations
import PacScript.Resolver.Traffic

/-!
# What one step does

One lemma for each kind of step says all that the step can come to. A call for a name that no kept
answer serves (`Asks`) waits for a look-up; every other call ends at once (`begin_cases`).

A call that waits has a deadline, which lies behind it only if it can wait at all.
-/

namespace PacScript

namespace ResolverLimits

variable {limits : ResolverLimits} {now later : Binary64}

theorem deadline_of_canWait (h : limits.canWait = true) :
    limits.deadline now = now.add limits.timeout := if_pos h

theorem deadline_of_not_canWait (h : limits.canWait = false) : limits.deadline now = now :=
  if_neg (by simp [h])

theorem timeout_nonneg (h : limits.canWait = true) : Binary64.zero.le limits.timeout = true := by
  rw [canWait, Bool.and_eq_true] at h
  exact Binary64.le_of_lt h.1

/-- A deadline does not lie in the past. -/
theorem le_deadline (h : limits.deadline now ≠ .nan) : now.le (limits.deadline now) = true := by
  rcases hwait : limits.canWait with _ | _
  · rw [deadline_of_not_canWait hwait] at h ⊢
    exact Binary64.le_self h
  · rw [deadline_of_canWait hwait] at h ⊢
    exact Binary64.le_add (timeout_nonneg hwait) h

/-- Where deadlines can be counted from a time, they can be from every later one. -/
theorem deadline_ne_nan_of_le (h : limits.deadline now ≠ .nan) (hlater : now.le later = true) :
    limits.deadline later ≠ .nan := by
  rcases hwait : limits.canWait with _ | _
  · rw [deadline_of_not_canWait hwait]
    exact (Binary64.ne_nan_of_le hlater).2
  · rw [deadline_of_canWait hwait] at h ⊢
    exact Binary64.add_ne_nan_of_le (timeout_nonneg hwait) h hlater

end ResolverLimits

namespace Resolver

/-- A call for the host asks for a look-up: the host is a name, and no kept answer serves it. A
blank host and an address are no names. -/
def Asks (limits : ResolverLimits) (host : String) (r : Resolver) : Prop :=
  nameOf host ≠ "" ∧ Address.parse? (nameOf host) = none ∧
    ∀ entry, ¬Live limits r (keyOf (nameOf host)) entry

namespace Traffic

variable {limits : ResolverLimits} {host : String} {filter : FamilyFilter} {t : Traffic}
  {w : Waiting}

theorem run_cons (s : Step) (steps : List Step) :
    t.run limits (s :: steps) = (t.step limits s).run limits steps := rfl

theorem run_append (t : Traffic) (steps more : List Step) :
    t.run limits (steps ++ more) = (t.run limits steps).run limits more :=
  List.foldl_append

/-- What every step keeps, every run keeps. -/
theorem run_induction {p : Traffic → Prop} (hstep : ∀ t s, p t → p (t.step limits s))
    (steps : List Step) (h : p t) : p (t.run limits steps) := by
  induction steps generalizing t with
  | nil => exact h
  | cons s steps ih => exact ih (hstep t s h)

theorem begin_of_joins {lookup : Lookup} {r : Resolver}
    (hs : t.resolver.start limits host = (.joins lookup, r)) :
    t.begin limits host filter = ⟨r, t.calls + 1,
      t.waiting ++ [⟨⟨t.calls, host, filter⟩, lookup, limits.deadline r.now⟩],
      t.history ++ [.waits ⟨t.calls, host, filter⟩ lookup]⟩ := by
  simp only [begin, hs]
  rfl

theorem begin_of_starts {lookup : Lookup} {r : Resolver}
    (hs : t.resolver.start limits host = (.starts lookup, r)) :
    t.begin limits host filter = ⟨r, t.calls + 1,
      t.waiting ++ [⟨⟨t.calls, host, filter⟩, lookup, limits.deadline r.now⟩],
      t.history ++ [.started lookup, .waits ⟨t.calls, host, filter⟩ lookup]⟩ := by
  simp only [begin, hs]
  rfl

/-- A live answer is given at once. -/
theorem begin_of_live (hname : nameOf host ≠ "") (hparse : Address.parse? (nameOf host) = none)
    {entry : CacheEntry} (hlive : Live limits t.resolver (keyOf (nameOf host)) entry) :
    t.begin limits host filter = ⟨t.resolver, t.calls + 1, t.waiting, t.history ++
      [.returned ⟨t.calls, host, filter⟩ (Address.select filter entry.found) t.resolver.now]⟩ := by
  simp only [begin, start_of_live hname hparse hlive]
  rfl

/-- A call ends at once, or it waits for the look-up that is pending for its key, or it
starts one. -/
theorem begin_cases (limits : ResolverLimits) (host : String) (filter : FamilyFilter)
    (t : Traffic) :
    (¬Asks limits host t.resolver ∧ ∃ result, t.begin limits host filter = ⟨t.resolver, t.calls + 1,
      t.waiting, t.history ++ [.ofResult ⟨t.calls, host, filter⟩ t.resolver.now result]⟩) ∨
    (Asks limits host t.resolver ∧
      ((∃ lookup, t.resolver.pending.lookup (keyOf (nameOf host)) = some lookup ∧
        t.begin limits host filter = ⟨t.resolver.missed limits (keyOf (nameOf host)),
          t.calls + 1,
          t.waiting ++ [⟨⟨t.calls, host, filter⟩, lookup, limits.deadline t.resolver.now⟩],
          t.history ++ [.waits ⟨t.calls, host, filter⟩ lookup]⟩) ∨
      (∃ lookup, lookup = ⟨t.resolver.queries.length, nameOf host⟩ ∧
        t.resolver.pending.lookup (keyOf (nameOf host)) = none ∧
        t.begin limits host filter =
          ⟨submitted (keyOf (nameOf host)) (nameOf host)
            (t.resolver.missed limits (keyOf (nameOf host))),
          t.calls + 1,
          t.waiting ++ [⟨⟨t.calls, host, filter⟩, lookup, limits.deadline t.resolver.now⟩],
          t.history ++ [.started lookup, .waits ⟨t.calls, host, filter⟩ lookup]⟩))) := by
  rcases start_cases limits host t.resolver with ⟨hname, hs⟩ | ⟨a, hparse, hs⟩ |
    ⟨-, -, entry, hlive, hs⟩ | ⟨hname, hparse, hlive, hs⟩
  · refine Or.inl ⟨fun hasks => hasks.1 hname, .error (.resolution .emptyName), ?_⟩
    simp only [begin, hs]
    rfl
  · refine Or.inl ⟨fun hasks => ?_, .ok (Address.select filter [a]), ?_⟩
    · rw [hasks.2.1] at hparse
      cases hparse
    · simp only [begin, hs]
      rfl
  · refine Or.inl ⟨fun hasks => hasks.2.2 entry hlive, .ok (Address.select filter entry.found), ?_⟩
    simp only [begin, hs]
    rfl
  · refine Or.inr ⟨⟨hname, hparse, hlive⟩, ?_⟩
    rcases hl : t.resolver.pending.lookup (keyOf (nameOf host)) with _ | lookup
    · exact Or.inr ⟨_, rfl, rfl, begin_of_starts (hs.trans (submit_of_none hl))⟩
    · exact Or.inl ⟨lookup, rfl, begin_of_joins (hs.trans (submit_of_some hl))⟩

theorem complete_of_some {key : String} {lookup : Lookup} (limits : ResolverLimits) (reply : Reply)
    (hl : t.resolver.pending.lookup key = some lookup) :
    t.complete limits key reply = ⟨t.resolver.finish limits key (outcomeOf reply), t.calls,
      t.waiting.filter fun w => w.lookup != lookup,
      t.history ++ .ofOutcome lookup t.resolver.now (outcomeOf reply) ::
        (t.waiting.filter fun w : Waiting => w.lookup == lookup).map
          (handOver limits (outcomeOf reply) t.resolver.now)⟩ := by
  simp only [complete, hl]
  rfl

theorem complete_cases (limits : ResolverLimits) (key : String) (reply : Reply) (t : Traffic) :
    (t.resolver.pending.lookup key = none ∧ t.complete limits key reply = t) ∨
    ∃ lookup, t.resolver.pending.lookup key = some lookup ∧
      t.complete limits key reply = ⟨t.resolver.finish limits key (outcomeOf reply), t.calls,
        t.waiting.filter fun w => w.lookup != lookup,
        t.history ++ .ofOutcome lookup t.resolver.now (outcomeOf reply) ::
          (t.waiting.filter fun w : Waiting => w.lookup == lookup).map
            (handOver limits (outcomeOf reply) t.resolver.now)⟩ := by
  rcases hl : t.resolver.pending.lookup key with _ | lookup
  · exact Or.inl ⟨rfl, by simp only [complete, hl]⟩
  · exact Or.inr ⟨lookup, rfl, complete_of_some limits reply hl⟩

theorem giveUp_cases (limits : ResolverLimits) (number : Nat) (t : Traffic) :
    t.giveUp limits number = t ∨
    ∃ w ∈ t.waiting, w.call.number = number ∧ w.deadline.le t.resolver.now = true ∧
      t.giveUp limits number = ⟨t.resolver, t.calls,
        t.waiting.filter fun w => w.call.number != number,
        t.history ++
          [.raised w.call (giveUpFault limits (nameOf w.call.host)) t.resolver.now]⟩ := by
  rcases hw : t.waiting.find? (fun w => w.call.number == number && w.deadline.le t.resolver.now)
    with _ | w
  · exact Or.inl (by simp only [giveUp, hw])
  · have hfound := List.find?_some hw
    simp only [Bool.and_eq_true, beq_iff_eq] at hfound
    refine Or.inr ⟨w, List.mem_of_find?_eq_some hw, hfound.1, hfound.2, ?_⟩
    simp only [giveUp, hw]
    rfl

theorem giveUp_of_none {number : Nat} (h : t.waiting.find? (fun w => w.call.number == number &&
    w.deadline.le t.resolver.now) = none) : t.giveUp limits number = t := by
  simp only [giveUp, h]

theorem giveUp_of_some {number : Nat} (h : t.waiting.find? (fun w => w.call.number == number &&
    w.deadline.le t.resolver.now) = some w) :
    t.giveUp limits number = ⟨t.resolver, t.calls,
      t.waiting.filter fun w => !(w.call.number == number),
      t.history ++ [.raised w.call (giveUpFault limits (nameOf w.call.host)) t.resolver.now]⟩ := by
  simp only [giveUp, h]
  rfl

theorem advance_cases (now : Binary64) (t : Traffic) : t.advance now = t ∨
    (t.resolver.now.le now = true ∧
      t.advance now = { t with resolver := { t.resolver with now } }) := by
  unfold advance
  split
  · rename_i hguard
    rw [Bool.and_eq_true] at hguard
    exact Or.inr ⟨hguard.1, rfl⟩
  · exact Or.inl rfl

end Traffic

end Resolver

end PacScript
