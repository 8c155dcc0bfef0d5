import PacScript.Proofs.Script.Frozen
import Mathlib.Data.List.Induction

/-!
# Evaluations side by side

Snapshots of one library serve evaluations that take turns: they share a host, with its store of
expressions, and the clock of the library. A `Step` takes a snapshot or makes a call on one, in any
order. The instants of the snapshots, and the calls on them, can be told from the steps and the
clock alone (`Ledger`).

Evaluations do not disturb each other (`evaluations_apart`). With stateless primitives every
snapshot gets what it would get if its calls were the only ones, on a fresh host, and its temporal
functions answer for its own instant. The clock is read once for each snapshot of the library itself
that is taken without an instant, and at no other time; a snapshot of a snapshot takes over its
instant (`snapshotOf_reads_nothing`).
-/

namespace PacScript.Script

variable {σ : Type}

/-- Something done with a library: a snapshot of it is taken, a snapshot of a snapshot is taken, or
a snapshot is called. Snapshots are numbered in the order in which they are taken. -/
inductive Step
  | snapshot (now? : Option Instant)
  | snapshotOf (k : Nat) (now? : Option Instant)
  | call (k : Nat) (f : Function) (args : List Value)

namespace Step

/-- Whether a snapshot is taken without an instant. -/
def isUntimed : Step → Bool
  | .snapshot none | .snapshotOf _ none => true
  | _ => false

/-- Whether a snapshot of the library itself is taken without an instant. -/
def readsClock : Step → Bool
  | .snapshot none => true
  | _ => false

end Step

/-- A call on a snapshot, with what came of it. -/
structure Exchange where
  snapshot : Nat
  function : Function
  args : List Value
  result : Except Fault Value

def Exchange.call (x : Exchange) : Function × List Value := (x.function, x.args)

/-- What there is after some steps. -/
structure Evaluations (σ : Type) where
  session : Session σ
  snapshots : List (Library σ)
  exchanges : List Exchange

namespace Evaluations

/-- A snapshot of a library is taken, unless its clock fails. -/
def take (e : Evaluations σ) (l : Library σ) (now? : Option Instant) : Evaluations σ :=
  match (l.snapshot now?).run.run e.session with
  | (.ok taken, session) => { e with session, snapshots := e.snapshots ++ [taken] }
  | (.error _, session) => { e with session }

/-- One step with a library. There is nothing to be done with a snapshot that was not taken. -/
def step (l : Library σ) (e : Evaluations σ) : Step → Evaluations σ
  | .snapshot now? => e.take l now?
  | .snapshotOf k now? =>
    match e.snapshots[k]? with
    | none => e
    | some taken => e.take taken now?
  | .call k f args =>
    match e.snapshots[k]? with
    | none => e
    | some taken =>
      let (result, session) := (taken.call f args).run.run e.session
      { e with session, exchanges := e.exchanges ++ [⟨k, f, args, result⟩] }

/-- Steps with a library that begin in a session. -/
def after (l : Library σ) (s : Session σ) (steps : List Step) : Evaluations σ :=
  steps.foldl (step l) ⟨s, [], []⟩

def through (e : Evaluations σ) (k : Nat) : List Exchange :=
  e.exchanges.filter fun x => x.snapshot == k

end Evaluations

/-- The results of calls of one library that follow each other. -/
def Library.results (l : Library σ) : List (Function × List Value) → Session σ →
    List (Except Fault Value)
  | [], _ => []
  | (f, args) :: rest, s =>
    let (result, s) := (l.call f args).run.run s
    result :: l.results rest s

/-! ## Clocks -/

namespace ClockSource

/-- What a clock shows when it is read after some readings. -/
def reading (c : ClockSource) (n : Nat) : Except Fault Instant :=
  match c.readings[n]? with
  | some i => .ok i
  | none => c.afterwards

def drop (c : ClockSource) (n : Nat) : ClockSource := { c with readings := c.readings.drop n }

theorem reading_drop (c : ClockSource) (n : Nat) : (c.drop n).reading 0 = c.reading n := by
  simp [reading, drop]

theorem drop_drop (c : ClockSource) (n : Nat) : (c.drop n).drop 1 = c.drop (n + 1) := by
  simp [drop]

end ClockSource

theorem readClock_run (s : Session σ) :
    (readClock .live).run.run s = (s.clock.reading 0, { s with clock := s.clock.drop 1 }) := by
  rcases s with ⟨world, _ | ⟨i, rest⟩, afterwards⟩
  · exact run_ofExcept _ _
  · rfl

/-- What can be told from steps and a clock alone: how often the clock was read, the instants of the
snapshots, and the calls on them. -/
structure Ledger where
  readings : Nat
  instants : List Instant
  calls : List (Nat × Function × List Value)

namespace Ledger

def step (clock : ClockSource) (g : Ledger) : Step → Ledger
  | .snapshot none =>
    ⟨g.readings + 1, g.instants ++ (clock.reading g.readings).toOption.toList, g.calls⟩
  | .snapshot (some i) => ⟨g.readings, g.instants ++ [i], g.calls⟩
  | .snapshotOf k now? =>
    ⟨g.readings, g.instants ++ (g.instants[k]?.map now?.getD).toList, g.calls⟩
  | .call k f args =>
    match g.instants[k]? with
    | none => g
    | some _ => ⟨g.readings, g.instants, g.calls ++ [(k, f, args)]⟩

def after (clock : ClockSource) (steps : List Step) : Ledger := steps.foldl (step clock) ⟨0, [], []⟩

def callsOf (g : Ledger) (k : Nat) : List (Function × List Value) :=
  (g.calls.filter fun c => c.1 == k).map Prod.snd

theorem step_readings (clock : ClockSource) (g : Ledger) (st : Step) :
    (g.step clock st).readings = g.readings + if st.readsClock then 1 else 0 := by
  rcases st with (_ | i) | ⟨k, now?⟩ | ⟨k, f, args⟩
  · rfl
  · rfl
  · rfl
  · simp only [step, Step.readsClock]
    split <;> rfl

theorem after_readings (clock : ClockSource) (steps : List Step) :
    (after clock steps).readings = steps.countP Step.readsClock := by
  induction steps using List.reverseRecOn with
  | nil => rfl
  | append_singleton steps st ih =>
    have hstep : after clock (steps ++ [st]) = (after clock steps).step clock st := by
      simp [after]
    rw [hstep, step_readings, ih, List.countP_append, List.countP_singleton]

end Ledger

/-! ## What steps preserve -/

section Invariant

variable (p : Primitives σ) (settings : Settings) (clock : ClockSource)

/-- What came of a call is what comes of it at an instant, whatever the session was used for. -/
def AnsweredAt (i : Instant) (x : Exchange) : Prop :=
  ∀ s : Session σ, s.world.Sound →
    (((evaluation p settings i).call x.function x.args).run.run s).1 = x.result

/-- How evaluations stand to the steps that have been made. -/
structure Kept (g : Ledger) (e : Evaluations σ) : Prop where
  sound : e.session.world.Sound
  clock_eq : e.session.clock = clock.drop g.readings
  snapshots_eq : e.snapshots = g.instants.map (evaluation p settings)
  calls_eq : e.exchanges.map (fun x => (x.snapshot, x.call)) = g.calls
  answered : ∀ x ∈ e.exchanges, ∃ i, g.instants[x.snapshot]? = some i ∧ AnsweredAt p settings i x

variable {p settings clock} {g : Ledger} {e : Evaluations σ}

/-- A snapshot is taken at an instant, or its clock fails. -/
theorem Kept.take (h : Kept p settings clock g e) {l : Library σ} {now? : Option Instant}
    (taken : Except Fault Instant) {s : Session σ} {n : Nat}
    (hrun : (l.snapshot now?).run.run e.session = (taken.map (evaluation p settings), s))
    (hworld : s.world = e.session.world) (hclock : s.clock = clock.drop n) :
    Kept p settings clock ⟨n, g.instants ++ taken.toOption.toList, g.calls⟩ (e.take l now?) := by
  have hsound : s.world.Sound := hworld ▸ h.sound
  have hanswered : ∀ x ∈ e.exchanges, ∃ i,
      (g.instants ++ taken.toOption.toList)[x.snapshot]? = some i ∧ AnsweredAt p settings i x := by
    intro x hx
    obtain ⟨i, hi, hanswer⟩ := h.answered x hx
    refine ⟨i, ?_, hanswer⟩
    rw [List.getElem?_append_left (List.getElem?_eq_some_iff.1 hi).1, hi]
  rw [Evaluations.take, hrun]
  rcases taken with fault | i
  · refine ⟨hsound, hclock, ?_, h.calls_eq, hanswered⟩
    rw [List.map_append, ← h.snapshots_eq]
    exact (List.append_nil _).symm
  · refine ⟨hsound, hclock, ?_, h.calls_eq, hanswered⟩
    rw [List.map_append, ← h.snapshots_eq]
    rfl

theorem Kept.step (hp : p.Stateless) (h : Kept p settings clock g e) (st : Step) :
    Kept p settings clock (g.step clock st) (e.step ⟨p.toHost settings, .live⟩ st) := by
  have hsnapshot (k : Nat) : e.snapshots[k]? = g.instants[k]?.map (evaluation p settings) := by
    rw [h.snapshots_eq, List.getElem?_map]
  rcases st with (_ | now) | ⟨k, now?⟩ | ⟨k, f, args⟩
  · have hrun : (Library.snapshot ⟨p.toHost settings, .live⟩ none).run.run e.session =
        ((clock.reading g.readings).map (evaluation p settings),
          { e.session with clock := clock.drop (g.readings + 1) }) := by
      rw [Library.snapshot, run_bind, readClock_run, h.clock_eq, ClockSource.reading_drop,
        ClockSource.drop_drop]
      cases clock.reading g.readings <;> rfl
    exact h.take (clock.reading g.readings) hrun rfl rfl
  · have hrun : (Library.snapshot ⟨p.toHost settings, .live⟩ (some now)).run.run e.session =
        (.ok (evaluation p settings now), e.session) := rfl
    exact h.take (.ok now) hrun rfl h.clock_eq
  · rcases hk : g.instants[k]? with _ | i
    · simpa [Evaluations.step, Ledger.step, hsnapshot, hk] using h
    · have hrun : ((evaluation p settings i).snapshot now?).run.run e.session =
          (.ok (evaluation p settings (now?.getD i)), e.session) := by
        cases now? <;> rfl
      have htake : Kept p settings clock ⟨g.readings, g.instants ++ [now?.getD i], g.calls⟩
          (e.take (evaluation p settings i) now?) := h.take (.ok _) hrun rfl h.clock_eq
      simpa [Evaluations.step, Ledger.step, hsnapshot, hk] using htake
  · rcases hk : g.instants[k]? with _ | i
    · simpa [Evaluations.step, Ledger.step, hsnapshot, hk] using h
    · obtain ⟨r, hr⟩ := Library.call_settled hp settings i f args
      obtain ⟨s, hrun, hs, hclock⟩ := hr e.session h.sound
      -- `r` is the result in every sound session, so the exchange stands whatever follows
      have hnew : AnsweredAt p settings i ⟨k, f, args, r⟩ := fun t ht => by
        obtain ⟨t', hrun', -⟩ := hr t ht
        rw [hrun']
      have hstep : e.step ⟨p.toHost settings, .live⟩ (.call k f args) =
          ⟨s, e.snapshots, e.exchanges ++ [⟨k, f, args, r⟩]⟩ := by
        simp [Evaluations.step, hsnapshot, hk, hrun]
      have hledger : g.step clock (.call k f args) =
          ⟨g.readings, g.instants, g.calls ++ [(k, f, args)]⟩ := by
        simp only [Ledger.step, hk]
      rw [hstep, hledger]
      refine ⟨hs, hclock.trans h.clock_eq, h.snapshots_eq, ?_, fun x hx => ?_⟩
      · rw [List.map_append, h.calls_eq]
        rfl
      · rcases List.mem_append.1 hx with hx | hx
        · exact h.answered x hx
        · obtain rfl := List.mem_singleton.1 hx
          exact ⟨i, hk, hnew⟩

theorem Kept.after (hp : p.Stateless) (s : Session σ) (hs : s.world.Sound) (steps : List Step) :
    Kept p settings s.clock (.after s.clock steps)
      (.after ⟨p.toHost settings, .live⟩ s steps) := by
  induction steps using List.reverseRecOn with
  | nil => exact ⟨hs, rfl, rfl, rfl, fun x hx => by cases hx⟩
  | append_singleton steps st ih =>
    rw [Ledger.after, Evaluations.after, List.foldl_append, List.foldl_append]
    exact ih.step hp st

theorem Kept.callsOf_eq (h : Kept p settings clock g e) (k : Nat) :
    (e.through k).map Exchange.call = g.callsOf k := by
  rw [Ledger.callsOf, ← h.calls_eq, List.filter_map, List.map_map]
  rfl

/-- Calls that are answered as at one instant have the results of that instant. -/
theorem results_of_answeredAt (hp : p.Stateless) {i : Instant} : ∀ {xs : List Exchange},
    (∀ x ∈ xs, AnsweredAt p settings i x) → ∀ {s : Session σ}, s.world.Sound →
      (evaluation p settings i).results (xs.map Exchange.call) s = xs.map fun x => x.result
  | [], _, _, _ => rfl
  | x :: xs, hxs, s, hs => by
    rw [List.forall_mem_cons] at hxs
    obtain ⟨r, hr⟩ := Library.call_settled hp settings i x.function x.args
    obtain ⟨s', hrun, hs', -⟩ := hr s hs
    have hresult : r = x.result := by
      rw [← hxs.1 s hs, hrun]
    -- the call leaves a sound session behind, in which the other calls are answered
    simp only [List.map_cons, Exchange.call, Library.results, hrun, hresult]
    exact congrArg (List.cons _) (results_of_answeredAt hp hxs.2 hs')

end Invariant

/-- With stateless primitives and the usual answers, whatever a host was used for: the snapshots are
those of the ledger, and the clock is read by the steps that are said to read it. What each snapshot
gets is what it gets alone on a fresh host, and its temporal functions answer for its instant. -/
theorem evaluations_apart {p : Primitives σ} (hp : p.Stateless) (settings : Settings) (state : σ)
    (earlier : List String) (log : List Record) (clock : ClockSource) (steps : List Step) :
    let store := (World.ofSettings settings state).patterns.after earlier
    let e := Evaluations.after ⟨p.toHost settings, .live⟩ ⟨⟨state, store, log⟩, clock⟩ steps
    let ledger := Ledger.after clock steps
    e.snapshots = ledger.instants.map (evaluation p settings) ∧
    e.session.clock = clock.drop (steps.countP Step.readsClock) ∧
    ∀ k i, ledger.instants[k]? = some i →
      (∀ state' clock', ((e.through k).map fun x => x.result) =
        (evaluation p settings i).results (ledger.callsOf k)
          ⟨World.ofSettings settings state', clock'⟩) ∧
      ∀ x ∈ e.through k, ∀ b, atInstant? p.zones settings i x.function x.args = some b →
        x.result = .ok (.bool b) := by
  intro store e ledger
  have hempty (state' : σ) : (World.ofSettings settings state').Sound := fun x hx => by cases hx
  have hstart : (World.mk state store log).Sound := Glob.Store.after_sound (hempty state) earlier
  have hkept : Kept p settings clock (.after clock steps) e :=
    Kept.after hp ⟨⟨state, store, log⟩, clock⟩ hstart steps
  refine ⟨hkept.snapshots_eq, Ledger.after_readings clock steps ▸ hkept.clock_eq, fun k i hk => ?_⟩
  have hanswered : ∀ x ∈ e.through k, AnsweredAt p settings i x := by
    intro x hx
    obtain ⟨hmem, hsnapshot⟩ := List.mem_filter.1 hx
    obtain ⟨j, hj, hanswer⟩ := hkept.answered x hmem
    rw [beq_iff_eq.1 hsnapshot] at hj
    obtain rfl : i = j := Option.some.inj (hk.symm.trans hj)
    exact hanswer
  refine ⟨fun state' clock' => ?_, fun x hx b hb => ?_⟩
  · rw [← hkept.callsOf_eq k]
    exact (results_of_answeredAt hp hanswered (hempty state')).symm
  · have hcall := Library.call_atInstant p settings i hb ⟨World.ofSettings settings state, clock⟩
    rw [← hanswered x hx ⟨World.ofSettings settings state, clock⟩ (hempty state), hcall]

/-- A host that knows no name, and says nothing about itself. -/
def Library.unknowing : Library HostTable.Lookups :=
  ⟨(HostTable.primitives ⟨[], [], .universal⟩).toHost .standard, .live⟩

/-- Two evaluations that take turns, on a Thursday and on the Friday after it. -/
theorem evaluations_apart_two :
    let clock : ClockSource := ⟨[.ofParts ⟨1970, 1, 1⟩ 0 0 (some 0)], .error .badCall⟩
    let e := Evaluations.after .unknowing ⟨World.ofSettings .standard [], clock⟩
      [.snapshot none, .snapshot (some (.ofParts ⟨1970, 1, 2⟩ 0 0 (some 0))),
        .call 1 .weekdayRange [.text "THU", .text "GMT"],
        .call 0 .weekdayRange [.text "THU", .text "GMT"], .call 1 .isResolvable [.text "a"]]
    (HostTable.primitives ⟨[], [], .universal⟩).Stateless ∧ e.session.clock.readings = [] ∧
      ((e.through 0).map fun x => x.result) = [.ok (.bool true)] ∧
      ((e.through 1).map fun x => x.result) = [.ok (.bool false), .ok (.bool false)] := by
  intro clock e
  have hp := HostTable.primitives_stateless ⟨[], [], .universal⟩
  obtain ⟨-, hclock, hthrough⟩ := evaluations_apart hp .standard [] [] [] clock
    [.snapshot none, .snapshot (some (.ofParts ⟨1970, 1, 2⟩ 0 0 (some 0))),
      .call 1 .weekdayRange [.text "THU", .text "GMT"],
      .call 0 .weekdayRange [.text "THU", .text "GMT"], .call 1 .isResolvable [.text "a"]]
  have hfirst := (hthrough 0 _ rfl).1 [] clock
  have hsecond := (hthrough 1 _ rfl).1 [] clock
  exact ⟨hp, congrArg ClockSource.readings hclock, hfirst.trans rfl, hsecond.trans rfl⟩

/-- Of three snapshots without an instant the second is one of a snapshot. The clock is read twice,
not three times, and the third snapshot is at the second reading. -/
theorem snapshotOf_reads_nothing :
    let clock : ClockSource :=
      ⟨[⟨0, some 0, none⟩, ⟨1, some 0, none⟩, ⟨2, some 0, none⟩], .error .badCall⟩
    let steps : List Step := [.snapshot none, .snapshotOf 0 none, .snapshot none]
    let e := Evaluations.after .unknowing ⟨World.ofSettings .standard [], clock⟩ steps
    steps.countP Step.isUntimed = 3 ∧ e.snapshots.length = 3 ∧
      e.session.clock.readings = [⟨2, some 0, none⟩] ∧
      e.session.clock ≠ clock.drop (steps.countP Step.isUntimed) := by
  intro clock steps e
  have hreadings : e.session.clock.readings = [⟨2, some 0, none⟩] := rfl
  refine ⟨rfl, rfl, hreadings, fun h => ?_⟩
  rw [h] at hreadings
  cases hreadings

end PacScript.Script
