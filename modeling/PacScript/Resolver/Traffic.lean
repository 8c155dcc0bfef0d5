import PacScript.Resolver.Basic

/-!
# Calls that overlap

A resolver serves calls that begin while others wait. A look-up that ends is handed at once to all
calls that wait for it. A call gives up when its deadline has come, and no time passes before it
does.

`Traffic.step` lets one thing happen, and does nothing when that cannot happen now. What has
happened is recorded in order.
-/

namespace PacScript.Resolver

/-- A call for the addresses of a host. Calls are numbered as they begin. -/
structure Call where
  number : Nat
  host : String
  filter : FamilyFilter
  deriving DecidableEq

/-- A call that waits for a look-up. -/
structure Waiting where
  call : Call
  lookup : Lookup
  deadline : Binary64

/-- What is recorded. -/
inductive Event
  | started (lookup : Lookup)
  | answered (lookup : Lookup) (found : List Address) (time : Binary64)
  | failed (lookup : Lookup) (fault : Fault) (time : Binary64)
  | waits (call : Call) (lookup : Lookup)
  | returned (call : Call) (found : List Address) (time : Binary64)
  | raised (call : Call) (fault : Fault) (time : Binary64)
  | closed

/-- A resolver with the calls that wait, the number of all calls, and the record. -/
structure Traffic where
  resolver : Resolver
  calls : Nat
  waiting : List Waiting
  history : List Event

/-- What can happen: a call begins, a look-up of a key ends, a call gives up, time passes, and the
resolver is closed. -/
inductive Step
  | resolve (host : String) (filter : FamilyFilter)
  | complete (key : String) (reply : Reply)
  | giveUp (number : Nat)
  | advance (now : Binary64)
  | close

namespace Event

/-- The end of a call. -/
def ofResult (call : Call) (time : Binary64) : Except Fault (List Address) → Event
  | .ok found => .returned call found time
  | .error fault => .raised call fault time

/-- The end of a look-up. -/
def ofOutcome (lookup : Lookup) (time : Binary64) : Except Fault (List Address) → Event
  | .ok found => .answered lookup found time
  | .error fault => .failed lookup fault time

end Event

namespace Traffic

def ofResolver (r : Resolver) : Traffic := ⟨r, 0, [], []⟩

def record (t : Traffic) (events : List Event) : Traffic :=
  { t with history := t.history ++ events }

/-- A call waits for a look-up from now on. -/
def wait (limits : ResolverLimits) (call : Call) (lookup : Lookup) (t : Traffic) : Traffic :=
  let waiting : Waiting := ⟨call, lookup, limits.deadline t.resolver.now⟩
  { t with waiting := t.waiting ++ [waiting] }

/-- A call begins. -/
def begin (limits : ResolverLimits) (host : String) (filter : FamilyFilter) (t : Traffic) :
    Traffic :=
  let call : Call := ⟨t.calls, host, filter⟩
  let t := { t with calls := t.calls + 1 }
  match t.resolver.start limits host with
  | (.fails fault, resolver) => { t with resolver }.record [.raised call fault resolver.now]
  | (.found addresses, resolver) =>
    { t with resolver }.record [.returned call (Address.select filter addresses) resolver.now]
  | (.joins lookup, resolver) =>
    ({ t with resolver }.wait limits call lookup).record [.waits call lookup]
  | (.starts lookup, resolver) =>
    ({ t with resolver }.wait limits call lookup).record [.started lookup, .waits call lookup]

/-- What a call that waits is told when its look-up ends. -/
def handOver (limits : ResolverLimits) (outcome : Except Fault (List Address)) (time : Binary64)
    (w : Waiting) : Event :=
  .ofResult w.call time (received limits w.call.host w.call.filter outcome)

/-- The look-up of a key ends. -/
def complete (limits : ResolverLimits) (key : String) (reply : Reply) (t : Traffic) : Traffic :=
  match t.resolver.pending.lookup key with
  | none => t
  | some lookup =>
    let outcome := outcomeOf reply
    let now := t.resolver.now
    let served := t.waiting.filter fun w => w.lookup == lookup
    { t with
      resolver := t.resolver.finish limits key outcome
      waiting := t.waiting.filter fun w => w.lookup != lookup
    }.record (.ofOutcome lookup now outcome :: served.map (handOver limits outcome now))

/-- A call stops waiting. -/
def giveUp (limits : ResolverLimits) (number : Nat) (t : Traffic) : Traffic :=
  let now := t.resolver.now
  match t.waiting.find? fun w => w.call.number == number && w.deadline.le now with
  | none => t
  | some w =>
    let fault := giveUpFault limits (nameOf w.call.host)
    { t with waiting := t.waiting.filter fun w => w.call.number != number
    }.record [.raised w.call fault now]

/-- Time passes, but not past a deadline. -/
def advance (now : Binary64) (t : Traffic) : Traffic :=
  if t.resolver.now.le now && t.waiting.all fun w => !w.deadline.lt now then
    { t with resolver := { t.resolver with now } }
  else t

def close (t : Traffic) : Traffic := { t with resolver := t.resolver.close }.record [.closed]

/-- One thing happens. -/
def step (limits : ResolverLimits) (t : Traffic) : Step → Traffic
  | .resolve host filter => t.begin limits host filter
  | .complete key reply => t.complete limits key reply
  | .giveUp number => t.giveUp limits number
  | .advance now => t.advance now
  | .close => t.close

/-- One thing happens after the other. -/
def run (limits : ResolverLimits) (t : Traffic) (steps : List Step) : Traffic :=
  steps.foldl (step limits) t

end Traffic

end PacScript.Resolver
