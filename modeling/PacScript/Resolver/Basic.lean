import PacScript.Address.Parser
import PacScript.Fault
import PacScript.Settings.Basic
import PacScript.Text.Case

/-!
# The resolver

Names are resolved by look-ups that may take longer than a caller is willing to wait. A look-up that
is too slow stays pending; callers for the same name wait for it again instead of starting another,
and its answer is kept when it arrives after all. Answers are kept for a limited time, in a cache of
limited size from which the oldest go first.

A machine knows a longest wait. A caller that is to wait for longer than that does not wait at all:
it has the answer of a look-up that has already ended, or a fault.

Time is the resolver's own clock, which moves when it is told to and when a caller has waited in
vain.
-/

namespace PacScript

/-- What a look-up comes to: rows of address families and texts, or a fault. A row without family
belongs to neither of the two. -/
inductive Reply
  | rows (rows : List (Option Family × String))
  | fails (fault : Fault)

/-- What a resolver finds around it: the replies to lower-case names, the names whose look-ups hang,
those whose look-ups have ended before their callers begin to wait, the name of the machine, and the
address from which each family is left. -/
structure Surroundings where
  replies : List (String × Reply)
  hanging : List String
  prompt : List String
  hostName : String
  outbound : List (Family × String)

/-- An answer that is kept until it expires. -/
structure CacheEntry where
  expires : Binary64
  found : List Address

/-- A look-up: its number among all that were started, and the name it asks for. -/
structure Lookup where
  number : Nat
  name : String
  deriving DecidableEq

/-- The state of a resolver. The cache has its oldest entry first; pending look-ups have their key;
`queries` are all names asked for so far. -/
structure Resolver where
  surroundings : Surroundings
  now : Binary64
  cache : List (String × CacheEntry)
  pending : List (String × Lookup)
  queries : List String

/-- How a resolver works: how long callers wait, the longest wait that the machine knows, how long
answers are kept, and how many. -/
structure ResolverLimits where
  timeout : Binary64
  longest : Binary64
  ttl : Binary64
  capacity : Nat
  capacity_pos : 0 < capacity

namespace ResolverLimits

/-- Callers wait: the time is positive, and the machine knows such waits. -/
def canWait (limits : ResolverLimits) : Bool :=
  Binary64.zero.lt limits.timeout && limits.timeout.le limits.longest

/-- Callers are to wait for longer than the machine can. -/
def tooLong (limits : ResolverLimits) : Bool :=
  Binary64.zero.lt limits.timeout && !limits.timeout.le limits.longest

/-- When a caller stops waiting that begins now. One that cannot wait stops at once. -/
def deadline (limits : ResolverLimits) (now : Binary64) : Binary64 :=
  if limits.canWait then now.add limits.timeout else now

end ResolverLimits

abbrev ResolverM := ExceptT Fault (StateM Resolver)

namespace Resolver

def ofSurroundings (s : Surroundings) : Resolver := ⟨s, Binary64.zero, [], [], []⟩

/-- The name that a host is looked up by. -/
def nameOf (host : String) : String := String.ofList (Text.trim host.toList)

/-- The key under which a name is known. -/
def keyOf (name : String) : String := String.ofList (Text.lower name.toList)

/-! ## The cache -/

/-- The cache without an entry. -/
def erase (key : String) (cache : List (String × CacheEntry)) : List (String × CacheEntry) :=
  cache.filter fun e => e.1 != key

/-- The answer kept for a key. An expired one is forgotten. -/
def cached (limits : ResolverLimits) (key : String) (r : Resolver) :
    Option (List Address) × Resolver :=
  if limits.ttl.le Binary64.zero then (none, r)
  else
    match r.cache.lookup key with
    | none => (none, r)
    | some entry =>
      if entry.expires.lt r.now then (none, { r with cache := erase key r.cache })
      else (some entry.found, r)

/-- The cache with a new answer as its youngest entry: expired entries go, and then the oldest ones
while there are too many. -/
def storeIn (limits : ResolverLimits) (now : Binary64) (key : String) (found : List Address)
    (cache : List (String × CacheEntry)) : List (String × CacheEntry) :=
  let live := cache.filter fun e => !e.2.expires.lt now
  let cache := erase key live ++ [(key, ⟨now.add limits.ttl, found⟩)]
  cache.drop (cache.length - limits.capacity)

/-- Keeps an answer, unless answers are not kept at all. -/
def store (limits : ResolverLimits) (key : String) (found : List Address) (r : Resolver) :
    Resolver :=
  if limits.ttl.le Binary64.zero then r
  else { r with cache := storeIn limits r.now key found r.cache }

/-! ## Look-ups -/

/-- The addresses of a reply, each once. -/
def addressesOf : List (Option Family × String) → Except Fault (List Address)
  | [] => .ok []
  | (none, _) :: rest => addressesOf rest
  | (some _, text) :: rest =>
    match Address.parse? text with
    | none => .error (.address (.invalid text))
    | some a => do .ok (a :: (← addressesOf rest))

/-- What a look-up comes to by its reply. -/
def outcomeOf : Reply → Except Fault (List Address)
  | .fails fault => .error fault
  | .rows rows => Address.dedup <$> addressesOf rows

/-- The reply to a name now. A name without reply is not known. -/
def replyTo (s : Surroundings) (name : String) : Reply :=
  match s.replies.lookup (keyOf name) with
  | none => .fails (.foreign (.system "OSError") (some "Name or service not known"))
  | some reply => reply

/-- A look-up is no longer pending. -/
def settle (key : String) (r : Resolver) : Resolver :=
  { r with pending := r.pending.filter fun e => e.1 != key }

/-- The look-up of a key ends: an answer is kept, and the look-up is no longer pending. -/
def finish (limits : ResolverLimits) (key : String) (outcome : Except Fault (List Address))
    (r : Resolver) : Resolver :=
  match outcome with
  | .error _ => settle key r
  | .ok found => settle key (store limits key found r)

/-! ## Calls -/

/-- What a call comes to at first: it fails, it has its addresses, or it waits for a look-up that
was pending or that it starts. -/
inductive Outset
  | fails (fault : Fault)
  | found (addresses : List Address)
  | joins (lookup : Lookup)
  | starts (lookup : Lookup)

/-- Joins the look-up that is pending for a key, or starts one. -/
def submit (key name : String) (r : Resolver) : Outset × Resolver :=
  match r.pending.lookup key with
  | some lookup => (.joins lookup, r)
  | none =>
    let lookup : Lookup := ⟨r.queries.length, name⟩
    (.starts lookup,
      { r with queries := r.queries ++ [name], pending := r.pending ++ [(key, lookup)] })

/-- The beginning of a call. An address stands for itself. -/
def start (limits : ResolverLimits) (host : String) (r : Resolver) : Outset × Resolver :=
  let name := nameOf host
  if name.isEmpty then (.fails (.resolution .emptyName), r)
  else
    match Address.parse? name with
    | some a => (.found [a], r)
    | none =>
      match r.cached limits (keyOf name) with
      | (some found, r) => (.found found, r)
      | (none, r) => r.submit (keyOf name) name

def timeoutFault (limits : ResolverLimits) (name : String) : Fault :=
  .resolution (.timedOut name limits.timeout)

/-- The fault of a caller that stops waiting. -/
def giveUpFault (limits : ResolverLimits) (name : String) : Fault :=
  if limits.tooLong then .tooLong else timeoutFault limits name

/-- The fault of a look-up as callers see it. -/
def lookupFault (limits : ResolverLimits) (name : String) (fault : Fault) : Fault :=
  if fault.isTimeout then timeoutFault limits name
  else if fault.isLookupFailure then .resolution (.failed name fault.message)
  else fault

/-- What a caller gets from a look-up that ends while it waits. -/
def received (limits : ResolverLimits) (host : String) (filter : FamilyFilter) :
    Except Fault (List Address) → Except Fault (List Address)
  | .ok found => .ok (Address.select filter found)
  | .error fault => .error (lookupFault limits (nameOf host) fault)

/-- The look-up of a key ends before a caller stops waiting for it. -/
def endsInTime (limits : ResolverLimits) (s : Surroundings) (key : String) : Bool :=
  !s.hanging.contains key && (limits.canWait || s.prompt.contains key)

/-- A caller waits alone: the look-up ends in time, as the surroundings have it, or else it stays
pending, and the caller stops waiting. -/
def await (limits : ResolverLimits) (host : String) (filter : FamilyFilter) (lookup : Lookup)
    (r : Resolver) : Except Fault (List Address) × Resolver :=
  let key := keyOf (nameOf host)
  if endsInTime limits r.surroundings key then
    let outcome := outcomeOf (replyTo r.surroundings lookup.name)
    (received limits host filter outcome, r.finish limits key outcome)
  else (.error (giveUpFault limits (nameOf host)), { r with now := limits.deadline r.now })

/-- The addresses of a host that are asked for, when no other call comes between. -/
def resolve (limits : ResolverLimits) (host : String) (filter : FamilyFilter) :
    ResolverM (List Address) :=
  ExceptT.mk fun r =>
    match r.start limits host with
    | (.fails fault, r) => (.error fault, r)
    | (.found addresses, r) => (.ok (Address.select filter addresses), r)
    | (.joins lookup, r) => r.await limits host filter lookup
    | (.starts lookup, r) => r.await limits host filter lookup

/-- The address from which the machine reaches the network, if it can be told. -/
def outboundAddress (r : Resolver) (family : Family) : Option Address :=
  (r.surroundings.outbound.lookup family).bind Address.parse?

/-- The addresses of the machine: those of its name, and those from which it is left. -/
def localAddresses (limits : ResolverLimits) : ResolverM (List Address) := do
  let named ←
    tryCatch (resolve limits (← get).surroundings.hostName .every) fun fault =>
      if fault.isResolution then pure [] else throw fault
  let r ← get
  let outbound := [Family.v4, Family.v6].filterMap r.outboundAddress
  let add (found : List Address) (a : Address) := if found.contains a then found else found ++ [a]
  let found := outbound.foldl add named
  if found.isEmpty then throw (.resolution .noLocalAddress) else pure found

/-- The IPv4 address that the network sees: the outbound one, unless it stands for none, or else the
first of the machine's. -/
def primaryV4Address (limits : ResolverLimits) : ResolverM Address := do
  let r ← get
  match (r.outboundAddress .v4).filter (!·.isUnspecified) with
  | some a => pure a
  | none =>
    match (← localAddresses limits).find? fun a => a.family == .v4 with
    | some a => pure a
    | none => throw (.resolution .noV4Address)

/-! ## What happens to a resolver -/

/-- Forgets all answers. -/
def close (r : Resolver) : Resolver := { r with cache := [] }

def advance (r : Resolver) (seconds : Binary64) : Resolver := { r with now := r.now.add seconds }

/-- From now on a name has another reply. -/
def setReply (r : Resolver) (name : String) (reply : Reply) : Resolver :=
  let others := r.surroundings.replies.filter fun e => e.1 != name
  { r with surroundings := { r.surroundings with replies := (name, reply) :: others } }

/-- From now on look-ups of a name hang. -/
def hang (r : Resolver) (name : String) : Resolver :=
  { r with surroundings := { r.surroundings with hanging := name :: r.surroundings.hanging } }

/-- Look-ups of a name hang no longer, and one that is pending ends. -/
def release (limits : ResolverLimits) (r : Resolver) (name : String) : Resolver :=
  let hanging := r.surroundings.hanging.filter (· != name)
  let r := { r with surroundings := { r.surroundings with hanging } }
  match r.pending.lookup name with
  | none => r
  | some lookup => r.finish limits name (outcomeOf (replyTo r.surroundings lookup.name))

/-- The keys of the cache, the oldest first. -/
def cacheKeys (r : Resolver) : List String := r.cache.map (·.1)

/-- The keys of the pending look-ups in order. -/
def pendingKeys (r : Resolver) : List String :=
  (r.pending.map (·.1)).mergeSort fun a b => decide (a ≤ b)

end Resolver

end PacScript
