import PacScript.Host.Basic
import PacScript.Script.Function

/-!
# The library of a script

What happens when a script calls a function: the arguments are checked, the host is asked, and its
answer becomes a value of the function's type. A fault on the way gives the sentinel, with a warning
unless the call itself was at fault; only the last step, making the host's answer a value of the
type, lets its faults through.

A snapshot of a library has a frozen clock, so that every question about the time in one evaluation
is about the same instant.
-/

namespace PacScript.Script

/-- Where clock readings come from: some that are known, and what follows them. -/
structure ClockSource where
  readings : List Instant
  afterwards : Except Fault Instant

/-- The clock of a library. -/
inductive Clock
  | live
  | frozen (i : Instant)

/-- The world of a library: that of its host, and the readings of the clock to come. -/
structure Session (σ : Type) where
  world : World σ
  clock : ClockSource

abbrev ScriptM (σ : Type) := ExceptT Fault (StateM (Session σ))

variable {σ : Type}

/-- What the host does for the script. -/
def onHost {α : Type} (act : HostM σ α) : ScriptM σ α :=
  ExceptT.mk do
    let s ← get
    let (result, world) := act.run.run s.world
    set { s with world }
    pure result

/-- The instant that the clock shows; reading a live clock uses up a reading. -/
def readClock : Clock → ScriptM σ Instant
  | .frozen i => pure i
  | .live => do
    let s ← get
    match s.clock.readings with
    | [] => MonadExcept.ofExcept s.clock.afterwards
    | i :: rest => do
      set { s with clock := { s.clock with readings := rest } }
      pure i

/-- A library over a host. -/
structure Library (σ : Type) where
  host : Host σ
  clock : Clock

namespace Library

/-- The library with its clock frozen at an instant, or at what it shows now. -/
def snapshot (l : Library σ) (now? : Option Instant) : ScriptM σ (Library σ) := do
  let now ← match now? with
    | some i => pure i
    | none => readClock l.clock
  pure { l with clock := .frozen now }

/-- The fault of a value where a text belongs. It is worded with the value, so one that cannot be
written is a fault of its own. -/
def refusal (v : Value) : Fault := if v.isWritable then .badCall else .coercion .malformed

/-- The text that an argument must be. -/
def textArg : Value → ScriptM σ String
  | .text s => pure s
  | v => throw (refusal v)

def ask (l : Library σ) (c : Call) : ScriptM σ Value := onHost (l.host.answer c)

/-- Asks about a range that the arguments describe, at the instant that the clock shows. -/
def askAbout {ρ : Type} (l : Library σ) (range : Except PeriodFault ρ) (c : ρ → Instant → Call) :
    ScriptM σ Value := do
  match range with
  | .error fault => throw (.ofPeriod fault)
  | .ok range => l.ask (c range (← readClock l.clock))

/-- What the host answers to a call of a script. -/
def invoke (l : Library σ) (f : Function) (args : List Value) : ScriptM σ Value := do
  match f, args with
  | .isPlainHostName, [host] => l.ask (.isPlainHostName (← textArg host))
  | .dnsDomainIs, [host, domain] =>
    l.ask (.dnsDomainIs (← textArg host) (← textArg domain))
  | .localHostOrDomainIs, [host, hostDomain] =>
    l.ask (.localHostOrDomainIs (← textArg host) (← textArg hostDomain))
  | .isResolvable, [host] => l.ask (.isResolvable (← textArg host))
  | .isInNet, [host, pattern, mask] =>
    l.ask (.isInNet (← textArg host) (← textArg pattern) (← textArg mask))
  | .dnsResolve, [host] => l.ask (.dnsResolve (← textArg host))
  | .myIpAddress, [] => l.ask .myIpAddress
  | .dnsDomainLevels, [host] => l.ask (.dnsDomainLevels (← textArg host))
  | .shExpMatch, [text, expression] =>
    l.ask (.shExpMatch (← textArg text) (← textArg expression))
  | .isResolvableEx, [host] => l.ask (.isResolvableEx (← textArg host))
  | .isInNetEx, [host, prefixes] =>
    l.ask (.isInNetEx (← textArg host) (← textArg prefixes))
  | .dnsResolveEx, [host] => l.ask (.dnsResolveEx (← textArg host))
  | .myIpAddressEx, [] => l.ask .myIpAddressEx
  | .sortIpAddressList, [addresses] => l.ask (.sortIpAddressList (← textArg addresses))
  | .getClientVersion, [] => l.ask .clientVersion
  | .weekdayRange, args =>
    if args.length ≤ 3 then l.askAbout (WeekdayRange.ofArgs args) .weekdayRange
    else throw .badCall
  | .dateRange, args =>
    if args.length ≤ 7 then l.askAbout (DateRange.ofArgs args) .dateRange else throw .badCall
  | .timeRange, args =>
    if args.length ≤ 7 then l.askAbout (TimeRange.ofArgs args) .timeRange else throw .badCall
  | _, _ => throw .badCall

/-- What a script gets when something goes wrong. -/
def sentinel (f : Function) : Value :=
  match f.resultType with
  | .bool => .bool false
  | .int => .int 0
  | .text => .text ""
  | .nothing => .null

/-- The warning that the host is to blame for what came of a call. Where the arguments cannot be
written, the blanks of the warning are not filled. -/
def hostWarning (f : Function) (args : List Value) : String :=
  if (Value.tuple args).isWritable then
    "Host provider failed in " ++ f.name ++ "() " ++ (Value.tuple args).shown
  else "Host provider failed in %s() %r"

/-- The warning that the arguments of a script are to blame. -/
def scriptWarning (f : Function) (args : List Value) (fault : Fault) : String :=
  if (Value.tuple args).isWritable then
    "PAC script error: arguments passed to " ++ f.name ++ "() " ++ (Value.tuple args).shown ++
      " are faulty: " ++ fault.message
  else "PAC script error: arguments passed to %s() %r are faulty: %s"

/-- The warning about a fault, if it deserves one. -/
def warning? (f : Function) (args : List Value) (fault : Fault) : Option String :=
  if fault.isBadCall then none
  else if fault.isPeriod then some (scriptWarning f args fault)
  else some (hostWarning f args)

/-- The host's answer as a value of a type. -/
def coerce (type : ResultType) (v : Value) : Except Fault Value :=
  match type with
  | .bool => .ok (.bool v.truthy)
  | .int => .int <$> v.toInt.mapError Fault.coercion
  | .text => .text <$> v.written
  | .nothing => .ok .null

/-- What is done about a fault of a call: it is warned about, if it deserves that. -/
def recover (f : Function) (args : List Value) (fault : Fault) : ScriptM σ Value := do
  match warning? f args fault with
  | none => pure .null
  | some message =>
    onHost (HostM.report .warning .library message)
    pure .null

/-- What a script gets for the host's answer to a call. -/
def delivered (f : Function) : Value → Except Fault Value
  | .null => .ok (sentinel f)
  | v => coerce f.resultType v

/-- Passes a message on if it has a text; whatever goes wrong with it is ignored. -/
def send (l : Library σ) : Except Fault String → ScriptM σ Value
  | .error _ => pure .null
  | .ok message =>
    tryCatch (do
      let _ ← l.ask (.alert (.text message))
      pure .null) fun _ => pure .null

/-- Passes a message of the script on. It never fails once it is called with a suitable number of
arguments. -/
def alert (l : Library σ) (args : List Value) : ScriptM σ Value :=
  match args with
  | [] | [.null] => l.send (.ok "")
  | [v] => l.send v.written
  | _ => throw .badCall

/-- A call of a script. -/
def call (l : Library σ) (f : Function) (args : List Value) : ScriptM σ Value := do
  match f with
  | .alert => l.alert args
  | f =>
    let answer ← tryCatch (l.invoke f args) (recover f args)
    MonadExcept.ofExcept (delivered f answer)

end Library

end PacScript.Script
