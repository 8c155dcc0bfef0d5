import PacScript.Fault
import PacScript.Glob.Store
import PacScript.Period.Reading
import PacScript.Settings.Basic

/-!
# Hosts

A host answers the questions that a script cannot answer by itself. Every question is a `Call`; a
host is its settings together with an answer to each call, which may be any value, may fail, and may
change what the host remembers. Its compiled shell expressions and its log belong to the `World` in
which it runs.
-/

namespace PacScript

/-- What a host changes while it answers: its own state, its compiled expressions and its log. -/
structure World (σ : Type) where
  state : σ
  patterns : Glob.Store
  log : List Record

/-- Something a host does: it fails or has a result, and changes the world in either case. -/
abbrev HostM (σ : Type) := ExceptT Fault (StateM (World σ))

/-- The questions that a host answers. -/
inductive Hook
  | resolve
  | localAddresses
  | primaryV4Address
  | isPlainHostName
  | dnsDomainIs
  | localHostOrDomainIs
  | dnsDomainLevels
  | shExpMatch
  | isResolvable
  | isResolvableEx
  | dnsResolve
  | dnsResolveEx
  | isInNet
  | isInNetEx
  | myIpAddress
  | myIpAddressEx
  | sortIpAddressList
  | weekdayRange
  | dateRange
  | timeRange
  | clientVersion
  | alert
  deriving DecidableEq

/-- A question with what it is about. -/
inductive Call
  | resolve (host : String) (filter : FamilyFilter)
  | localAddresses
  | primaryV4Address
  | isPlainHostName (host : String)
  | dnsDomainIs (host domain : String)
  | localHostOrDomainIs (host hostDomain : String)
  | dnsDomainLevels (host : String)
  | shExpMatch (text expression : String)
  | isResolvable (host : String)
  | isResolvableEx (host : String)
  | dnsResolve (host : String)
  | dnsResolveEx (host : String)
  | isInNet (host pattern mask : String)
  | isInNetEx (host prefixes : String)
  | myIpAddress
  | myIpAddressEx
  | sortIpAddressList (addresses : String)
  | weekdayRange (range : WeekdayRange) (now : Instant)
  | dateRange (range : DateRange) (now : Instant)
  | timeRange (range : TimeRange) (now : Instant)
  | clientVersion
  | alert (message : Value)

namespace Call

def hook : Call → Hook
  | .resolve _ _ => .resolve
  | .localAddresses => .localAddresses
  | .primaryV4Address => .primaryV4Address
  | .isPlainHostName _ => .isPlainHostName
  | .dnsDomainIs _ _ => .dnsDomainIs
  | .localHostOrDomainIs _ _ => .localHostOrDomainIs
  | .dnsDomainLevels _ => .dnsDomainLevels
  | .shExpMatch _ _ => .shExpMatch
  | .isResolvable _ => .isResolvable
  | .isResolvableEx _ => .isResolvableEx
  | .dnsResolve _ => .dnsResolve
  | .dnsResolveEx _ => .dnsResolveEx
  | .isInNet _ _ _ => .isInNet
  | .isInNetEx _ _ => .isInNetEx
  | .myIpAddress => .myIpAddress
  | .myIpAddressEx => .myIpAddressEx
  | .sortIpAddressList _ => .sortIpAddressList
  | .weekdayRange _ _ => .weekdayRange
  | .dateRange _ _ => .dateRange
  | .timeRange _ _ => .timeRange
  | .clientVersion => .clientVersion
  | .alert _ => .alert

/-- The text that an argument must be. -/
def textArg : Value → Except Fault String
  | .text s => .ok s
  | _ => .error .noMember

/-- A call of a hook with texts as arguments. The temporal hooks are called with a range that has
been read already. -/
def ofArgs (hook : Hook) (args : List Value) : Except Fault Call :=
  match hook, args with
  | .resolve, [host] => do .ok (.resolve (← textArg host) .every)
  | .resolve, [host, family] => do
    let host ← textArg host
    match family with
    | .null => .ok (.resolve host .every)
    | .int version => .ok (.resolve host (.ofVersion version))
    | _ => .ok (.resolve host .nothing)
  | .localAddresses, [] => .ok .localAddresses
  | .primaryV4Address, [] => .ok .primaryV4Address
  | .isPlainHostName, [host] => do .ok (.isPlainHostName (← textArg host))
  | .dnsDomainIs, [host, domain] => do
    .ok (.dnsDomainIs (← textArg host) (← textArg domain))
  | .localHostOrDomainIs, [host, hostDomain] => do
    .ok (.localHostOrDomainIs (← textArg host) (← textArg hostDomain))
  | .dnsDomainLevels, [host] => do .ok (.dnsDomainLevels (← textArg host))
  | .shExpMatch, [text, expression] => do
    .ok (.shExpMatch (← textArg text) (← textArg expression))
  | .isResolvable, [host] => do .ok (.isResolvable (← textArg host))
  | .isResolvableEx, [host] => do .ok (.isResolvableEx (← textArg host))
  | .dnsResolve, [host] => do .ok (.dnsResolve (← textArg host))
  | .dnsResolveEx, [host] => do .ok (.dnsResolveEx (← textArg host))
  | .isInNet, [host, pattern, mask] => do
    .ok (.isInNet (← textArg host) (← textArg pattern) (← textArg mask))
  | .isInNetEx, [host, prefixes] => do
    .ok (.isInNetEx (← textArg host) (← textArg prefixes))
  | .myIpAddress, [] => .ok .myIpAddress
  | .myIpAddressEx, [] => .ok .myIpAddressEx
  | .sortIpAddressList, [addresses] => do .ok (.sortIpAddressList (← textArg addresses))
  | .clientVersion, [] => .ok .clientVersion
  | .alert, [message] => .ok (.alert message)
  | _, _ => .error .badCall

end Call

/-- A host: its settings and its answers. -/
structure Host (σ : Type) where
  settings : Settings
  answer : Call → HostM σ Value

/-- What is every host's own: how it answers the questions about the network, and the zones of its
machine. -/
structure Primitives (σ : Type) where
  zones : Zones
  resolve : String → FamilyFilter → HostM σ Value
  localAddresses : HostM σ Value
  primaryV4Address : HostM σ Value

namespace World

/-- The world of a host with given settings before its first answer. -/
def ofSettings {σ : Type} (settings : Settings) (state : σ) : World σ where
  state := state
  patterns := ⟨settings.globCapacity, [], settings.globCapacity_pos⟩
  log := []

end World

namespace HostM

variable {σ : Type}

/-- Reports something. -/
def report (level : Level) (channel : Channel) (message : String) : HostM σ Unit :=
  modify fun w => { w with log := w.log ++ [⟨level, channel, message⟩] }

/-- What is done in the host's own state. -/
def onState {α : Type} (act : ExceptT Fault (StateM σ) α) : HostM σ α :=
  ExceptT.mk do
    let w ← get
    let (result, state) := act.run.run w.state
    set { w with state }
    pure result

end HostM

end PacScript
