import PacScript.Address.Prefix
import PacScript.Address.Sorting
import PacScript.Host.Basic
import PacScript.HostName

/-!
# Usual answers

The answers that a host gives when only its three primitives are its own. A name that cannot be
resolved has no addresses, and a machine without addresses has the local one. Primitives may answer
with any value, so what is done with their answers can fail.
-/

namespace PacScript

namespace Value

/-- The first element of a row, or the value under the key `0`. -/
def first : Value → Except Fault Value
  | .list (v :: _) => .ok v
  | .tuple (v :: _) => .ok v
  | .list [] => .error .noIndex
  | .tuple [] => .error .noIndex
  | .text s =>
    match s.toList with
    | [] => .error .noIndex
    | c :: _ => .ok (.text (String.ofList [c]))
  | .bytes (b :: _) => .ok (.int b.toNat)
  | .bytes [] => .error .noIndex
  | .dict entries =>
    match lookup? (.int 0) entries with
    | some v => .ok v
    | none => .error .noKey
  | _ => .error .badCall

/-- The elements of a row, the characters of a text or the keys of a dictionary. -/
def elements : Value → Except Fault (List Value)
  | .list items => .ok items
  | .tuple items => .ok items
  | .set items => .ok items
  | .text s => .ok (s.toList.map fun c => .text (String.ofList [c]))
  | .bytes content => .ok (content.map fun b => .int b.toNat)
  | .dict entries => .ok (entries.map (·.1))
  | _ => .error .badCall

/-- The address that a value must be where its family is asked for. -/
def asAddress : Value → Except Fault Address
  | .address a => .ok a
  | _ => .error .noMember

def ofAddresses (addresses : List Address) : Value := .list (addresses.map .address)

end Value

/-- The address of the machine itself. -/
def localhost : String := "127.0.0.1"

namespace Answers

/-- Whether an address, masked, is a masked pattern. Pattern and mask are IPv4 addresses; no IPv6
address matches. -/
def inNet (address : Address) (pattern mask : String) : Except AddressFault Bool :=
  match Address.parse? pattern, Address.parse? mask with
  | none, _ => .error (.invalid pattern)
  | _, none => .error (.invalid mask)
  | some (.v4 p), some (.v4 m) =>
    match address with
    | .v4 a => .ok (a &&& m == p &&& m)
    | .v6 _ _ => .ok false
  | _, _ => .error (.notV4 pattern mask)

/-- Whether a value, which must be an address unless pattern or mask is faulty, is in a network. -/
def valueInNet (v : Value) (pattern mask : String) : Except Fault Bool :=
  match inNet (.v4 0) pattern mask with
  | .error _ => .ok false
  | .ok _ => do
    match inNet (← v.asAddress) pattern mask with
    | .ok b => .ok b
    | .error _ => .ok false

/-- Whether one of some values is in a network; those after it are not looked at. -/
def anyInNetworks (networks : List Network) : List Value → Except Fault Bool
  | [] => .ok false
  | v :: rest => do
    let a ← v.asAddress
    if networks.any fun n => n.contains a then .ok true else anyInNetworks networks rest

/-- The texts of addresses with the preferred family first. -/
def orderedText (preferV6 : Bool) (found : Value) : Except Fault String := do
  let addresses ← (← found.elements).mapM Value.asAddress
  .ok (Address.join (Address.orderByFamily preferV6 addresses))

/-- Whether a range includes an instant, told by the system clock and the zone of local time. -/
def onClocks (zones : Zones) (settings : Settings)
    (includes : SystemClock → Option Zone → Except CalendarFault Bool) : Except Fault Bool := do
  let local? ← settings.localZone zones
  (includes zones.system local?).mapError .calendar

def plainText (v : Value) : Except Fault Value := .text <$> v.written

end Answers

namespace Primitives

variable {σ : Type} (p : Primitives σ) (settings : Settings)

open HostM

/-- The addresses of a name, of which there are none when it cannot be resolved. -/
def resolveQuietly (host : String) (filter : FamilyFilter) : HostM σ Value :=
  tryCatch (p.resolve host filter) fun fault =>
    if fault.isResolution then pure (.list []) else throw fault

def isResolvable (host : String) (filter : FamilyFilter) : HostM σ Value := do
  let found ← p.resolveQuietly host filter
  pure (.bool found.truthy)

def dnsResolve (host : String) : HostM σ Value := do
  let found ← p.resolveQuietly host (.only .v4)
  if found.truthy then
    let first ← MonadExcept.ofExcept found.first
    MonadExcept.ofExcept (Answers.plainText first)
  else pure (.text "")

def dnsResolveEx (host : String) : HostM σ Value := do
  let found ← p.resolveQuietly host .every
  .text <$> MonadExcept.ofExcept (Answers.orderedText settings.preferV6 found)

def isInNet (host pattern mask : String) : HostM σ Value := do
  let found ← p.resolveQuietly host (.only .v4)
  if found.truthy then
    let first ← MonadExcept.ofExcept found.first
    .bool <$> MonadExcept.ofExcept (Answers.valueInNet first pattern mask)
  else pure (.bool false)

def isInNetEx (host prefixes : String) : HostM σ Value := do
  match Network.parseList? prefixes with
  | none => pure (.bool false)
  | some networks =>
    let found ← p.resolveQuietly host .every
    let values ← MonadExcept.ofExcept found.elements
    .bool <$> MonadExcept.ofExcept (Answers.anyInNetworks networks values)

def myIpAddress : HostM σ Value :=
  let text : HostM σ Value := do
    let address ← p.primaryV4Address
    MonadExcept.ofExcept (Answers.plainText address)
  tryCatch text fun fault => do
    if fault.isResolution then
      report .warning .host ("Cannot get localhost ip address: " ++ fault.message)
      pure (.text localhost)
    else throw fault

def myIpAddressEx : HostM σ Value := do
  let found ←
    tryCatch p.localAddresses fun fault => do
      if fault.isResolution then
        report .warning .host ("Cannot get localhost ip addresses: " ++ fault.message)
        pure (.list [])
      else throw fault
  if found.truthy then
    .text <$> MonadExcept.ofExcept (Answers.orderedText settings.preferV6 found)
  else pure (.text localhost)

def shExpMatch (text expression : String) : HostM σ Value := do
  let w ← get
  let (b, patterns) := w.patterns.matches? text expression
  set { w with patterns }
  pure (.bool b)

/-- The usual answer to a call. -/
def answer : Call → HostM σ Value
  | .resolve host filter => p.resolve host filter
  | .localAddresses => p.localAddresses
  | .primaryV4Address => p.primaryV4Address
  | .isPlainHostName host => pure (.bool (HostName.isPlain host))
  | .dnsDomainIs host domain => pure (.bool (HostName.inDomain host domain))
  | .localHostOrDomainIs host hostDomain =>
    pure (.bool (HostName.isLocalOrDomain host hostDomain))
  | .dnsDomainLevels host => pure (.int (HostName.levels host))
  | .shExpMatch text expression => shExpMatch text expression
  | .isResolvable host => p.isResolvable host (.only .v4)
  | .isResolvableEx host => p.isResolvable host .every
  | .dnsResolve host => p.dnsResolve host
  | .dnsResolveEx host => p.dnsResolveEx settings host
  | .isInNet host pattern mask => p.isInNet host pattern mask
  | .isInNetEx host prefixes => p.isInNetEx host prefixes
  | .myIpAddress => p.myIpAddress
  | .myIpAddressEx => p.myIpAddressEx settings
  | .sortIpAddressList addresses =>
    match Address.sortList? addresses with
    | some s => pure (.text s)
    | none => throw .unsortable
  | .weekdayRange range now =>
    .bool <$> MonadExcept.ofExcept (Answers.onClocks p.zones settings (range.includes · now ·))
  | .dateRange range now =>
    .bool <$> MonadExcept.ofExcept (Answers.onClocks p.zones settings (range.includes · now ·))
  | .timeRange range now =>
    .bool <$> MonadExcept.ofExcept (Answers.onClocks p.zones settings (range.includes · now ·))
  | .clientVersion => pure (.text settings.clientVersion)
  | .alert message => do
    report .info .alert ("PAC script says: " ++ message.plain)
    pure .null

/-- The host that gives the usual answers. -/
def toHost : Host σ where
  settings := settings
  answer := p.answer settings

end Primitives

/-- What a replaced hook does, whatever it is asked. -/
abbrev Outcome := Except Fault Value

namespace Host

variable {σ : Type}

/-- The host with the usual answers, except for hooks that are replaced. Answers that build on a
replaced primitive build on its replacement. -/
def withReplaced (outcomes : Hook → Option Outcome) (settings : Settings) (p : Primitives σ) :
    Host σ :=
  let replaced (hook : Hook) (usual : HostM σ Value) : HostM σ Value :=
    match outcomes hook with
    | some outcome => MonadExcept.ofExcept outcome
    | none => usual
  let p : Primitives σ :=
    { zones := p.zones
      resolve := fun host filter => replaced .resolve (p.resolve host filter)
      localAddresses := replaced .localAddresses p.localAddresses
      primaryV4Address := replaced .primaryV4Address p.primaryV4Address }
  { settings, answer := fun c => replaced c.hook (p.answer settings c) }

end Host

end PacScript
