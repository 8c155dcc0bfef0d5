import PacScript.Calendar.Zone
import PacScript.Period.Argument
import PacScript.Proxy.Line
import PacScript.Value.Coercion

/-!
# Faults and reports

Everything that can go wrong, as causes. `Fault.message?` words those causes that the library words
itself. What the library reports while it works is a `Record`: something worth knowing, or a
warning.
-/

namespace PacScript

open PacScript.Text

/-- What is wrong with an address text. -/
inductive AddressFault
  | invalid (text : String)
  | notV4 (pattern mask : String)
  | noPrefix (text : String)
  deriving DecidableEq

/-- Why a name has no addresses. -/
inductive ResolutionFault
  | emptyName
  | timedOut (name : String) (limit : Binary64)
  | failed (name reason : String)
  | unknownHost (name : String)
  | noLocalAddress
  | noV4Address
  deriving DecidableEq

/-- What is wrong with settings, with their file, or with the provider that they name. -/
inductive SettingsFault
  | notBoolean (v : Value)
  | notNumeric
  | timeoutNotPositive
  | negativeTtl
  | noCapacity
  | unknownZone (zone : Value)
  | unreadable (file : String)
  | notMapping (file : String)
  | sectionNotMapping (file : String)
  | badReference (reference : String)
  | noModule (name : String)
  | notProvider (reference : String)

/-- Which store was asked to hold nothing. -/
inductive CapacityFault
  | patterns
  | answers
  deriving DecidableEq

/-- The kinds of faults that come from outside, as far as handlers tell them apart. -/
inductive FaultKind
  /-- A fault of the library without a closer kind. -/
  | general
  | settings
  | resolution
  | address
  | period
  | proxyLine
  /-- A call with arguments that do not fit. -/
  | badCall
  /-- Waiting took too long. -/
  | timeout
  /-- A fault of the operating system, by name. -/
  | system (name : String)
  /-- A fault of text encoding, by name. -/
  | encoding (name : String)
  /-- Any other fault, by name. -/
  | other (name : String)
  deriving DecidableEq

/-- A fault. -/
inductive Fault
  | address (cause : AddressFault)
  | resolution (cause : ResolutionFault)
  | settings (cause : SettingsFault)
  | period (cause : PeriodFault)
  | proxyLine (cause : ProxyLineFault)
  | capacity (cause : CapacityFault)
  | calendar (cause : CalendarFault)
  | coercion (cause : CoercionFault)
  /-- An address with a zone has no place in a sorted list. -/
  | unsortable
  /-- A call with arguments that do not fit, or of something that cannot be called so. -/
  | badCall
  /-- A value lacks what is asked of it. -/
  | noMember
  /-- A dictionary lacks a key. -/
  | noKey
  /-- A row is too short. -/
  | noIndex
  /-- Bytes are no text. -/
  | notText
  /-- A value is inside itself, and following it would not end. -/
  | endless
  /-- A wait is longer than the machine knows. -/
  | tooLong
  /-- A fault that came from outside, with its text if it has one. -/
  | foreign (kind : FaultKind) (text : Option String)

def AddressFault.message : AddressFault → String
  | .invalid text => "Invalid IP address: " ++ quoted text
  | .notV4 pattern mask =>
    "isInNet needs IPv4 pattern and mask, got " ++ quoted pattern ++ "/" ++ quoted mask
  | .noPrefix text => "No valid IP prefix in " ++ quoted text

def ResolutionFault.message : ResolutionFault → String
  | .emptyName => "Empty host name"
  | .timedOut name limit => "Timed out resolving " ++ name ++ " after " ++ limit.text ++ "s"
  | .failed name reason => "Cannot resolve " ++ name ++ ": " ++ reason
  | .unknownHost name => "Unknown host " ++ name
  | .noLocalAddress => "No local address found"
  | .noV4Address => "No IPv4 address found"

def SettingsFault.message : SettingsFault → String
  | .notBoolean v => "prefer_ipv6_addresses must be a boolean, got " ++ v.shown
  | .notNumeric => "Invalid numeric setting"
  | .timeoutNotPositive => "resolve_timeout must be positive"
  | .negativeTtl => "dns_cache_ttl cannot be negative"
  | .noCapacity => "glob_cache_capacity must be at least 1"
  | .unknownZone zone => "Unknown timezone: " ++ zone.shown
  | .unreadable file => "Cannot parse " ++ file
  | .notMapping file => file ++ " must contain a mapping"
  | .sectionNotMapping file => "'pac' section of " ++ file ++ " must be a mapping"
  | .badReference reference =>
    "Provider reference must look like 'package.module:ClassName', got " ++ quoted reference
  | .noModule name => "Cannot import provider module " ++ quoted name
  | .notProvider reference => reference ++ " is not a HostProvider subclass"

def CapacityFault.message : CapacityFault → String
  | .patterns => "capacity must be at least 1"
  | .answers => "cache_capacity must be at least 1"

namespace Fault

/-- The wording of a fault, when the library or its origin words it. -/
def message? : Fault → Option String
  | .address cause => some cause.message
  | .resolution cause => some cause.message
  | .settings cause => some cause.message
  | .period cause => some cause.message
  | .proxyLine cause => some cause.message
  | .capacity cause => some cause.message
  | .foreign _ text => text
  | _ => none

def message (f : Fault) : String := f.message?.getD ""

def isResolution : Fault → Bool
  | .resolution _ => true
  | .foreign .resolution _ => true
  | _ => false

def isAddress : Fault → Bool
  | .address _ => true
  | .foreign .address _ => true
  | _ => false

def isPeriod : Fault → Bool
  | .period _ => true
  | .foreign .period _ => true
  | _ => false

/-- Whether a call was made with arguments that do not fit. -/
def isBadCall : Fault → Bool
  | .badCall => true
  | .coercion .unsuitable => true
  | .foreign .badCall _ => true
  | _ => false

def isTimeout : Fault → Bool
  | .foreign .timeout _ => true
  | _ => false

/-- Whether a look-up failed in a way that is expected of the network. -/
def isLookupFailure : Fault → Bool
  | .foreign (.system _) _ => true
  | .foreign (.encoding _) _ => true
  | .notText => true
  | f => f.isAddress

end Fault

/-- The fault of arguments that are refused. The refusal is worded with the value that is refused,
so a value that cannot be written is a fault of its own. -/
def Fault.ofPeriod (cause : PeriodFault) : Fault :=
  if cause.isWritable then .period cause else .coercion .malformed

/-- The text of a value. -/
def Value.written (v : Value) : Except Fault String := v.toText.mapError Fault.coercion

/-! ## Reports -/

inductive Level
  | info
  | warning
  deriving DecidableEq

/-- Which part of the library reports. -/
inductive Channel
  | settings
  | host
  | library
  | alert
  deriving DecidableEq

/-- A log record. -/
structure Record where
  level : Level
  channel : Channel
  message : String
  deriving DecidableEq

end PacScript
