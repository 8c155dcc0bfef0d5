/-!
# Functions of scripts

The functions that a script may call, with their names and the types of their results. Whatever goes
wrong in a function, a script gets the sentinel of its type.
-/

namespace PacScript.Script

/-- The type of a result. -/
inductive ResultType
  | bool
  | int
  | text
  | nothing
  deriving DecidableEq

/-- The functions of scripts, in the order in which they are installed. -/
inductive Function
  | isPlainHostName
  | dnsDomainIs
  | localHostOrDomainIs
  | isResolvable
  | isInNet
  | dnsResolve
  | myIpAddress
  | dnsDomainLevels
  | shExpMatch
  | weekdayRange
  | dateRange
  | timeRange
  | isResolvableEx
  | isInNetEx
  | dnsResolveEx
  | myIpAddressEx
  | sortIpAddressList
  | getClientVersion
  | alert
  deriving DecidableEq

namespace Function

def all : List Function :=
  [.isPlainHostName, .dnsDomainIs, .localHostOrDomainIs, .isResolvable, .isInNet, .dnsResolve,
   .myIpAddress, .dnsDomainLevels, .shExpMatch, .weekdayRange, .dateRange, .timeRange,
   .isResolvableEx, .isInNetEx, .dnsResolveEx, .myIpAddressEx, .sortIpAddressList,
   .getClientVersion, .alert]

def name : Function → String
  | .isPlainHostName => "isPlainHostName"
  | .dnsDomainIs => "dnsDomainIs"
  | .localHostOrDomainIs => "localHostOrDomainIs"
  | .isResolvable => "isResolvable"
  | .isInNet => "isInNet"
  | .dnsResolve => "dnsResolve"
  | .myIpAddress => "myIpAddress"
  | .dnsDomainLevels => "dnsDomainLevels"
  | .shExpMatch => "shExpMatch"
  | .weekdayRange => "weekdayRange"
  | .dateRange => "dateRange"
  | .timeRange => "timeRange"
  | .isResolvableEx => "isResolvableEx"
  | .isInNetEx => "isInNetEx"
  | .dnsResolveEx => "dnsResolveEx"
  | .myIpAddressEx => "myIpAddressEx"
  | .sortIpAddressList => "sortIpAddressList"
  | .getClientVersion => "getClientVersion"
  | .alert => "alert"

def ofName? (name : String) : Option Function := all.find? fun f => f.name == name

def resultType : Function → ResultType
  | .dnsDomainLevels => .int
  | .dnsResolve | .dnsResolveEx | .myIpAddress | .myIpAddressEx | .sortIpAddressList
  | .getClientVersion => .text
  | .alert => .nothing
  | _ => .bool

end Function

end PacScript.Script
