import PacScript.Host.Answers

/-!
# Hosts from tables

A host that knows the addresses of names, and its own, from tables. It remembers which names were
looked up.
-/

namespace PacScript

/-- The addresses of names and of the machine, and its zones. -/
structure HostTable where
  names : List (String × List Address)
  locals : List Address
  zones : Zones

namespace HostTable

/-- The names that have been looked up, the oldest first. -/
abbrev Lookups := List String

/-- The addresses of a host, which may be given by its address. -/
def find? (t : HostTable) (host : String) : Option (List Address) :=
  match Address.parse? host with
  | some a => some [a]
  | none => t.names.lookup (String.ofList (HostName.clean host))

def resolve (t : HostTable) (host : String) (filter : FamilyFilter) : HostM Lookups Value := do
  modify fun w => { w with state := w.state ++ [host] }
  match t.find? host with
  | none => throw (.resolution (.unknownHost host))
  | some found => pure (.ofAddresses (Address.select filter found))

def localAddresses (t : HostTable) : HostM Lookups Value :=
  if t.locals.isEmpty then throw (.resolution .noLocalAddress) else pure (.ofAddresses t.locals)

def primaryV4Address (t : HostTable) : HostM Lookups Value :=
  match t.locals.find? fun a => a.family == .v4 with
  | some a => pure (.address a)
  | none => throw (.resolution .noV4Address)

def primitives (t : HostTable) : Primitives Lookups where
  zones := t.zones
  resolve := t.resolve
  localAddresses := t.localAddresses
  primaryV4Address := t.primaryV4Address

end HostTable

end PacScript
