import PacScript.Host.Answers
import PacScript.Resolver.Basic

/-!
# The host of the system

The host whose primitives are those of the resolver.
-/

namespace PacScript.Resolver

/-- The limits that settings give on a machine with some longest wait, for a cache of some capacity,
which must be positive. -/
def limits? (longest : Binary64) (settings : Settings) (capacity : Int) :
    Except Fault ResolverLimits :=
  if h : 0 < capacity.toNat then
    .ok ⟨settings.resolveTimeout, longest, settings.cacheTtl, capacity.toNat, h⟩
  else .error (.capacity .answers)

/-- How many answers are kept when nothing else is said. -/
def defaultCapacity : Nat := 1024

/-- The limits that settings give for a cache of the usual capacity. -/
def limits (longest : Binary64) (settings : Settings) : ResolverLimits :=
  ⟨settings.resolveTimeout, longest, settings.cacheTtl, defaultCapacity, by decide⟩

def primitives (zones : Zones) (limits : ResolverLimits) : Primitives Resolver where
  zones := zones
  resolve host filter := Value.ofAddresses <$> HostM.onState (resolve limits host filter)
  localAddresses := Value.ofAddresses <$> HostM.onState (localAddresses limits)
  primaryV4Address := Value.address <$> HostM.onState (primaryV4Address limits)

end PacScript.Resolver
