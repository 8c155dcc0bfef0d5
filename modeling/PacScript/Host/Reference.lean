import PacScript.Settings.Basic

/-!
# References to hosts

Settings may name the class of hosts to use, as `package.module:ClassName`. Which modules there are
and what they hold is a catalogue that the surroundings provide.
-/

namespace PacScript

/-- A class of hosts; one that is abstract only serves to derive others from it. -/
structure HostClass where
  name : String
  isAbstract : Bool
  deriving DecidableEq

/-- The modules that can be imported, with the names of the host classes in each. -/
abbrev Catalogue := List (String × List (String × HostClass))

namespace HostClass

/-- The parts of a reference, both of which must be there. -/
def splitReference (reference : String) : Except Fault (String × String) :=
  match Text.cut? ':' reference.toList with
  | some (module, name) =>
    if module.isEmpty || name.isEmpty then .error (.settings (.badReference reference))
    else .ok (String.ofList module, String.ofList name)
  | none => .error (.settings (.badReference reference))

/-- The class that a reference names. A module cannot be named relative to another. -/
def ofReference (catalogue : Catalogue) (reference : String) : Except Fault HostClass := do
  let (module, name) ← splitReference reference
  if module.toList.head? == some '.' then .error .badCall
  else
    match catalogue.lookup module with
    | none => .error (.settings (.noModule module))
    | some classes =>
      match classes.lookup name with
      | none => .error (.settings (.notProvider reference))
      | some c => if c.isAbstract then .error .badCall else .ok c

/-- The class that settings name, or else the usual one. -/
def ofSettings (catalogue : Catalogue) (usual : HostClass) (s : Settings) :
    Except Fault HostClass :=
  if s.provider.truthy then
    match s.provider with
    | .text reference => ofReference catalogue reference
    | _ => .error .noMember
  else .ok usual

end HostClass

end PacScript
