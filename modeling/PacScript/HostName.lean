import PacScript.Text.Case

/-!
# Host names

Tests on the labels of host names. Names are compared without regard to letter case and to white
space around them.
-/

namespace PacScript.HostName

open PacScript.Text

/-- A name in the form in which names are compared. -/
def clean (name : String) : List Char := lower (trim name.toList)

/-- The number of dots in a name. -/
def levels (host : String) : Nat := (trim host.toList).count '.'

/-- Whether a name has no dot. -/
def isPlain (host : String) : Bool := !(trim host.toList).contains '.'

/-- Whether a host is the given domain, or ends in it when the domain starts with a dot. -/
def inDomain (host domain : String) : Bool :=
  let h := clean host
  let d := clean domain
  if d.isEmpty || d == ['.'] then false
  else h == d || (d.head? == some '.' && d.isSuffixOf h)

/-- Whether a host is the given name, or its first non-empty label. -/
def isLocalOrDomain (host hostDomain : String) : Bool :=
  let h := clean host
  let hd := clean hostDomain
  if h.isEmpty then false
  else if h == hd then true
  else if h.contains '.' then false
  else (pieces '.' hd).find? (fun label => !label.isEmpty) == some h

end PacScript.HostName
