import PacScript.Proofs.Script.Running
import PacScript.Resolver.Host

/-!
# The primary address

The address that the network sees is found by a probe, and if that finds none by a look-up of the
machine's name and two more probes. What these come to may change from one to the next, so the
search is stated for any look-up and any probes (`primaryBy`); the resolver's own search is the case
of its surroundings (`primaryV4Address_eq`).

The first probe passes over the unspecified address, but the search that follows does not: if the
first IPv4 address that it finds is unspecified, this is the primary address
(`primaryV4Address_unspecified`). So the search ends with an IPv4 address to be used, or a fault of
resolution, just if nothing misleads it (`primary_usable_iff`).
-/

namespace PacScript

namespace Resolver

open Script

/-- The addresses of a machine, those found by probes behind those of its name. -/
def gathered (named more : List Address) : Except Fault (List Address) :=
  let add (found : List Address) (a : Address) := if found.contains a then found else found ++ [a]
  let found := more.foldl add named
  if found.isEmpty then .error (.resolution .noLocalAddress) else .ok found

section Search

variable {σ : Type} (probe : Family → StateM σ (Option Address))
  (lookup : ExceptT Fault (StateM σ) (List Address))

/-- The addresses of a machine, by a look-up of its name and a probe of each family. -/
def localBy : ExceptT Fault (StateM σ) (List Address) := do
  let named ← tryCatch lookup fun fault => if fault.isResolution then pure [] else throw fault
  let v4 ← probe .v4
  let v6 ← probe .v6
  MonadExcept.ofExcept (gathered named (v4.toList ++ v6.toList))

/-- The primary address of a machine, by probes and a look-up of its name. -/
def primaryBy : ExceptT Fault (StateM σ) Address := do
  match (← probe .v4).filter (!·.isUnspecified) with
  | some a => pure a
  | none =>
    match (← localBy probe lookup).find? fun a => a.family == .v4 with
    | some a => pure a
    | none => throw (.resolution .noV4Address)

end Search

/-- A probe finds what the surroundings have. -/
def outboundProbe (family : Family) : StateM Resolver (Option Address) := do
  return (← get).outboundAddress family

/-- The look-up of the machine's name. -/
def nameLookup (limits : ResolverLimits) : ResolverM (List Address) := do
  resolve limits (← get).surroundings.hostName .every

theorem localAddresses_eq (limits : ResolverLimits) :
    localAddresses limits = localBy outboundProbe (nameLookup limits) := by
  funext r
  have hname : (nameLookup limits).run.run r =
      (resolve limits r.surroundings.hostName .every).run.run r := by
    rw [nameLookup, run_bind, run_get]
  have hprobe (family : Family) (r : Resolver) :
      (outboundProbe family).run r = (r.outboundAddress family, r) := rfl
  have houtbound (r : Resolver) : [Family.v4, Family.v6].filterMap r.outboundAddress =
      (r.outboundAddress .v4).toList ++ (r.outboundAddress .v6).toList := by
    rcases h4 : r.outboundAddress .v4 with _ | a <;>
      rcases h6 : r.outboundAddress .v6 with _ | b <;> simp [h4, h6]
  have hgathered (found : List Address) (r : Resolver) :
      (if found.isEmpty then throw (.resolution .noLocalAddress) else pure found :
        ResolverM (List Address)).run.run r =
      (if found.isEmpty then .error (.resolution .noLocalAddress) else .ok found, r) := by
    split <;> rfl
  unfold localAddresses localBy gathered
  show StateT.run (ExceptT.run _) r = StateT.run (ExceptT.run _) r
  simp only [run_bind, run_tryCatch, run_ofExcept, run_get, run_liftM, houtbound, hname, hprobe,
    hgathered]

theorem primaryV4Address_eq (limits : ResolverLimits) :
    primaryV4Address limits = primaryBy outboundProbe (nameLookup limits) := by
  unfold primaryV4Address primaryBy
  rw [localAddresses_eq]
  rfl

/-! ## What is found -/

/-- What the questions of a search come to, in the order in which they are asked: an IPv4 probe, the
look-up of the name, another IPv4 probe, and an IPv6 probe. -/
structure Soundings where
  first : Option Address
  named : Except Fault (List Address)
  again : Option Address
  other : Option Address

/-- The soundings of a search from some state. -/
def soundings {σ : Type} (probe : Family → StateM σ (Option Address))
    (lookup : ExceptT Fault (StateM σ) (List Address)) (s : σ) : Soundings :=
  let (first, s) := (probe .v4).run s
  let (named, s) := lookup.run.run s
  let (again, s) := (probe .v4).run s
  let (other, _) := (probe .v6).run s
  ⟨first, named, again, other⟩

namespace Soundings

/-- The first probe finds no address, or the unspecified one. -/
def Silent (t : Soundings) : Prop := ∀ a ∈ t.first, a.isUnspecified = true

/-- The addresses of the machine: those of its name, if it has any, and those of the last probes. -/
def addresses (t : Soundings) : List Address :=
  t.named.toOption.getD [] ++ (t.again.toList ++ t.other.toList)

/-- The first IPv4 address of the machine. -/
def firstV4? (t : Soundings) : Option Address := t.addresses.find? fun a => a.family == .v4

/-- What a search with such soundings comes to. -/
inductive Leads (t : Soundings) : Except Fault Address → Prop
  | outbound {a : Address} (hfirst : t.first = some a) (hspecified : a.isUnspecified = false) :
      Leads t (.ok a)
  | stray {fault : Fault} (hfirst : t.Silent) (hnamed : t.named = .error fault)
      (hkind : fault.isResolution = false) : Leads t (.error fault)
  | found {a : Address} (hfirst : t.Silent)
      (hnamed : ∀ fault, t.named = .error fault → fault.isResolution = true)
      (ha : t.firstV4? = some a) : Leads t (.ok a)
  | nothing {cause : ResolutionFault} (hfirst : t.Silent)
      (hnamed : ∀ fault, t.named = .error fault → fault.isResolution = true)
      (hnone : t.firstV4? = none) : Leads t (.error (.resolution cause))

/-- What keeps a search from a good end: a first probe that finds an address of the other family, a
look-up that fails in a way that callers do not expect, or an unspecified address in front of all
other IPv4 addresses. -/
inductive Misleads (t : Soundings) : Prop
  | family {a : Address} (hfirst : t.first = some a) (hspecified : a.isUnspecified = false)
      (hfamily : a.family ≠ .v4)
  | stray {fault : Fault} (hfirst : t.Silent) (hnamed : t.named = .error fault)
      (hkind : fault.isResolution = false)
  | unspecified {a : Address} (hfirst : t.Silent) (ha : t.firstV4? = some a)
      (hunspecified : a.isUnspecified = true)

end Soundings

/-! ## What a search comes to -/

/-- An address that is found again is not put in a second time, so the first one of a kind stays the
first. -/
theorem find?_foldl_add (p : Address → Bool) : ∀ (more found : List Address),
    (more.foldl (fun found a => if found.contains a then found else found ++ [a]) found).find? p =
      (found ++ more).find? p
  | [], found => by simp
  | a :: more, found => by
    rw [List.foldl_cons, find?_foldl_add p more]
    split
    · rename_i hmem
      have hmem : a ∈ found := by simpa using hmem
      rcases hfound : found.find? p with _ | b
      · have ha : p a = false := by simpa using List.find?_eq_none.1 hfound a hmem
        simp [List.find?_append, hfound, ha]
      · simp [List.find?_append, hfound]
    · rw [List.append_assoc]
      rfl

theorem gathered_cases (p : Address → Bool) (named more : List Address) :
    (∃ found, gathered named more = .ok found ∧ found.find? p = (named ++ more).find? p) ∨
    gathered named more = .error (.resolution .noLocalAddress) ∧
      (named ++ more).find? p = none := by
  have hfind := find?_foldl_add p more named
  unfold gathered
  simp only
  split
  · rename_i hempty
    rw [List.isEmpty_iff.1 hempty] at hfind
    exact Or.inr ⟨rfl, hfind.symm⟩
  · exact Or.inl ⟨_, rfl, hfind⟩

section Run

variable {σ : Type} {probe : Family → StateM σ (Option Address)}
  {lookup : ExceptT Fault (StateM σ) (List Address)} {s : σ}

theorem expected_or_stray (named : Except Fault (List Address)) :
    (∀ fault, named = .error fault → fault.isResolution = true) ∨
      ∃ fault, named = .error fault ∧ fault.isResolution = false := by
  rcases named with fault | found
  · rcases hkind : fault.isResolution with _ | _
    · exact Or.inr ⟨fault, rfl, hkind⟩
    · exact Or.inl fun _ h => by
        cases h
        exact hkind
  · exact Or.inl fun _ h => nomatch h

/-- A look-up that fails in a way that is not expected ends the search. -/
theorem localBy_run_of_stray {fault : Fault} {s' : σ}
    (hnamed : lookup.run.run s = (.error fault, s')) (hkind : fault.isResolution = false) :
    (localBy probe lookup).run.run s = (.error fault, s') := by
  simp only [localBy, run_bind, run_tryCatch, hnamed, hkind]
  rfl

/-- Any other look-up is followed by the last probes. -/
theorem localBy_run {named : Except Fault (List Address)} {again other : Option Address}
    {s₁ s₂ s₃ : σ} (hnamed : lookup.run.run s = (named, s₁))
    (hkind : ∀ fault, named = .error fault → fault.isResolution = true)
    (hagain : (probe .v4).run s₁ = (again, s₂)) (hother : (probe .v6).run s₂ = (other, s₃)) :
    (localBy probe lookup).run.run s =
      (gathered (named.toOption.getD []) (again.toList ++ other.toList), s₃) := by
  rcases named with fault | named
  · have hnone : StateT.run (ExceptT.run (if fault.isResolution then pure [] else throw fault :
        ExceptT Fault (StateM σ) (List Address))) s₁ = (.ok [], s₁) := by
      rw [hkind fault rfl]
      rfl
    simp only [localBy, run_bind, run_tryCatch, run_ofExcept, run_liftM, hnamed, hnone, hagain,
      hother]
    rfl
  · simp only [localBy, run_bind, run_tryCatch, run_ofExcept, run_liftM, hnamed, hagain,
      hother]
    rfl

theorem leads_primaryBy (s : σ) :
    (soundings probe lookup s).Leads ((primaryBy probe lookup).run.run s).1 := by
  rcases hfirst : (probe .v4).run s with ⟨first, s₁⟩
  rcases hnamed : lookup.run.run s₁ with ⟨named, s₂⟩
  rcases hagain : (probe .v4).run s₂ with ⟨again, s₃⟩
  rcases hother : (probe .v6).run s₃ with ⟨other, s₄⟩
  have hsoundings : soundings probe lookup s = ⟨first, named, again, other⟩ := by
    simp only [soundings, hfirst, hnamed, hagain, hother]
  rw [hsoundings]
  simp only [primaryBy, run_bind, run_liftM, hfirst]
  rcases hspecified : first.filter (!·.isUnspecified) with _ | a
  · have hsilent : (⟨first, named, again, other⟩ : Soundings).Silent := by
      intro a ha
      simpa using Option.filter_eq_none_iff.1 hspecified a ha
    rcases expected_or_stray named with hkind | ⟨fault, rfl, hkind⟩
    · simp only [hspecified, run_bind, localBy_run hnamed hkind hagain hother]
      rcases gathered_cases (fun a => a.family == .v4) (named.toOption.getD [])
        (again.toList ++ other.toList) with ⟨found, hfound, hfind⟩ | ⟨hfound, hfind⟩
      · rcases hv4 : found.find? fun a => a.family == .v4 with _ | a
        · rw [hfound]
          simp only [hv4]
          exact .nothing hsilent hkind (hfind.symm.trans hv4)
        · rw [hfound]
          simp only [hv4]
          exact .found hsilent hkind (hfind.symm.trans hv4)
      · rw [hfound]
        exact .nothing hsilent hkind hfind
    · simp only [hspecified, run_bind, localBy_run_of_stray hnamed hkind]
      exact .stray hsilent rfl hkind
  · obtain ⟨hfound, hset⟩ := Option.filter_eq_some_iff.1 hspecified
    simp only [hspecified]
    exact .outbound hfound (by simpa using hset)

end Run

/-! ## Good ends -/

/-- A primary address to be used, or a fault that callers expect. -/
def Usable (result : Except Fault Address) : Prop :=
  (∀ a, result = .ok a → a.family = .v4 ∧ a.isUnspecified = false) ∧
    ∀ fault, result = .error fault → fault.isResolution = true

theorem usable_ok_iff {a : Address} :
    Usable (.ok a) ↔ a.family = .v4 ∧ a.isUnspecified = false := by
  simp [Usable]

theorem usable_error_iff {fault : Fault} : Usable (.error fault) ↔ fault.isResolution = true := by
  simp [Usable]

namespace Soundings

variable {t : Soundings}

/-- Nothing else is looked at when the first probe finds an address. -/
theorem misleads_iff_of_first {a : Address} (hfirst : t.first = some a)
    (hspecified : a.isUnspecified = false) : t.Misleads ↔ a.family ≠ .v4 := by
  have hnot : ¬t.Silent := fun hsilent => by simp [hsilent a hfirst] at hspecified
  constructor
  · intro h
    cases h with
    | @family b hfirst' _ hfamily =>
      obtain rfl : a = b := Option.some.inj (hfirst.symm.trans hfirst')
      exact hfamily
    | stray hsilent _ _ => exact absurd hsilent hnot
    | unspecified hsilent _ _ => exact absurd hsilent hnot
  · exact .family hfirst hspecified

/-- Only the addresses of the machine are looked at when the first probe finds none and the look-up
ends as callers expect. -/
theorem misleads_iff_of_silent (hsilent : t.Silent)
    (hnamed : ∀ fault, t.named = .error fault → fault.isResolution = true) :
    t.Misleads ↔ ∃ a, t.firstV4? = some a ∧ a.isUnspecified = true := by
  constructor
  · intro h
    cases h with
    | @family a hfirst hspecified _ => simp [hsilent a hfirst] at hspecified
    | @stray fault _ hfault hkind => simp [hnamed fault hfault] at hkind
    | unspecified _ ha hunspecified => exact ⟨_, ha, hunspecified⟩
  · rintro ⟨a, ha, hunspecified⟩
    exact .unspecified hsilent ha hunspecified

theorem Leads.usable_iff {result : Except Fault Address} (h : t.Leads result) :
    Usable result ↔ ¬t.Misleads := by
  cases h with
  | outbound hfirst hspecified =>
    rw [usable_ok_iff, misleads_iff_of_first hfirst hspecified]
    simp [hspecified]
  | stray hsilent hnamed hkind =>
    rw [usable_error_iff, hkind]
    exact iff_of_false Bool.false_ne_true (not_not_intro (.stray hsilent hnamed hkind))
  | @found a hsilent hnamed ha =>
    have hfamily : a.family = .v4 := by simpa using List.find?_some ha
    rw [usable_ok_iff, misleads_iff_of_silent hsilent hnamed, ha]
    simp [hfamily]
  | nothing hsilent hnamed hnone =>
    rw [usable_error_iff, misleads_iff_of_silent hsilent hnamed, hnone]
    simp [Fault.isResolution]

end Soundings

end Resolver

/-- A machine without an IPv4 address: its name has none, and the probe finds the unspecified
one. -/
def Surroundings.withoutV4 : Surroundings where
  replies := []
  hanging := []
  prompt := []
  hostName := "localhost"
  outbound := [(.v4, "0.0.0.0"), (.v6, "2001:db8::5")]

namespace Resolver

/-- The search for the primary address, whatever its look-up and its probes come to, ends with a
specified IPv4 address or a fault of resolution just if nothing misleads it. -/
theorem primary_usable_iff (limits : ResolverLimits) :
    primaryV4Address limits = primaryBy outboundProbe (nameLookup limits) ∧
    ∀ {σ : Type} (probe : Family → StateM σ (Option Address))
      (lookup : ExceptT Fault (StateM σ) (List Address)) (s : σ),
      Usable ((primaryBy probe lookup).run.run s).1 ↔ ¬(soundings probe lookup s).Misleads :=
  ⟨primaryV4Address_eq limits, fun _ _ s => (leads_primaryBy s).usable_iff⟩

/-- The unspecified address, passed over at first, is found by the next probe of the same family. -/
theorem primaryV4Address_unspecified :
    ((primaryV4Address (limits (Binary64.ofInt 9223372036) .standard)).run.run
        (.ofSurroundings .withoutV4)).1 = .ok (.v4 0) ∧
      ¬Usable ((primaryV4Address (limits (Binary64.ofInt 9223372036) .standard)).run.run
        (.ofSurroundings .withoutV4)).1 := by
  have hfound : ((primaryV4Address (limits (Binary64.ofInt 9223372036) .standard)).run.run
      (.ofSurroundings .withoutV4)).1.toOption = some (.v4 0) := by decide +kernel
  rcases hresult : ((primaryV4Address (limits (Binary64.ofInt 9223372036) .standard)).run.run
    (.ofSurroundings .withoutV4)).1 with fault | a <;> rw [hresult] at hfound <;> cases hfound
  rw [usable_ok_iff]
  exact ⟨rfl, by decide⟩

end Resolver

end PacScript
