import PacScript.Proofs.Resolver.Primary
import PacScript.Proofs.Resolver.Told

/-!
# The addresses of a machine

A machine has the addresses that a call for its name is told and those from which it is left. None
of them is lost, and none comes twice (`addresses_collected`).
-/

namespace PacScript.Resolver

open Address Script

/-! ## What is collected -/

section Gathered

variable {answer : List Address} {v4 v6 : Option Address}

/-- What the addresses of a machine have to be, given the answer for its name and what the probes
find: a fault of resolution if there is no address at all, and otherwise the addresses of the
answer, followed by those that the probes add. -/
structure Collects (answer : List Address) (v4 v6 : Option Address)
    (result : Except Fault (List Address)) : Prop where
  fails_iff : (∃ fault, fault.isResolution = true ∧ result = .error fault) ↔
    answer = [] ∧ v4 = none ∧ v6 = none
  returns : ¬(answer = [] ∧ v4 = none ∧ v6 = none) → ∃ named, FirstSeen answer named ∧
    result = .ok (named ++ unlessIn named v4 ++ unlessIn (named ++ unlessIn named v4) v6)
  nodup : ∀ found, result = .ok found → found.Nodup

theorem gathered_dedup (answer more : List Address) : gathered (dedup answer) more =
    if (dedup (answer ++ more)).isEmpty then .error (.resolution .noLocalAddress)
    else .ok (dedup (answer ++ more)) := by
  unfold gathered dedup
  rw [List.foldl_append]

theorem collects_gathered (answer : List Address) (v4 v6 : Option Address) :
    Collects answer v4 v6 (gathered (dedup answer) (v4.toList ++ v6.toList)) := by
  have hall := firstSeen_dedup (answer ++ (v4.toList ++ v6.toList))
  have hnone : dedup (answer ++ (v4.toList ++ v6.toList)) = [] ↔
      answer = [] ∧ v4 = none ∧ v6 = none := by
    rw [hall.eq_nil_iff, List.append_eq_nil_iff, List.append_eq_nil_iff,
      Option.toList_eq_nil_iff, Option.toList_eq_nil_iff]
  have hfound : dedup (answer ++ (v4.toList ++ v6.toList)) =
      dedup answer ++ unlessIn (dedup answer) v4 ++
        unlessIn (dedup answer ++ unlessIn (dedup answer) v4) v6 := by
    rw [← List.append_assoc, dedup_append_toList, dedup_append_toList]
  rw [gathered_dedup]
  split
  · rename_i hempty
    have hempty := hnone.1 (List.isEmpty_iff.1 hempty)
    exact ⟨iff_of_true ⟨_, rfl, rfl⟩ hempty, fun hsome => absurd hempty hsome,
      fun found h => nomatch h⟩
  · rename_i hempty
    have hsome := mt hnone.2 (mt List.isEmpty_iff.2 hempty)
    refine ⟨iff_of_false ?_ hsome, fun _ => ⟨_, firstSeen_dedup answer, by rw [hfound]⟩, ?_⟩
    · rintro ⟨fault, -, h⟩
      cases h
    · intro found h
      cases h
      exact hall.nodup

end Gathered

/-! ## The addresses of the machine -/

/-- Whatever the name of the machine is resolved to, the probes come behind it. -/
theorem localAddresses_run {limits : ResolverLimits} {r : Resolver}
    (hkind : ∀ fault, ((resolve limits r.surroundings.hostName .every).run.run r).1 = .error fault →
      fault.isResolution = true) :
    ((localAddresses limits).run.run r).1 =
      gathered (((resolve limits r.surroundings.hostName .every).run.run r).1.toOption.getD [])
        ((r.outboundAddress .v4).toList ++ (r.outboundAddress .v6).toList) := by
  have hsurroundings := Traffic.resolve_surroundings limits r.surroundings.hostName .every r
  rcases hresult : (resolve limits r.surroundings.hostName .every).run.run r with ⟨named, r'⟩
  rw [hresult] at hkind hsurroundings
  have hnamed : (nameLookup limits).run.run r = (named, r') := by
    rw [nameLookup, run_bind, run_get]
    exact hresult
  have hprobe (family : Family) :
      (outboundProbe family).run r' = (r.outboundAddress family, r') := by
    show (r'.outboundAddress family, r') = _
    rw [outboundAddress, hsurroundings, outboundAddress]
  rw [localAddresses_eq, localBy_run hnamed hkind (hprobe .v4) (hprobe .v6)]

/-- Whatever has happened to a resolver, and whatever its surroundings are: the addresses of the
machine are collected from the answer for its name and from what the probes find. There is such an
answer unless the look-up of the name raises a stray fault or the wait for it is too long. -/
theorem addresses_collected (limits : ResolverLimits) (s : Surroundings) (start : Binary64)
    (steps : List Step) :
    let r := ((Traffic.startingAt s start).run limits steps).resolver
    let host := r.surroundings.hostName
    let kept := lastRows limits (keyOf (nameOf host)) (Traffic.startingAt s start) steps
    (∀ answer, Tells limits host kept r answer →
      Collects answer (r.outboundAddress .v4) (r.outboundAddress .v6)
        ((localAddresses limits).run.run r).1) ∧
    ((∃ answer, Tells limits host kept r answer) ∨ Slips limits host r) := by
  intro r host kept
  have hkept (httl : limits.ttl.le Binary64.zero = false) :
      KeepsRows (keyOf (nameOf host)) kept r := by
    have hempty : KeepsRows (keyOf (nameOf host)) none (Traffic.startingAt s start).resolver := nofun
    have hrun := keepsRows_run httl steps hempty
    rwa [Option.or_none] at hrun
  refine ⟨fun answer h => ?_, exists_tells hkept⟩
  rcases h.resolve_run hkept with hok | ⟨rfl, fault, hkind, herror⟩
  · rw [localAddresses_run (by rw [hok]; exact nofun), hok]
    exact collects_gathered _ _ _
  · rw [localAddresses_run (by rw [herror]; rintro _ ⟨⟩; exact hkind), herror]
    exact collects_gathered [] _ _

/-- A machine left from an address that its name has too, and from another one. -/
def twoWays : Surroundings where
  replies := []
  hanging := []
  prompt := []
  hostName := " Box"
  outbound := [(.v4, "10.0.0.1"), (.v6, "2001:db8::5")]

/-- An answer with repetitions, and with a row of another family. -/
def boxRows : List (Option Family × String) :=
  [(some .v6, "fe80::1%eth0"), (some .v4, "10.0.0.1"), (none, "box"),
    (some .v6, "[fe80:0::1%eth0]"), (some .v4, "10.0.0.2"), (some .v4, "10.0.0.1")]

def boxAsked : List Step := [.resolve "BOX" .every, .complete "box" (.rows boxRows)]

/-- What the rows list. -/
def boxAnswer : List Address :=
  [.v6 0xfe800000000000000000000000000001 (some "eth0"), .v4 0x0a000001,
    .v6 0xfe800000000000000000000000000001 (some "eth0"), .v4 0x0a000002, .v4 0x0a000001]

/-- The answer is kept when the addresses of the machine are asked for. -/
theorem addresses_collected_twoWays :
    let r := ((Traffic.startingAt twoWays Binary64.zero).run Traffic.minute boxAsked).resolver
    let host := r.surroundings.hostName
    let kept := lastRows Traffic.minute (keyOf (nameOf host))
      (Traffic.startingAt twoWays Binary64.zero) boxAsked
    Tells Traffic.minute host kept r boxAnswer ∧
    Collects boxAnswer (r.outboundAddress .v4) (r.outboundAddress .v6)
      ((localAddresses Traffic.minute).run.run r).1 ∧
    ((localAddresses Traffic.minute).run.run r).1.toOption =
      some [.v6 0xfe800000000000000000000000000001 (some "eth0"), .v4 0x0a000001, .v4 0x0a000002,
        .v6 0x20010db8000000000000000000000005 none] := by
  refine ⟨?tells, (addresses_collected Traffic.minute twoWays Binary64.zero boxAsked).1 boxAnswer
    ?tells, by decide +kernel⟩
  have hkey : keyOf (nameOf ((Traffic.startingAt twoWays Binary64.zero).run Traffic.minute
      boxAsked).resolver.surroundings.hostName) = "box" := by decide +kernel
  have hentry : (((Traffic.startingAt twoWays Binary64.zero).run Traffic.minute
      boxAsked).resolver.cache.lookup "box").map (fun e => (e.expires, e.found)) =
        some (Binary64.ofInt 60, dedup boxAnswer) := by decide +kernel
  obtain ⟨entry, hlookup, hfields⟩ := Option.map_eq_some_iff.1 hentry
  obtain ⟨hexpires, -⟩ := Prod.mk.inj hfields
  have hlists : Lists boxRows boxAnswer := addressesOf_ok_iff.1 rfl
  refine .kept (by decide +kernel) (by decide +kernel)
    ⟨by decide +kernel, by rw [hkey]; exact hlookup, ?_⟩ (by decide +kernel) hlists
  rw [hexpires]
  decide +kernel

end PacScript.Resolver
