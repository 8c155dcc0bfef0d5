import PacScript.Proofs.Address.Joined
import PacScript.Proofs.Host.Resolution

/-!
# Sorting the addresses of a name

The answer with all addresses of a name is a list of addresses as they are printed, so it reads back
as those addresses, and sorting it puts them into increasing order whatever family is preferred
(`texts_read_back`).
-/

namespace PacScript

open Address Script Text

variable {σ : Type} {p : Primitives σ} {w : World σ} {host : String} {found sorted : List Address}

theorem Primitives.answer_sortIpAddressList {text s : String} (h : sortList? text = some s)
    (p : Primitives σ) (settings : Settings) (w : World σ) :
    (p.answer settings (.sortIpAddressList text)).Yields w (.text s) := by
  simp only [Primitives.answer, h]
  rfl

/-- The preferred family makes no difference to the sorted answer. -/
theorem Primitives.Finds.sorted_answer (h : p.Finds w host .every found)
    (hzone : ∀ a ∈ found, a.hasZone = false) (hincreasing : sorted.Pairwise Precedes)
    (hmem : ∀ a, a ∈ sorted ↔ a ∈ found) (settings : Settings) :
    ∃ s, (p.answer settings (.dnsResolveEx host)).Yields w (.text s) ∧
      ∀ w', (p.answer settings (.sortIpAddressList s)).Yields w' (.text (join sorted)) := by
  have hperm := orderByFamily_perm settings.preferV6 found
  obtain ⟨sorted', hincreasing', hmem', hsorted⟩ :=
    sortList?_join (fun a ha => hzone a (hperm.mem_iff.1 ha))
  obtain rfl : sorted' = sorted := eq_of_increasing hincreasing' hincreasing fun a => by
    rw [hmem', hmem, hperm.mem_iff]
  exact ⟨_, h.dnsResolveEx settings, answer_sortIpAddressList hsorted p settings⟩

namespace Address

/-- The text of an address without zone is read as the address, with white space around it and, for
IPv6, in brackets. So joined addresses are read as these addresses, and sorting them joins them in
increasing order, each once; with the addresses of a name as a host gives them too. -/
theorem texts_read_back :
    (∀ a : Address, a.hasZone = false → ∀ cs,
      Spaced a.chars cs ∨ a.family = .v6 ∧ Spaced (bracketed a.chars) cs →
        parse? (String.ofList cs) = some a) ∧
    ∀ addresses : List Address, (∀ a ∈ addresses, a.hasZone = false) →
      (spelled (join addresses)).map Prod.fst = addresses ∧
      (addresses ≠ [] → (pieces ';' (join addresses).toList).map
        (fun piece => parse? (String.ofList piece)) = addresses.map some) ∧
      ∃ sorted : List Address, sorted.Pairwise Precedes ∧ (∀ a, a ∈ sorted ↔ a ∈ addresses) ∧
        sortList? (join addresses) = some (join sorted) ∧
        ∀ {σ : Type} (p : Primitives σ) (settings : Settings) (host : String) (w : World σ),
          p.Finds w host .every addresses →
            ∃ s, (p.answer settings (.dnsResolveEx host)).Yields w (.text s) ∧
              ∀ w', (p.answer settings (.sortIpAddressList s)).Yields w' (.text (join sorted)) := by
  constructor
  · rintro a hzone cs (hcs | ⟨-, hcs⟩)
    · exact parse?_spaced hzone hcs
    · exact parse?_spaced_bracketed hzone hcs
  · intro addresses hzone
    obtain ⟨sorted, hincreasing, hmem, hsorted⟩ := sortList?_join hzone
    refine ⟨?_, fun hne => ?_, sorted, hincreasing, hmem, hsorted, ?_⟩
    · rw [spelled_join hzone, List.map_map]
      exact List.map_id addresses
    · rw [pieces_join hne hzone, List.map_map]
      refine List.map_congr_left fun a ha => ?_
      rw [Function.comp_apply, parse?_chars (hzone a ha)]
    · exact fun p settings host w hfinds =>
        hfinds.sorted_answer hzone hincreasing hmem settings

end Address

/-- Addresses in no order, one of them twice. -/
def HostTable.scattered : HostTable where
  names := [("gw", [.v4 167772162, .v6 1 none, .v4 167772161, .v6 1 none])]
  locals := []
  zones := .universal

theorem Address.texts_read_back_scattered :
    let p := HostTable.scattered.primitives
    parse? " [::1] " = some (.v6 1 none) ∧
    (∀ a ∈ [Address.v4 167772162, .v6 1 none, .v4 167772161, .v6 1 none], a.hasZone = false) ∧
    ∃ s, (p.answer .standard (.dnsResolveEx "gw")).Yields (World.ofSettings .standard [])
        (.text s) ∧
      ∀ w', (p.answer .standard (.sortIpAddressList s)).Yields w'
        (.text "::1;10.0.0.1;10.0.0.2") := by
  have htext : String.ofList ([' '] ++ bracketed (Address.v6 1 none).chars ++ [' ']) =
      " [::1] " := by
    decide +kernel
  have hspaced : Spaced (bracketed (Address.v6 1 none).chars)
      ([' '] ++ bracketed (Address.v6 1 none).chars ++ [' ']) := spaced_of_all rfl rfl
  have hread := texts_read_back.1 (.v6 1 none) rfl _ (Or.inr ⟨rfl, hspaced⟩)
  have hzone : ∀ a ∈ [Address.v4 167772162, .v6 1 none, .v4 167772161, .v6 1 none],
      a.hasZone = false := by
    decide
  obtain ⟨-, -, sorted, -, -, hsorted, hanswer⟩ := texts_read_back.2 _ hzone
  have hvalue : sortList? (join [.v4 167772162, .v6 1 none, .v4 167772161, .v6 1 none]) =
      some "::1;10.0.0.1;10.0.0.2" := by
    cbv
  have hjoin : join sorted = "::1;10.0.0.1;10.0.0.2" :=
    Option.some.inj (hsorted.symm.trans hvalue)
  have hfinds : HostTable.scattered.primitives.Finds (World.ofSettings .standard []) "gw" .every
      [.v4 167772162, .v6 1 none, .v4 167772161, .v6 1 none] := by
    have hknown : HostTable.scattered.find? "gw" =
        some [.v4 167772162, .v6 1 none, .v4 167772161, .v6 1 none] := by
      decide
    refine .resolved ?_
    simp only [HostTable.primitives, HostTable.resolve, run_bind, hknown]
    rfl
  obtain ⟨s, hlong, hshort⟩ := hanswer _ .standard "gw" _ hfinds
  rw [htext] at hread
  rw [hjoin] at hshort
  exact ⟨hread, hzone, s, hlong, hshort⟩

end PacScript
