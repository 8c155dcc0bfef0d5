import PacScript.Proofs.Address.FamilyOrder
import PacScript.Proofs.Address.Printed
import PacScript.Proofs.Address.Reordering

/-!
# Joined addresses

No text of an address without zone holds a semicolon, so the pieces of joined addresses are their
texts (`pieces_join`), and these spell just the addresses (`spelled_join`). Sorting joined addresses
is joining them in increasing order, each once (`sortList?_join`).
-/

namespace PacScript.Address

open PacScript.Text

variable {addresses : List Address}

theorem toList_join (addresses : List Address) :
    (join addresses).toList = List.intercalate [';'] (addresses.map chars) := by
  simp [join, String.toList_intercalate, text, Function.comp_def]

theorem semicolon_not_mem_chars {a : Address} (h : a.hasZone = false) : ';' ∉ a.chars :=
  fun hc => absurd ((literal_chars h).isAddressChar h ';' hc) (by decide)

theorem pieces_join (hne : addresses ≠ []) (h : ∀ a ∈ addresses, a.hasZone = false) :
    pieces ';' (join addresses).toList = addresses.map chars := by
  rw [toList_join]
  refine pieces_intercalate (fun cs hcs => ?_) (by simpa using hne)
  obtain ⟨a, ha, rfl⟩ := List.mem_map.1 hcs
  exact semicolon_not_mem_chars (h a ha)

theorem parse?_chars {a : Address} (h : a.hasZone = false) :
    parse? (String.ofList a.chars) = some a :=
  parse?_spaced h (spaced_self a.chars)

theorem spelled_join (h : ∀ a ∈ addresses, a.hasZone = false) :
    spelled (join addresses) = addresses.map fun a => (a, a.chars) := by
  rcases addresses with _ | ⟨first, rest⟩
  · rfl
  · rw [spelled, pieces_join (by simp) h, List.map_map, List.filterMap_map,
      ← List.filterMap_eq_map]
    refine List.filterMap_congr fun a ha => ?_
    have htrim := trim_of_literal (literal_chars (h a ha)) (h a ha)
    simp [htrim, parse?_chars (h a ha)]

theorem mem_spelled_iff {text : String} {a : Address} {spelling : List Char} :
    (a, spelling) ∈ spelled text ↔ spelling ∈ listEntries text ∧ Spells spelling a := by
  show (a, spelling) ∈ (listEntries text).filterMap _ ↔ _
  simp only [List.mem_filterMap, Option.map_eq_some_iff, Prod.mk.injEq]
  constructor
  · rintro ⟨e, he, b, hb, rfl, rfl⟩
    exact ⟨he, hb⟩
  · rintro ⟨he, hs⟩
    exact ⟨spelling, he, a, hs, rfl, rfl⟩

theorem spells_join_iff (h : ∀ a ∈ addresses, a.hasZone = false) {a : Address}
    {spelling : List Char} : spelling ∈ listEntries (join addresses) ∧ Spells spelling a ↔
      a ∈ addresses ∧ spelling = a.chars := by
  rw [← mem_spelled_iff, spelled_join h]
  simp only [List.mem_map, Prod.mk.injEq]
  constructor
  · rintro ⟨b, hb, rfl, rfl⟩
    exact ⟨hb, rfl⟩
  · rintro ⟨ha, rfl⟩
    exact ⟨a, ha, rfl, rfl⟩

theorem joinSpellings_eq_join {sorted : List (Address × List Char)}
    (h : ∀ e ∈ sorted, e.2 = e.1.chars) :
    joinSpellings sorted = join (sorted.map Prod.fst) := by
  rw [← String.toList_inj, toList_join, joinSpellings, String.toList_ofList, List.map_map]
  exact congrArg _ (List.map_congr_left h)

/-- Joined addresses, sorted, are the same addresses in increasing order, each once, and joined. -/
theorem sortList?_join (h : ∀ a ∈ addresses, a.hasZone = false) : ∃ sorted : List Address,
    sorted.Pairwise Precedes ∧ (∀ a, a ∈ sorted ↔ a ∈ addresses) ∧
      sortList? (join addresses) = some (join sorted) := by
  have hzone : Zoneless (listEntries (join addresses)) := fun e he a hs =>
    h a ((spells_join_iff h).1 ⟨he, hs⟩).1
  have hsorts := sorts_kept hzone.kept
  refine ⟨_, hsorts.increasing, fun a => ?_, ?_⟩
  · rw [hsorts.mem_iff]
    constructor
    · rintro ⟨e, he, hs⟩
      exact ((spells_join_iff h).1 ⟨he, hs⟩).1
    · exact fun ha => ⟨a.chars, (spells_join_iff h).2 ⟨ha, rfl⟩⟩
  · rw [sortList?_of_zoneless hzone, joinSpellings_eq_join]
    intro e he
    have hfirst := hsorts.first e.1 e.2 he
    exact ((spells_join_iff h).1 ⟨hfirst.mem, hfirst.spells⟩).2

end PacScript.Address
