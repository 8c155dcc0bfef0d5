import PacScript.Proofs.Address.SortedList
import PacScript.Proofs.Text.Pieces
import PacScript.Proofs.Text.Trim

/-!
# Reading a sorted list back

Spellings are trimmed and hold no semicolon, so the entries of a sorted list are just the spellings
it was made of (`listEntries_joined`). Hence every address of a list is found in the sorted list
once (`sortList?_occurrences`).

There is a sorted list for all lists but those with an address that has a zone: it has no sort key,
and then none of the other addresses is sorted either.
-/

namespace PacScript.Address

open PacScript.Text

/-- How many entries of a list spell an address. -/
def occurrences (text : String) (a : Address) : Nat :=
  (listEntries text).countP fun e => parse? (String.ofList e) == some a

theorem occurrences_pos_iff {text : String} {a : Address} :
    0 < occurrences text a ↔ ∃ e ∈ listEntries text, Spells e a := by
  simp [occurrences, List.countP_pos_iff, Spells]

/-! ## The entries of the result -/

theorem trim_listEntry {text : String} {e : List Char} (h : e ∈ listEntries text) : trim e = e := by
  obtain ⟨piece, -, rfl⟩ := List.mem_map.1 h
  exact trimBy_trimBy isBlank piece

theorem semicolon_not_mem_listEntry {text : String} {e : List Char} (h : e ∈ listEntries text) :
    ';' ∉ e := by
  obtain ⟨piece, hpiece, rfl⟩ := List.mem_map.1 h
  exact fun hc => not_mem_of_mem_pieces hpiece (mem_of_mem_trimBy hc)

/-- Entries of a list, joined again, are the entries of what they make. -/
theorem listEntries_joined {text : String} {es : List (List Char)} (hne : es ≠ [])
    (h : ∀ e ∈ es, e ∈ listEntries text) :
    listEntries (String.ofList (List.intercalate [';'] es)) = es := by
  rw [listEntries, String.toList_ofList,
    pieces_intercalate (fun e he => semicolon_not_mem_listEntry (h e he)) hne]
  calc es.map trim = es.map id := List.map_congr_left fun e he => trim_listEntry (h e he)
    _ = es := List.map_id es

theorem FirstSpelling.mem {entries : List (List Char)} {a : Address} {spelling : List Char}
    (h : FirstSpelling entries a spelling) : spelling ∈ entries := by
  obtain ⟨before, after, rfl, -⟩ := h
  simp

theorem FirstSpelling.spells {entries : List (List Char)} {a : Address} {spelling : List Char}
    (h : FirstSpelling entries a spelling) : Spells spelling a := by
  obtain ⟨-, -, -, hs, -⟩ := h
  exact hs

/-- A spelling spells no other address, so it is found once for each time its address is there. -/
theorem countP_spellings {sorted : List (Address × List Char)}
    (h : ∀ e ∈ sorted, Spells e.2 e.1) (a : Address) :
    (sorted.map Prod.snd).countP (fun e => parse? (String.ofList e) == some a) =
      (sorted.map Prod.fst).count a := by
  rw [List.count, List.countP_map, List.countP_map]
  refine List.countP_congr fun e he => ?_
  have he : parse? (String.ofList e.2) = some e.1 := h e he
  simp [he]

theorem occurrences_joined {text : String} {sorted : List (Address × List Char)}
    (h : Sorts (listEntries text) sorted) (a : Address) :
    occurrences (String.ofList (List.intercalate [';'] (sorted.map Prod.snd))) a =
      min (occurrences text a) 1 := by
  have hfirst : ∀ e ∈ sorted, FirstSpelling (listEntries text) e.1 e.2 :=
    fun e he => h.first e.1 e.2 he
  have hcount : (sorted.map Prod.fst).count a = min (occurrences text a) 1 := by
    by_cases hmem : a ∈ sorted.map Prod.fst
    · have := occurrences_pos_iff.2 ((h.mem_iff a).1 hmem)
      rw [List.count_eq_one_of_mem h.nodup hmem]
      omega
    · have := mt occurrences_pos_iff.1 (mt (h.mem_iff a).2 hmem)
      rw [List.count_eq_zero_of_not_mem hmem]
      omega
  rw [← hcount]
  rcases sorted with _ | ⟨first, rest⟩
  · rfl
  · have hentries : ∀ e ∈ (first :: rest).map Prod.snd, e ∈ listEntries text := by
      intro e he
      obtain ⟨x, hx, rfl⟩ := List.mem_map.1 he
      exact (hfirst x hx).mem
    rw [occurrences, listEntries_joined (by simp) hentries,
      countP_spellings fun e he => (hfirst e he).spells]

/-! ## When there is a result -/

theorem isSome_of_mapM {α β : Type} {f : α → Option β} : ∀ {l : List α}, (l.mapM f).isSome = true →
    ∀ x ∈ l, (f x).isSome = true
  | y :: l, h, x, hx => by
    rw [List.mapM_cons] at h
    rcases hy : f y with _ | b
    · simp [hy] at h
    · rcases hl : l.mapM f with _ | bs
      · simp [hy, hl] at h
      · rcases List.mem_cons.1 hx with rfl | hx
        · simp [hy]
        · exact isSome_of_mapM (by simp [hl]) x hx

theorem no_zone_of_sortList? {text s : String} (h : sortList? text = some s) :
    ∀ e ∈ listEntries text, ∀ a, Spells e a → a.hasZone = false := by
  intro e he a hs
  obtain ⟨x, hx, rfl⟩ := List.mem_map.1 (mem_keys_kept_iff.2 ⟨e, he, hs⟩)
  rcases hkeyed : (kept (listEntries text)).mapM
      (fun e => (sortKey? e.1).map fun k => (k, e.2)) with _ | keyed
  · have hnone : sortList? text = none := by
      rw [sortList?]
      show Option.bind ((kept (listEntries text)).mapM _) _ = none
      rw [hkeyed]
      rfl
    rw [hnone] at h
    cases h
  · have hkey := isSome_of_mapM (by rw [hkeyed]; rfl) x hx
    rw [Option.isSome_map] at hkey
    exact sortKey?_isSome_iff.1 hkey

/-- A list has a sorted list unless it holds an address with a zone; and every address of the list
is in the sorted list once, and no other address is in it. -/
theorem sortList?_occurrences (text : String) :
    ((∃ s, sortList? text = some s) ↔
      ∀ e ∈ listEntries text, ∀ a, Spells e a → a.hasZone = false) ∧
    ∀ s, sortList? text = some s → ∀ a, occurrences s a = min (occurrences text a) 1 := by
  have hsorted : (∀ e ∈ listEntries text, ∀ a, Spells e a → a.hasZone = false) →
      ∀ e ∈ kept (listEntries text), e.1.hasZone = false := by
    intro hzone e he
    have he := mem_kept_iff.1 he
    exact hzone e.2 he.mem e.1 he.spells
  refine ⟨⟨fun ⟨s, h⟩ => no_zone_of_sortList? h, fun h => ⟨_, sortList?_eq (hsorted h)⟩⟩, ?_⟩
  intro s h a
  have hkept := hsorted (no_zone_of_sortList? h)
  rw [sortList?_eq hkept] at h
  obtain rfl := Option.some.inj h
  exact occurrences_joined (sorts_kept hkept) a

/-- One address with a zone is an address like others, but a list that holds it has no
sorted list. -/
theorem sortList?_zone_eq_none :
    Spells "fe80::1%eth0".toList (.v6 0xfe800000000000000000000000000001 (some "eth0")) ∧
    listEntries "fe80::1%eth0" = ["fe80::1%eth0".toList] ∧ sortList? "fe80::1%eth0" = none := by
  refine ⟨?_, ?_, ?_⟩
  · cbv
  · cbv
  · cbv

end PacScript.Address
