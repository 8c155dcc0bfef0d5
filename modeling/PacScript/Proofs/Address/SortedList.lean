import Mathlib
import PacScript.Proofs.Address.SortKey

/-!
# Sorted address lists

Reading a list from the left, an address is kept with the first entry that spells it
(`mem_kept_iff`), so every address of the list is kept once. Sorting by the keys then puts the kept
addresses into their order, and the result is the list of their spellings (`sortList?_spec`).
-/

namespace PacScript.Address

open PacScript.Text

/-- The entries of a list, trimmed. -/
def listEntries (text : String) : List (List Char) := (pieces ';' text.toList).map trim

/-- The address that an entry spells. -/
def Spells (entry : List Char) (a : Address) : Prop := parse? (String.ofList entry) = some a

/-- An entry that spells the address while none before it does. -/
def FirstSpelling (entries : List (List Char)) (a : Address) (spelling : List Char) : Prop :=
  ∃ before after, entries = before ++ spelling :: after ∧ Spells spelling a ∧
    ∀ e ∈ before, ¬Spells e a

/-- The addresses of some entries with their first spellings. -/
def kept (entries : List (List Char)) : List (Address × List Char) :=
  firstSpellings (entries.filterMap fun e => (parse? (String.ofList e)).map fun a => (a, e))

theorem firstSpellings_concat (es : List (Address × List Char)) (e : Address × List Char) :
    firstSpellings (es ++ [e]) =
      if (firstSpellings es).any (·.1 == e.1) then firstSpellings es
      else firstSpellings es ++ [e] := by
  rw [firstSpellings, List.foldl_append]
  rfl

section Kept

variable {entries : List (List Char)} {a : Address} {e spelling : List Char}

theorem kept_concat_of_none (h : parse? (String.ofList e) = none) :
    kept (entries ++ [e]) = kept entries := by
  simp [kept, h]

theorem kept_concat_of_spells (h : Spells e a) : kept (entries ++ [e]) =
    if a ∈ (kept entries).map Prod.fst then kept entries else kept entries ++ [(a, e)] := by
  have h : parse? (String.ofList e) = some a := h
  have hany : (kept entries).any (·.1 == a) = true ↔ a ∈ (kept entries).map Prod.fst := by
    simp
  rw [kept, List.filterMap_append]
  simp only [List.filterMap_cons, h, Option.map_some, List.filterMap_nil]
  rw [firstSpellings_concat]
  exact if_congr hany rfl rfl

theorem mem_kept_concat : (a, spelling) ∈ kept (entries ++ [e]) ↔
    (a, spelling) ∈ kept entries ∨
      spelling = e ∧ Spells e a ∧ a ∉ (kept entries).map Prod.fst := by
  rcases h : parse? (String.ofList e) with _ | b
  · rw [kept_concat_of_none h]
    simp [Spells, h]
  · have hs : ∀ a, Spells e a ↔ b = a := fun a => by simp [Spells, h]
    rw [kept_concat_of_spells h, hs]
    split
    · rename_i hmem
      refine ⟨Or.inl, fun h => h.resolve_right ?_⟩
      rintro ⟨-, rfl, hnot⟩
      exact hnot hmem
    · rename_i hmem
      rw [List.mem_append, List.mem_singleton, Prod.mk.injEq]
      refine or_congr_right ⟨?_, ?_⟩
      · rintro ⟨rfl, rfl⟩
        exact ⟨rfl, rfl, hmem⟩
      · rintro ⟨rfl, rfl, -⟩
        exact ⟨rfl, rfl⟩

theorem mem_keys_kept_iff : a ∈ (kept entries).map Prod.fst ↔ ∃ e ∈ entries, Spells e a := by
  induction entries using List.reverseRecOn with
  | nil => simp [kept, firstSpellings]
  | append_singleton entries e ih =>
    have hconcat : a ∈ (kept (entries ++ [e])).map Prod.fst ↔
        a ∈ (kept entries).map Prod.fst ∨ Spells e a := by
      simp only [List.mem_map, Prod.exists, exists_and_right, exists_eq_right, mem_kept_concat]
      constructor
      · rintro ⟨s, h | h⟩
        · exact Or.inl ⟨s, h⟩
        · exact Or.inr h.2.1
      · intro h
        rcases Classical.em (∃ s, (a, s) ∈ kept entries) with ⟨s, hs⟩ | hnot
        · exact ⟨s, Or.inl hs⟩
        · exact ⟨e, Or.inr ⟨rfl, h.resolve_left hnot, hnot⟩⟩
    rw [hconcat, ih]
    simp only [List.mem_append, List.mem_singleton, or_and_right, exists_or, exists_eq_left]

theorem firstSpelling_concat : FirstSpelling (entries ++ [e]) a spelling ↔
    FirstSpelling entries a spelling ∨
      spelling = e ∧ Spells e a ∧ ∀ e' ∈ entries, ¬Spells e' a := by
  constructor
  · rintro ⟨before, after, heq, hs, hbefore⟩
    rcases List.eq_nil_or_concat after with rfl | ⟨after, last, rfl⟩
    · obtain ⟨rfl, hlast⟩ := List.append_inj' heq rfl
      cases hlast
      exact Or.inr ⟨rfl, hs, hbefore⟩
    · have heq : entries ++ [e] = (before ++ spelling :: after) ++ [last] := by simpa using heq
      obtain ⟨rfl, -⟩ := List.append_inj' heq rfl
      exact Or.inl ⟨before, after, rfl, hs, hbefore⟩
  · rintro (⟨before, after, rfl, hs, hbefore⟩ | ⟨rfl, hs, hnone⟩)
    · exact ⟨before, after ++ [e], by simp, hs, hbefore⟩
    · exact ⟨entries, [], rfl, hs, hnone⟩

theorem mem_kept_iff : (a, spelling) ∈ kept entries ↔ FirstSpelling entries a spelling := by
  induction entries using List.reverseRecOn with
  | nil => simp [kept, firstSpellings, FirstSpelling]
  | append_singleton entries e ih =>
    rw [mem_kept_concat, firstSpelling_concat, ih, mem_keys_kept_iff]
    simp only [not_exists, not_and]

theorem nodup_keys_kept : ((kept entries).map Prod.fst).Nodup := by
  induction entries using List.reverseRecOn with
  | nil => simp [kept, firstSpellings]
  | append_singleton entries e ih =>
    rcases h : parse? (String.ofList e) with _ | b
    · rw [kept_concat_of_none h]
      exact ih
    · rw [kept_concat_of_spells h]
      split
      · exact ih
      · rename_i hmem
        rw [List.map_append, List.nodup_append]
        refine ⟨ih, by simp, fun c hc d hd => ?_⟩
        obtain rfl : d = b := by simpa using hd
        rintro rfl
        exact hmem hc

end Kept

/-! ## Sorting -/

theorem mapM_eq_some_map {α β : Type} {f : α → Option β} {g : α → β} :
    ∀ {l : List α}, (∀ x ∈ l, f x = some (g x)) → l.mapM f = some (l.map g)
  | [], _ => rfl
  | x :: l, h => by
    have ih := mapM_eq_some_map fun y hy => h y (List.mem_cons_of_mem x hy)
    simp [List.mapM_cons, h x List.mem_cons_self, ih]

/-- An address without zone has its sort key. -/
def keyOf (a : Address) : SortKey := (sortKey? a).getD ⟨0, []⟩

theorem sortKey?_eq_some {a : Address} (h : a.hasZone = false) : sortKey? a = some (keyOf a) := by
  obtain ⟨k, hk⟩ := Option.isSome_iff_exists.1 (sortKey?_isSome_iff.2 h)
  simp [keyOf, hk]

def keyLe (x y : Address × List Char) : Bool := (keyOf x.1).le (keyOf y.1)

theorem keyLe_trans (x y z : Address × List Char) (hxy : keyLe x y = true)
    (hyz : keyLe y z = true) : keyLe x z = true :=
  SortKey.le_trans hxy hyz

theorem keyLe_total (x y : Address × List Char) : (keyLe x y || keyLe y x) = true := by
  rw [Bool.or_eq_true]
  exact SortKey.le_total (keyOf x.1) (keyOf y.1)

/-- The entries in the order of their keys. -/
def inKeyOrder (entries : List (Address × List Char)) : List (Address × List Char) :=
  entries.mergeSort keyLe

theorem sortList?_eq {text : String}
    (h : ∀ e ∈ kept (listEntries text), e.1.hasZone = false) :
    sortList? text = some (String.ofList (List.intercalate [';']
      ((inKeyOrder (kept (listEntries text))).map Prod.snd))) := by
  have hmap : (firstSpellings (spelled text)).mapM
      (fun e => (sortKey? e.1).map fun k => (k, e.2)) =
        some ((kept (listEntries text)).map fun e => (keyOf e.1, e.2)) :=
    mapM_eq_some_map fun e he => by rw [sortKey?_eq_some (h e he)]; rfl
  have hsort := List.map_mergeSort (l := kept (listEntries text))
    (r := keyLe) (s := fun x y => x.1.le y.1) (f := fun e => (keyOf e.1, e.2)) fun _ _ _ _ => rfl
  simp only [sortList?, hmap, Option.bind_eq_bind, Option.bind_some, ← hsort, List.map_map,
    inKeyOrder]
  rfl

theorem pairwise_inKeyOrder {entries : List (Address × List Char)}
    (hzone : ∀ e ∈ entries, e.1.hasZone = false) (hnodup : (entries.map Prod.fst).Nodup) :
    ((inKeyOrder entries).map Prod.fst).Pairwise Precedes := by
  have hperm : (inKeyOrder entries).Perm entries := List.mergeSort_perm _ _
  have hsorted : (inKeyOrder entries).Pairwise fun x y => keyLe x y = true :=
    List.pairwise_mergeSort keyLe_trans keyLe_total entries
  have hne : (inKeyOrder entries).Pairwise fun x y => x.1 ≠ y.1 :=
    List.pairwise_map.1 ((hperm.map Prod.fst).nodup_iff.2 hnodup)
  refine List.pairwise_map.2 ((hsorted.and hne).imp_of_mem ?_)
  rintro x y hx hy ⟨hle, hxy⟩
  exact (sortKey_le_iff (sortKey?_eq_some (hzone x (hperm.mem_iff.1 hx)))
    (sortKey?_eq_some (hzone y (hperm.mem_iff.1 hy))) hxy).1 hle

/-- What a sorted list has to be for the entries it comes from: just the addresses that they spell,
each once, with its first spelling, in increasing order. -/
structure Sorts (entries : List (List Char)) (sorted : List (Address × List Char)) : Prop where
  mem_iff : ∀ a, a ∈ sorted.map Prod.fst ↔ ∃ e ∈ entries, Spells e a
  nodup : (sorted.map Prod.fst).Nodup
  first : ∀ a spelling, (a, spelling) ∈ sorted → FirstSpelling entries a spelling
  increasing : (sorted.map Prod.fst).Pairwise Precedes

theorem sorts_kept {entries : List (List Char)}
    (h : ∀ e ∈ kept entries, e.1.hasZone = false) : Sorts entries (inKeyOrder (kept entries)) where
  mem_iff a := by
    rw [← mem_keys_kept_iff]
    exact ((List.mergeSort_perm _ _).map Prod.fst).mem_iff
  nodup := ((List.mergeSort_perm _ _).map Prod.fst).nodup_iff.2 nodup_keys_kept
  first a spelling hmem := mem_kept_iff.1 ((List.mergeSort_perm _ _).mem_iff.1 hmem)
  increasing := pairwise_inKeyOrder h nodup_keys_kept

/-- A list whose addresses have no zone is sorted: the result is made of the first spellings of its
addresses, and is empty when there are none. -/
theorem sortList?_spec (text : String)
    (h : ∀ e ∈ listEntries text, ∀ a, Spells e a → a.hasZone = false) :
    (∃ sorted, Sorts (listEntries text) sorted ∧
      sortList? text = some (String.ofList (List.intercalate [';'] (sorted.map Prod.snd)))) ∧
    ((∀ e ∈ listEntries text, ∀ a, ¬Spells e a) → sortList? text = some "") := by
  have hzone : ∀ e ∈ kept (listEntries text), e.1.hasZone = false := by
    rintro ⟨a, spelling⟩ he
    obtain ⟨e, hmem, hs⟩ := mem_keys_kept_iff.1 (List.mem_map_of_mem (f := Prod.fst) he)
    exact h e hmem a hs
  refine ⟨⟨_, sorts_kept hzone, sortList?_eq hzone⟩, fun hnone => ?_⟩
  have hempty : kept (listEntries text) = [] := by
    refine List.eq_nil_iff_forall_not_mem.2 fun e he => ?_
    obtain ⟨e', hmem, hs⟩ := mem_keys_kept_iff.1 (List.mem_map_of_mem (f := Prod.fst) he)
    exact hnone e' hmem _ hs
  rw [sortList?_eq hzone, hempty]
  simp [inKeyOrder]

theorem sortList?_spec_mixed :
    (∀ e ∈ listEntries "10.0.0.2; ::1;x;[0::1];10.0.0.1", ∀ a, Spells e a → a.hasZone = false) ∧
    ∃ sorted, Sorts (listEntries "10.0.0.2; ::1;x;[0::1];10.0.0.1") sorted ∧
      String.ofList (List.intercalate [';'] (sorted.map Prod.snd)) = "::1;10.0.0.1;10.0.0.2" := by
  have hall : ∀ e ∈ listEntries "10.0.0.2; ::1;x;[0::1];10.0.0.1",
      (parse? (String.ofList e)).all (fun a => !a.hasZone) = true := by decide +kernel
  have h : ∀ e ∈ listEntries "10.0.0.2; ::1;x;[0::1];10.0.0.1", ∀ a, Spells e a →
      a.hasZone = false := by
    intro e he a hs
    have := hall e he
    rw [show parse? (String.ofList e) = some a from hs] at this
    simpa using this
  obtain ⟨⟨sorted, hsorted, hresult⟩, -⟩ := sortList?_spec _ h
  have hvalue : sortList? "10.0.0.2; ::1;x;[0::1];10.0.0.1" = some "::1;10.0.0.1;10.0.0.2" := by
    cbv
  exact ⟨h, sorted, hsorted, Option.some.inj (hresult.symm.trans hvalue)⟩

end PacScript.Address
