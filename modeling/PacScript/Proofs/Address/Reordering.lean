import PacScript.Proofs.Address.SortedText

/-!
# Sorting again, and in another order

A sorted list spells its addresses in increasing order and each once, so there is nothing in it to
drop or to move: it is its own sorted list. There is one increasing list of given addresses
(`eq_of_increasing`), so the order of the entries matters for no more than the choice between two
spellings of one address (`sortList?_stable`).
-/

namespace PacScript.Address

open PacScript.Text

/-! ## Increasing lists -/

theorem nodup_of_increasing {l : List Address} (h : l.Pairwise Precedes) : l.Nodup := by
  refine h.imp ?_
  rintro a _ hab rfl
  exact Precedes.irrefl a hab

/-- Only one increasing list is made of given addresses. -/
theorem eq_of_increasing {l l' : List Address} (h : l.Pairwise Precedes)
    (h' : l'.Pairwise Precedes) (hmem : ∀ a, a ∈ l ↔ a ∈ l') : l = l' := by
  refine List.Perm.eq_of_pairwise (fun a b _ _ hab hba => absurd hba hab.asymm) h h' ?_
  exact (List.perm_ext_iff_of_nodup (nodup_of_increasing h) (nodup_of_increasing h')).2 hmem

/-! ## Sorting what is sorted -/

theorem firstSpellings_of_nodup {es : List (Address × List Char)}
    (h : (es.map Prod.fst).Nodup) : firstSpellings es = es := by
  induction es using List.reverseRecOn with
  | nil => rfl
  | append_singleton es e ih =>
    rw [List.map_append, List.nodup_append] at h
    have hnew : es.any (·.1 == e.1) = false := by
      rw [List.any_eq_false]
      intro x hx
      simpa using h.2.2 x.1 (List.mem_map_of_mem hx) e.1 (by simp)
    rw [firstSpellings_concat, ih h.1, hnew]
    rfl

section Sorted

variable {text : String} {sorted : List (Address × List Char)}

/-- The text that a sorted list makes. -/
def joinSpellings (sorted : List (Address × List Char)) : String :=
  String.ofList (List.intercalate [';'] (sorted.map Prod.snd))

/-- Nothing but the sorted entries is spelled in the text that they make. -/
theorem spelled_joinSpellings (h : Sorts (listEntries text) sorted) :
    spelled (joinSpellings sorted) = sorted := by
  have hspells : ∀ e ∈ sorted, parse? (String.ofList e.2) = some e.1 :=
    fun e he => (h.first e.1 e.2 he).spells
  have hentries : ∀ e ∈ sorted.map Prod.snd, e ∈ listEntries text := by
    intro e he
    obtain ⟨x, hx, rfl⟩ := List.mem_map.1 he
    exact (h.first x.1 x.2 hx).mem
  rcases sorted with _ | ⟨first, rest⟩
  · rfl
  · show (listEntries (joinSpellings (first :: rest))).filterMap _ = _
    rw [joinSpellings, listEntries_joined (by simp) hentries, List.filterMap_map]
    calc (first :: rest).filterMap _ = (first :: rest).filterMap some :=
          List.filterMap_congr fun e he => by simp [hspells e he]
      _ = first :: rest := List.filterMap_some

theorem kept_joinSpellings (h : Sorts (listEntries text) sorted) :
    kept (listEntries (joinSpellings sorted)) = sorted := by
  show firstSpellings (spelled (joinSpellings sorted)) = sorted
  rw [spelled_joinSpellings h, firstSpellings_of_nodup h.nodup]

end Sorted

theorem inKeyOrder_inKeyOrder (entries : List (Address × List Char)) :
    inKeyOrder (inKeyOrder entries) = inKeyOrder entries :=
  List.mergeSort_of_pairwise (List.pairwise_mergeSort keyLe_trans keyLe_total entries)

/-- No address with a zone is spelled. -/
def Zoneless (entries : List (List Char)) : Prop :=
  ∀ e ∈ entries, ∀ a, Spells e a → a.hasZone = false

theorem Zoneless.kept {entries : List (List Char)} (h : Zoneless entries) :
    ∀ e ∈ kept entries, e.1.hasZone = false := by
  rintro ⟨a, spelling⟩ he
  have hfirst := mem_kept_iff.1 he
  exact h spelling hfirst.mem a hfirst.spells

theorem sortList?_of_zoneless {text : String} (h : Zoneless (listEntries text)) :
    sortList? text = some (joinSpellings (inKeyOrder (kept (listEntries text)))) :=
  sortList?_eq h.kept

theorem sortList?_joinSpellings {text : String} (h : Zoneless (listEntries text)) :
    sortList? (joinSpellings (inKeyOrder (kept (listEntries text)))) =
      some (joinSpellings (inKeyOrder (kept (listEntries text)))) := by
  have hkept := kept_joinSpellings (sorts_kept h.kept)
  have hzone : ∀ e ∈ kept (listEntries
      (joinSpellings (inKeyOrder (kept (listEntries text))))), e.1.hasZone = false := by
    rw [hkept]
    exact fun e he => h.kept e ((List.mergeSort_perm _ _).mem_iff.1 he)
  rw [sortList?_eq hzone, hkept, inKeyOrder_inKeyOrder]
  rfl

/-! ## Other orders -/

/-- No address is spelled in two ways. -/
def SpelledOnce (entries : List (List Char)) : Prop :=
  ∀ a, ∀ e ∈ entries, ∀ e' ∈ entries, Spells e a → Spells e' a → e = e'

theorem SpelledOnce.mem_kept_iff {entries : List (List Char)} (h : SpelledOnce entries)
    {a : Address} {spelling : List Char} :
    (a, spelling) ∈ kept entries ↔ spelling ∈ entries ∧ Spells spelling a := by
  rw [Address.mem_kept_iff]
  constructor
  · exact fun hfirst => ⟨hfirst.mem, hfirst.spells⟩
  · rintro ⟨hmem, hs⟩
    obtain ⟨⟨b, first⟩, hkept, rfl⟩ := List.mem_map.1 (mem_keys_kept_iff.2 ⟨spelling, hmem, hs⟩)
    have hfirst := Address.mem_kept_iff.1 hkept
    -- the first spelling of the address is its only one
    rwa [h b spelling hmem first hfirst.mem hs hfirst.spells]

theorem SpelledOnce.kept_perm {entries entries' : List (List Char)} (h : SpelledOnce entries)
    (hperm : entries'.Perm entries) : (kept entries').Perm (kept entries) := by
  have h' : SpelledOnce entries' := fun a e he e' he' =>
    h a e (hperm.mem_iff.1 he) e' (hperm.mem_iff.1 he')
  rw [List.perm_ext_iff_of_nodup nodup_keys_kept.of_map nodup_keys_kept.of_map]
  rintro ⟨a, spelling⟩
  rw [h.mem_kept_iff, h'.mem_kept_iff, hperm.mem_iff]

/-- Entries of different addresses have one order. -/
theorem inKeyOrder_congr {es es' : List (Address × List Char)} (hperm : es'.Perm es)
    (hzone : ∀ e ∈ es, e.1.hasZone = false) (hnodup : (es.map Prod.fst).Nodup) :
    inKeyOrder es' = inKeyOrder es := by
  have hincreasing := pairwise_inKeyOrder hzone hnodup
  have hincreasing' := pairwise_inKeyOrder (fun e he => hzone e (hperm.mem_iff.1 he))
    ((hperm.map Prod.fst).nodup_iff.2 hnodup)
  refine List.Perm.eq_of_pairwise (fun x y _ _ hxy hyx => absurd hyx hxy.asymm)
    (List.pairwise_map.1 hincreasing') (List.pairwise_map.1 hincreasing) ?_
  exact (List.mergeSort_perm _ _).trans (hperm.trans (List.mergeSort_perm _ _).symm)

theorem map_fst_inKeyOrder_congr {entries entries' : List (List Char)}
    (hperm : entries'.Perm entries) (h : Zoneless entries) (h' : Zoneless entries') :
    (inKeyOrder (kept entries')).map Prod.fst = (inKeyOrder (kept entries)).map Prod.fst := by
  refine eq_of_increasing (sorts_kept h'.kept).increasing (sorts_kept h.kept).increasing
    fun a => ?_
  rw [(sorts_kept h'.kept).mem_iff, (sorts_kept h.kept).mem_iff]
  simp only [hperm.mem_iff]

/-- A sorted list is its own sorted list. A list with the same entries in another order is sorted
too, into the same addresses, and into the same text if no address is spelled in two ways. -/
theorem sortList?_stable {text s : String} (h : sortList? text = some s) :
    sortList? s = some s ∧
    ∀ text', (listEntries text').Perm (listEntries text) → ∃ s', sortList? text' = some s' ∧
      (spelled s').map Prod.fst = (spelled s).map Prod.fst ∧
      (SpelledOnce (listEntries text) → s' = s) := by
  have hzone : Zoneless (listEntries text) := no_zone_of_sortList? h
  rw [sortList?_of_zoneless hzone] at h
  obtain rfl := Option.some.inj h
  refine ⟨sortList?_joinSpellings hzone, fun text' hperm => ?_⟩
  have hzone' : Zoneless (listEntries text') := fun e he => hzone e (hperm.mem_iff.1 he)
  refine ⟨_, sortList?_of_zoneless hzone', ?_, fun hspelled => ?_⟩
  · rw [spelled_joinSpellings (sorts_kept hzone'.kept),
      spelled_joinSpellings (sorts_kept hzone.kept)]
    exact map_fst_inKeyOrder_congr hperm hzone hzone'
  · rw [inKeyOrder_congr (hspelled.kept_perm hperm) hzone.kept nodup_keys_kept]

theorem sortList?_stable_reversed :
    sortList? "10.0.0.2; [::1];x;[::1]" = some "[::1];10.0.0.2" ∧
    sortList? "[::1];10.0.0.2" = some "[::1];10.0.0.2" ∧
    (listEntries "[::1];x;[::1] ;10.0.0.2").Perm (listEntries "10.0.0.2; [::1];x;[::1]") ∧
    SpelledOnce (listEntries "10.0.0.2; [::1];x;[::1]") ∧
    sortList? "[::1];x;[::1] ;10.0.0.2" = some "[::1];10.0.0.2" := by
  have hsorted : sortList? "10.0.0.2; [::1];x;[::1]" = some "[::1];10.0.0.2" := by
    cbv
  have hperm : (listEntries "[::1];x;[::1] ;10.0.0.2").Perm
      (listEntries "10.0.0.2; [::1];x;[::1]") := by
    decide +kernel
  have hspelled : SpelledOnce (listEntries "10.0.0.2; [::1];x;[::1]") := by
    have hall : ∀ e ∈ listEntries "10.0.0.2; [::1];x;[::1]",
        ∀ e' ∈ listEntries "10.0.0.2; [::1];x;[::1]", (parse? (String.ofList e)).isSome = true →
          parse? (String.ofList e) = parse? (String.ofList e') → e = e' := by
      decide +kernel
    intro a e he e' he' hs hs'
    have hs : parse? (String.ofList e) = some a := hs
    have hs' : parse? (String.ofList e') = some a := hs'
    exact hall e he e' he' (by rw [hs]; rfl) (hs.trans hs'.symm)
  obtain ⟨hagain, hreordered⟩ := sortList?_stable hsorted
  obtain ⟨s', hs', -, hsame⟩ := hreordered _ hperm
  rw [hsame hspelled] at hs'
  exact ⟨hsorted, hagain, hperm, hspelled, hs'⟩

end PacScript.Address
