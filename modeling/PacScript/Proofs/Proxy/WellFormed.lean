import PacScript.Proofs.Proxy.Reprint

/-!
# What a line gives is usable

A line that can be read gives direct connections, and proxies with a host and a port to connect to
(`ProxyInfo.WellFormed`): no character of a host ends an authority or separates entries, and a port
is in range. Each entry gives one at most, in order, and a line gives none only if it has separators
and nothing between them (`parse_wellFormed`).
-/

namespace PacScript

open PacScript.Text Authority

/-- A direct connection, or a proxy at a host that stands for itself in a reference. -/
inductive ProxyInfo.WellFormed : ProxyInfo → Prop
  | direct : WellFormed ⟨.direct, none, none⟩
  | proxy {type : ProxyType} {host : String} {port : Option Int} (htype : type ≠ .direct)
      (hne : host ≠ "")
      (hchars : ∀ c ∈ host.toList, isBlank c = false ∧ c ∉ [';', '/', '?', '#', '@'])
      (hport : ∀ p ∈ port, 0 ≤ p ∧ p ≤ 65535) : WellFormed ⟨type, some host, port⟩

namespace ProxyLine

theorem not_mem_ends_of_isClear {c : Char} (h : isClear c = true) : c ∉ ['/', '?', '#', '@'] := by
  intro hmem
  have hend : (c == '/' || c == '?' || c == '#' || c == '@') = true := by
    simpa [or_assoc] using hmem
  simp [isClear, hend] at h

theorem wellFormed_of_read {i : ProxyInfo} (h : i.Read) : i.WellFormed := by
  cases h with
  | direct => exact .direct
  | @proxy type token host port htype hne htoken hread =>
    refine .proxy htype hne (fun c hc => ?_) fun p hp => ?_
    · have hsolid := solid_of_read htoken hread c hc
      have hends := not_mem_ends_of_isClear (clear_of_parse? hread c hc)
      exact ⟨hsolid.1, fun hmem => (List.mem_cons.1 hmem).elim hsolid.2 hends⟩
    · obtain ⟨number, hnumber, rfl⟩ := Option.map_eq_some_iff.1 hp
      have hle := (of_parse? hread).1 number hnumber
      omega

/-! ## How many entries -/

theorem gives_none_iff {cs : List Char} : Gives cs none ↔ ∀ c ∈ cs, isBlank c = true := by
  rw [← words_eq_nil_iff]
  constructor
  · intro h
    cases h with
    | nothing hwords => exact hwords
  · exact .nothing

/-- Pieces give nothing just if they are all blank. -/
theorem reduceOption_eq_nil_iff {cut : List (List Char)} {given : List (Option ProxyInfo)}
    (h : List.Forall₂ Gives cut given) :
    given.reduceOption = [] ↔ ∀ cs ∈ cut, ∀ c ∈ cs, isBlank c = true := by
  induction h with
  | nil => simp [List.reduceOption]
  | @cons cs first cut given hfirst _ ih =>
    rw [List.forall_mem_cons, ← ih, ← gives_none_iff]
    cases first with
    | none => simp [List.reduceOption_cons_of_none, hfirst]
    | some i =>
      have hnot : ¬Gives cs none := fun hnone => by
        cases (entry_of_gives hfirst).symm.trans (entry_of_gives hnone)
      simp [List.reduceOption_cons_of_some, hnot]

/-- A line fails as its first faulty entry does, or else it gives well-formed entries only: a direct
connection if it is blank, and otherwise what its entries give, one after the other. -/
theorem parse_wellFormed (line : String) :
    (∃ fault, parse (some line) (fun _ => true) = .error fault ∧ fault.line = line ∧
      FirstFault (pieces ';' line.toList) fault.fault) ∨
    ∃ infos, parse (some line) (fun _ => true) = .ok infos ∧ (∀ i ∈ infos, i.WellFormed) ∧
      infos.length ≤ (pieces ';' line.toList).length ∧
      (Blank line ∧ infos = [.direct] ∨
        ¬Blank line ∧ ∃ given, List.Forall₂ Gives (pieces ';' line.toList) given ∧
          infos = given.reduceOption) ∧
      (infos = [] ↔ ¬Blank line ∧ ∀ cs ∈ pieces ';' line.toList, ∀ c ∈ cs, isBlank c = true) := by
  rcases h : parse (some line) (fun _ => true) with fault | infos
  · obtain ⟨-, hline, hfault⟩ := parse_error_iff.1 h
    exact Or.inl ⟨fault, rfl, hline, hfault⟩
  · refine Or.inr ⟨infos, rfl, fun i hi => wellFormed_of_read (read_of_parse h i hi), ?_⟩
    by_cases hblank : Blank line
    · rw [parse_of_blank hblank] at h
      cases h
      exact ⟨List.length_pos_iff.2 (piecesBy_ne_nil _ _), Or.inl ⟨hblank, rfl⟩, by simp [hblank]⟩
    · obtain ⟨given, hgiven, hinfos⟩ := entries_ok_iff.1 ((parse_ok_iff hblank).1 h)
      have hinfos : infos = given.reduceOption := by simpa using hinfos
      refine ⟨?_, Or.inr ⟨hblank, given, hgiven, hinfos⟩, ?_⟩
      · rw [hinfos, hgiven.length_eq]
        exact List.reduceOption_length_le given
      · rw [hinfos, reduceOption_eq_nil_iff hgiven]
        exact (and_iff_right hblank).symm

end ProxyLine

end PacScript
