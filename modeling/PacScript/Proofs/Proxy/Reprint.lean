import PacScript.Proofs.Proxy.Folded
import PacScript.Proofs.Proxy.RoundTrip

/-!
# Proxy lines printed and read again

The entries of a line are printed with `; ` between them. What was read from a line is read again
from its print just if every host shows by a colon that it stood in brackets, or holds no bracket
itself (`parse_text_iff`): an entry is printed with brackets only around a host with a colon, while
brackets may also hold a future address without one.
-/

namespace PacScript

open PacScript.Text Authority

/-- Entries as they are printed in one line. -/
def ProxyLine.text (infos : List ProxyInfo) : String := "; ".intercalate (infos.map ProxyInfo.text)

/-- The host of the entry, if there is one, holds a colon or no bracket. -/
def ProxyInfo.Faithful (i : ProxyInfo) : Prop :=
  ∀ host ∈ i.host, ':' ∈ host.toList ∨ ('[' ∉ host.toList ∧ ']' ∉ host.toList)

instance (i : ProxyInfo) : Decidable i.Faithful :=
  inferInstanceAs (Decidable (∀ host ∈ i.host, _))

/-- An entry as a line may give it: a direct connection, or a proxy at what an authority is
read as. -/
inductive ProxyInfo.Read : ProxyInfo → Prop
  | direct : Read .direct
  | proxy {type : ProxyType} {token : List Char} {host : String} {port : Option Nat}
      (htype : type ≠ .direct) (hne : host ≠ "")
      (htoken : ∀ c ∈ token, isBlank c = false ∧ c ≠ ';')
      (hread : parse? token = some (host.toList, port)) :
      Read ⟨type, some host, port.map fun n : Nat => (n : Int)⟩

/-! ## Hosts -/

namespace Authority

theorem isCaseless_of_not_clear {c : Char} (h : isClear c = false) : isCaseless c = true := by
  have hmasked : areCaseless maskedSeparators = true := by decide +kernel
  simp only [isClear, Bool.and_eq_false_iff, Bool.not_eq_false', Bool.or_eq_true, beq_iff_eq] at h
  rcases h with (((rfl | rfl) | rfl) | rfl) | h
  iterate 4 decide +kernel
  exact isCaseless_of_inRanges hmasked h

theorem isCaseless_of_not_solid {c : Char} (h : ¬(isBlank c = false ∧ c ≠ ';')) :
    isCaseless c = true := by
  rw [not_and_or, Bool.not_eq_false, not_not] at h
  rcases h with h | rfl
  · exact isCaseless_of_isBlank h
  · decide +kernel

section Read

variable {token host : List Char} {port : Option Nat} (h : parse? token = some (host, port))

include h

/-- What only characters without case fail is true of a host if it is of what it was read from. -/
theorem forall_of_parse? {p : Char → Prop} (hcase : ∀ c, ¬p c → isCaseless c = true)
    (hp : ∀ c, isClear c = true → c ∈ token → p c) : ∀ c ∈ host, p c := by
  obtain ⟨-, given, rfl, -, hgiven⟩ := of_parse? h
  intro c hc
  by_contra hnot
  have hc := (mem_foldHost_iff (hcase c hnot)).1 hc
  exact hnot (hp c (hgiven c hc).1 (hgiven c hc).2)

theorem clear_of_parse? : ∀ c ∈ host, isClear c = true :=
  forall_of_parse? h (fun _ hc => isCaseless_of_not_clear (Bool.eq_false_iff.2 hc))
    fun _ hc _ => hc

/-- An authority that was read is read again as it is written, if its host has a colon or no
bracket. -/
theorem parse?_chars (hhost : ':' ∈ host ∨ ('[' ∉ host ∧ ']' ∉ host)) :
    parse? (Authority.chars host port) = some (host, port) := by
  obtain ⟨hport, given, rfl, hstands, -⟩ := of_parse? h
  have hclear := clear_of_parse? h
  unfold Authority.chars
  split_ifs with hcolon
  · -- a host with a colon can only have been read from brackets, which may hold it again
    cases hstands with
    | bare hnot _ => exact absurd ((mem_foldHost_iff (by decide +kernel)).1 hcolon) hnot
    | bracketed hclose hbracket =>
      have hclose : ']' ∉ foldHost given := by rwa [mem_foldHost_iff (by decide +kernel)]
      rw [parse?_bracketed hclear hclose (isBracketHost_foldHost hbracket) hport, foldHost_foldHost]
  · have hnot := hhost.resolve_left hcolon
    rw [parse?_bare hclear hcolon hnot.1 hnot.2 hport, foldHost_foldHost]

/-- Of two brackets a host that was read holds one at most, so the other is missing where it is
written without brackets around it. -/
theorem parse?_chars_eq_none (hcolon : ':' ∉ host) (hhost : '[' ∈ host ∨ ']' ∈ host) :
    parse? (Authority.chars host port) = none := by
  obtain ⟨-, given, rfl, hstands, -⟩ := of_parse? h
  have hmem {c : Char} (hc : isCaseless c = true) : c ∈ foldHost given ↔ c ∈ given :=
    mem_foldHost_iff hc
  have hone : ('[' ∈ foldHost given ∧ ']' ∉ foldHost given) ∨
      ('[' ∉ foldHost given ∧ ']' ∈ foldHost given) := by
    rw [hmem (by decide +kernel), hmem (by decide +kernel)] at hhost ⊢
    cases hstands with
    | bare _ hopen => exact .inr ⟨hopen, hhost.resolve_left hopen⟩
    | bracketed hclose _ => exact .inl ⟨hhost.resolve_right hclose, hclose⟩
  have hall : ∀ c ∈ foldHost given ++ portChars port, isClear c = true := fun c hc =>
    (List.mem_append.1 hc).elim (clear_of_parse? h c) fun hc =>
      isClear_of_isPlain (isPlain_of_mem_portChars c hc)
  have hopen : '[' ∉ portChars port := not_mem_portChars (by decide) (by decide)
  have hclose : ']' ∉ portChars port := not_mem_portChars (by decide) (by decide)
  have hbrackets : bracketsOk (foldHost given ++ portChars port) = false := by
    rcases hone with hone | hone <;> simp [bracketsOk, hopen, hclose, hone]
  rw [Authority.chars, if_neg hcolon, parse?, extent_of_clear hall, hbrackets]
  rfl

end Read

end Authority

namespace ProxyLine

/-! ## What a line gives -/

theorem read_of_gives {cs : List Char} (hcs : ';' ∉ cs) {i : ProxyInfo}
    (h : Gives cs (some i)) : i.Read := by
  cases h with
  | direct _ _ => exact .direct
  | @proxy name token host rest type port hwords _ htype haddress hhost =>
    have hmem : token ∈ words cs := by simp [hwords]
    have htoken : ∀ c ∈ token, isBlank c = false ∧ c ≠ ';' := by
      intro c hc
      have hc := of_mem_piecesBy (List.mem_of_mem_filter hmem) c hc
      exact ⟨hc.2, fun he => hcs (he ▸ hc.1)⟩
    exact .proxy htype (fun hempty => hhost (String.ofList_eq_empty_iff.1 hempty)) htoken
      (by rw [haddress, String.toList_ofList])

theorem read_of_entries {accept : ProxyInfo → Bool} : ∀ {cut : List (List Char)}
    {infos : List ProxyInfo}, (∀ cs ∈ cut, ';' ∉ cs) → entries accept cut = .ok infos →
      ∀ i ∈ infos, i.Read
  | [], infos, _, h => by
    cases h
    simp
  | cs :: rest, infos, hcut, h => by
    rw [List.forall_mem_cons] at hcut
    obtain ⟨first, more, hfirst, hmore, rfl⟩ := entries_cons_ok_iff.1 h
    intro i hi
    rcases List.mem_append.1 hi with hi | hi
    · have hi := (Option.filter_eq_some_iff.1 (Option.mem_toList.1 hi)).1
      exact read_of_gives hcut.1 (entry_ok_iff.1 (hi ▸ hfirst))
    · exact read_of_entries hcut.2 hmore i hi

theorem read_of_parse {line : String} {accept : ProxyInfo → Bool} {infos : List ProxyInfo}
    (h : parse (some line) accept = .ok infos) : ∀ i ∈ infos, i.Read := by
  by_cases hblank : Blank line
  · rw [parse_of_blank hblank] at h
    cases h
    simpa using ProxyInfo.Read.direct
  · exact read_of_entries (fun cs hcs => not_mem_of_mem_pieces hcs) ((parse_ok_iff hblank).1 h)

/-! ## Printed entries -/

theorem solid_of_read {token : List Char} {host : String} {port : Option Nat}
    (htoken : ∀ c ∈ token, isBlank c = false ∧ c ≠ ';')
    (hread : parse? token = some (host.toList, port)) :
    ∀ c ∈ host.toList, isBlank c = false ∧ c ≠ ';' :=
  forall_of_parse? hread (fun _ => isCaseless_of_not_solid) fun c _ hc => htoken c hc

theorem semicolon_not_mem_of_read {i : ProxyInfo} (h : i.Read) : ';' ∉ i.text.toList := by
  cases h with
  | direct => decide
  | proxy htype _ htoken hread => exact semicolon_not_mem_text htype (solid_of_read htoken hread)

theorem entry_of_faithful {i : ProxyInfo} (h : i.Read) (hfaithful : i.Faithful) {cs : List Char}
    (hcs : i.Padded cs) : entry cs = .ok (some i) := by
  cases h with
  | direct => exact entry_direct hcs
  | proxy htype hne htoken hread =>
    exact entry_of_parse? htype hne (solid_of_read htoken hread)
      (parse?_chars hread (hfaithful _ rfl)) hcs

theorem entry_of_not_faithful {i : ProxyInfo} (h : i.Read) (hfaithful : ¬i.Faithful)
    {cs : List Char} (hcs : i.Padded cs) : ∃ fault, entry cs = .error fault := by
  cases h with
  | direct => exact absurd (fun _ h => by cases h) hfaithful
  | @proxy type token host port htype hne htoken hread =>
    have hhost : ':' ∉ host.toList ∧ ('[' ∈ host.toList ∨ ']' ∈ host.toList) := by
      simpa [ProxyInfo.Faithful, Decidable.imp_iff_not_or] using hfaithful
    have hwords := words_written htype hne (solid_of_read htoken hread) hcs
    exact ⟨_, entry_of_faulty (.badAddress hwords (ProxyType.ofName?_upper type) htype
      (parse?_chars_eq_none hread hhost.1 hhost.2))⟩

/-- Printed entries that are read as any entries at all are faithful. -/
theorem faithful_of_entries {accept : ProxyInfo → Bool} {infos : List ProxyInfo}
    {cut : List (List Char)} (hpadded : List.Forall₂ ProxyInfo.Padded infos cut) :
    ∀ {again : List ProxyInfo}, (∀ i ∈ infos, i.Read) → entries accept cut = .ok again →
      ∀ i ∈ infos, i.Faithful := by
  induction hpadded with
  | nil => simp
  | @cons i cs infos cut hcs _ ih =>
    intro again hread h
    rw [List.forall_mem_cons] at hread ⊢
    obtain ⟨first, more, hfirst, hmore, -⟩ := entries_cons_ok_iff.1 h
    refine ⟨?_, ih hread.2 hmore⟩
    by_contra hnot
    obtain ⟨fault, hfault⟩ := entry_of_not_faithful hread.1 hnot hcs
    cases hfault ▸ hfirst

/-! ## Printed lines -/

theorem intercalate_padded (separator : List Char) (b : Char) (cs : List Char) :
    ∀ rest : List (List Char), List.intercalate (separator ++ [b]) (cs :: rest) =
      List.intercalate separator (cs :: rest.map (b :: ·))
  | [] => by simp
  | ds :: rest => by
    rw [List.map_cons, List.intercalate_cons_cons, List.intercalate_cons_cons,
      intercalate_padded separator b ds rest]
    rcases rest with _ | ⟨es, rest⟩
    · simp
    · simp only [List.map_cons, List.intercalate_cons_cons, List.append_assoc, List.cons_append,
        List.nil_append]

theorem toList_text (infos : List ProxyInfo) :
    ∃ cut, (text infos).toList = List.intercalate [';'] cut ∧
      List.Forall₂ ProxyInfo.Padded infos cut := by
  rcases infos with _ | ⟨i, infos⟩
  · exact ⟨[], rfl, .nil⟩
  · refine ⟨i.text.toList :: infos.map fun j => ' ' :: j.text.toList, ?_, .cons ?_ ?_⟩
    · have hpadded := intercalate_padded [';'] ' ' i.text.toList
        (infos.map fun j => j.text.toList)
      simp only [text, String.toList_intercalate, List.map_cons, List.map_map] at hpadded ⊢
      exact hpadded
    · exact ⟨[], [], by simp, by simp, by simp⟩
    · rw [List.forall₂_map_right_iff, List.forall₂_same]
      intro j _
      exact ⟨[' '], [], by simpa using show isBlank ' ' = true by decide, by simp, by simp⟩

theorem exists_not_blank_text {i : ProxyInfo} (h : i.Read) :
    ∃ c ∈ i.text.toList, isBlank c = false := by
  cases h with
  | direct => exact ⟨'D', by decide, by decide⟩
  | @proxy type _ _ _ htype _ _ _ =>
    obtain ⟨hne, hsolid⟩ := ProxyType.solid_name type
    obtain ⟨c, hc⟩ := List.exists_mem_of_ne_nil _ hne
    refine ⟨c, ?_, (hsolid c hc).1⟩
    rw [ProxyInfo.toList_text htype]
    exact List.mem_append_left _ hc

/-- A printed line is read by its entries. -/
theorem parse_text {infos : List ProxyInfo} (hne : infos ≠ []) (hread : ∀ i ∈ infos, i.Read)
    (accept : ProxyInfo → Bool) : ∃ cut, List.Forall₂ ProxyInfo.Padded infos cut ∧
      parse (some (text infos)) accept =
        (entries accept cut).mapError fun fault => ⟨text infos, fault⟩ := by
  obtain ⟨cut, htext, hpadded⟩ := toList_text infos
  have hcut : cut ≠ [] := by
    rintro rfl
    exact hne (List.forall₂_nil_right_iff.1 hpadded)
  have hpieces : pieces ';' (text infos).toList = cut := by
    rw [htext]
    exact pieces_intercalate
      (forall_not_mem_padded hpadded fun i hi => semicolon_not_mem_of_read (hread i hi)) hcut
  have hnotBlank : ¬Blank (text infos) := by
    -- the first piece is not blank, and all its characters stand in the line
    intro hblank
    cases hpadded with
    | nil => exact hcut rfl
    | @cons i cs infos cut hcs _ =>
      obtain ⟨c, hc, hsolid⟩ := exists_not_blank_text (hread i List.mem_cons_self)
      obtain ⟨before, after, -, -, rfl⟩ := hcs
      have hmem : c ∈ (text (i :: infos)).toList :=
        (of_mem_piecesBy (hpieces ▸ List.mem_cons_self)
          c (List.mem_append_left _ (List.mem_append_right _ hc))).1
      rw [hblank c hmem] at hsolid
      cases hsolid
  exact ⟨cut, hpadded, by rw [parse_of_not_blank hnotBlank, hpieces]⟩

/-- What was read from a line is read again from its print just if each host holds a colon or no
bracket. -/
theorem parse_text_iff {line : String} {infos : List ProxyInfo}
    (h : parse (some line) (fun _ => true) = .ok infos) (hne : infos ≠ []) :
    parse (some (text infos)) (fun _ => true) = .ok infos ↔ ∀ i ∈ infos, i.Faithful := by
  have hread := read_of_parse h
  obtain ⟨cut, hpadded, hparse⟩ := parse_text hne hread fun _ => true
  rw [hparse, mapError_ok_iff]
  constructor
  · exact faithful_of_entries hpadded hread
  · intro hfaithful
    rw [entries_of_forall _ hpadded fun i hi cs hcs =>
      entry_of_faithful (hread i hi) (hfaithful i hi) hcs]
    simp

theorem parse_text_iff_zone :
    parse (some "direct; PROXY u:p@[FE80::A%Eth0]:080/x") (fun _ => true) =
        .ok [.direct, ⟨.proxy, some "fe80::a%Eth0", some 80⟩] ∧
      (parse (some (text [.direct, ⟨.proxy, some "fe80::a%Eth0", some 80⟩])) (fun _ => true) =
          .ok [.direct, ⟨.proxy, some "fe80::a%Eth0", some 80⟩] ↔
        ∀ i ∈ [.direct, ⟨.proxy, some "fe80::a%Eth0", some 80⟩], ProxyInfo.Faithful i) := by
  have hread : parse (some "direct; PROXY u:p@[FE80::A%Eth0]:080/x") (fun _ => true) =
      .ok [.direct, ⟨.proxy, some "fe80::a%Eth0", some 80⟩] := by
    decide +kernel
  exact ⟨hread, parse_text_iff hread (by decide)⟩

/-- A host in brackets with a bracket and no colon in it. -/
theorem parse_text_open_bracket :
    parse (some "PROXY [v1.a[b]") (fun _ => true) = .ok [⟨.proxy, some "v1.a[b", none⟩] ∧
      ¬parse (some (text [⟨.proxy, some "v1.a[b", none⟩])) (fun _ => true) =
        .ok [⟨.proxy, some "v1.a[b", none⟩] := by
  decide +kernel

end ProxyLine

end PacScript
