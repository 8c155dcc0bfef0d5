import PacScript.Proofs.Proxy.Authority
import PacScript.Proofs.Proxy.Entries

/-!
# Proxy lines read back

An entry is written as the name of its type and an authority, so it is read back if its authority is
(`entry_of_parse?`). That is so where the host is a plain name or an IPv6 text in small letters
(`entry_padded`). White space around the entries does not matter, so a line of such entries reads
back as the entries (`parse_intercalate`).
-/

namespace PacScript

open PacScript.Text Authority

/-- A host that is a name of small letters, digits, `-`, `_` and `.`, or an IPv6 text in small
letters without zone. -/
inductive PlainHost (host : String) : Prop
  | name (hne : host ≠ "") (hchars : ∀ c ∈ host.toList, isNameChar c = true)
  | literal (value : BitVec 128) (hvalue : Address.v6? host.toList = some (.v6 value none))
      (hlower : ∀ c ∈ host.toList, c.isUpper = false)

/-- An entry for a direct connection, or for a proxy on a plain host with a port or without. -/
inductive ProxyInfo.Plain : ProxyInfo → Prop
  | direct : Plain .direct
  | proxy (type : ProxyType) (host : String) (port : Option Int) (htype : type ≠ .direct)
      (hhost : PlainHost host) (hport : ∀ p ∈ port, 0 ≤ p ∧ p ≤ 65535) :
      Plain ⟨type, some host, port⟩

/-- An entry as it stands in a line: its text, with white space around it or none. -/
def ProxyInfo.Padded (i : ProxyInfo) (cs : List Char) : Prop :=
  ∃ before after, (∀ b ∈ before, isBlank b = true) ∧ (∀ b ∈ after, isBlank b = true) ∧
    cs = before ++ i.text.toList ++ after

/-! ## Writing an entry -/

/-- A host and a port as they are written. -/
def Authority.chars (host : List Char) (port : Option Nat) : List Char :=
  if ':' ∈ host then '[' :: (host ++ ']' :: portChars port) else host ++ portChars port

theorem exists_natPort {port : Option Int} (h : ∀ p ∈ port, 0 ≤ p ∧ p ≤ 65535) :
    ∃ number : Option Nat, port = number.map (fun n : Nat => (n : Int)) ∧
      ∀ n ∈ number, n ≤ 65535 := by
  cases port with
  | none => exact ⟨none, rfl, by simp⟩
  | some p =>
    have hp := h p rfl
    refine ⟨some p.toNat, ?_, fun n hn => ?_⟩
    · rw [Option.map_some, Int.toNat_of_nonneg hp.1]
    · obtain rfl : p.toNat = n := by simpa using hn
      omega

theorem ProxyInfo.toList_text {type : ProxyType} (htype : type ≠ .direct) (host : String)
    (port : Option Nat) :
    (ProxyInfo.text ⟨type, some host, port.map fun n : Nat => (n : Int)⟩).toList =
      type.name.toList ++ ' ' :: Authority.chars host.toList port := by
  have hdigits (n : Nat) : (Int.repr n).toList = Nat.toDigits 10 n := Nat.toList_repr
  simp only [ProxyInfo.text, ProxyType.isDirect_of_ne htype, Authority.chars]
  by_cases hcolon : ':' ∈ host.toList
  · cases port <;> simp [hcolon, portChars, hdigits]
  · cases port <;> simp [hcolon, portChars, hdigits]

/-! ## Reading an entry -/

theorem PlainHost.ne_empty {host : String} (h : PlainHost host) : host.toList ≠ [] := by
  cases h with
  | name hne _ => exact fun hnil => hne (String.toList_eq_nil_iff.1 hnil)
  | literal value hvalue _ => exact List.ne_nil_of_mem (Address.colon_mem_of_v6? hvalue)

/-- The authority of a plain host is read as it is written. -/
theorem PlainHost.parse?_chars {host : String} (h : PlainHost host) {port : Option Nat}
    (hport : ∀ p ∈ port, p ≤ 65535) :
    Authority.parse? (Authority.chars host.toList port) = some (host.toList, port) := by
  cases h with
  | name _ hchars =>
    have hcolon : ':' ∉ host.toList := fun hmem => by cases hchars _ hmem
    rw [Authority.chars, if_neg hcolon]
    exact parse?_name hchars hport
  | literal value hvalue hlower =>
    rw [Authority.chars, if_pos (Address.colon_mem_of_v6? hvalue)]
    exact parse?_literal hvalue hlower hport

theorem PlainHost.isPlain_of_mem {host : String} (h : PlainHost host) :
    ∀ c ∈ host.toList, isPlain c = true := by
  cases h with
  | name _ hchars => exact fun c hc => by simp [isPlain, hchars c hc]
  | literal value hvalue hlower => exact (of_literal hvalue hlower).1

/-- A plain character separates neither words nor entries. -/
theorem solid_of_isPlain {c : Char} (h : isPlain c = true) : isBlank c = false ∧ c ≠ ';' := by
  have hc := of_isPlain h
  refine ⟨hc.2.1, ?_⟩
  rintro rfl
  exact hc.2.2.1 (by decide)

/-- Brackets and ports separate nothing. -/
theorem solid_of_mem_chars {host : List Char} {port : Option Nat}
    (h : ∀ c ∈ host, isBlank c = false ∧ c ≠ ';') :
    ∀ c ∈ Authority.chars host port, isBlank c = false ∧ c ≠ ';' := by
  intro c hc
  unfold Authority.chars at hc
  split_ifs at hc
  · simp only [List.mem_cons, List.mem_append] at hc
    rcases hc with rfl | hc | rfl | hc
    · decide
    · exact h c hc
    · decide
    · exact solid_of_isPlain (isPlain_of_mem_portChars c hc)
  · exact (List.mem_append.1 hc).elim (h c) fun hc =>
      solid_of_isPlain (isPlain_of_mem_portChars c hc)

theorem Authority.chars_ne_nil {host : List Char} (h : host ≠ []) (port : Option Nat) :
    Authority.chars host port ≠ [] := by
  unfold Authority.chars
  split_ifs
  · exact List.cons_ne_nil _ _
  · exact List.append_ne_nil_of_left_ne_nil h _

theorem ProxyType.ofName?_upper (type : ProxyType) :
    ProxyType.ofName? (String.ofList (upper type.name.toList)) = some type := by
  cases type <;> decide +kernel

theorem ProxyType.solid_name (type : ProxyType) : type.name.toList ≠ [] ∧
    ∀ c ∈ type.name.toList, isBlank c = false ∧ c ≠ ';' := by
  have hall : type.name.toList ≠ [] ∧
      (type.name.toList.all fun c => !isBlank c && c != ';') = true := by
    cases type <;> decide
  exact ⟨hall.1, fun c hc => by simpa using List.all_eq_true.1 hall.2 c hc⟩

namespace ProxyLine

theorem words_padded {i : ProxyInfo} {cs : List Char} (hcs : i.Padded cs) :
    words cs = words i.text.toList := by
  obtain ⟨before, after, hbefore, hafter, rfl⟩ := hcs
  rw [words_append_blank hafter, words_blank_append hbefore]

theorem entry_direct {cs : List Char} (hcs : ProxyInfo.direct.Padded cs) :
    entry cs = .ok (some .direct) := by
  have hwords : words cs = [ProxyType.direct.name.toList] := by
    rw [words_padded hcs]
    decide
  exact entry_of_gives (.direct hwords (ProxyType.ofName?_upper .direct))

section Written

variable {type : ProxyType} {host : String} {port : Option Nat} (htype : type ≠ .direct)

include htype

/-- A written entry has two words. -/
theorem words_written (hne : host ≠ "") (hsolid : ∀ c ∈ host.toList, isBlank c = false ∧ c ≠ ';')
    {cs : List Char}
    (hcs : ProxyInfo.Padded ⟨type, some host, port.map fun n : Nat => (n : Int)⟩ cs) :
    words cs = [type.name.toList, Authority.chars host.toList port] := by
  have haddress : Authority.chars host.toList port ≠ [] :=
    Authority.chars_ne_nil (fun hnil => hne (String.toList_eq_nil_iff.1 hnil)) port
  rw [words_padded hcs, ProxyInfo.toList_text htype, words_append_cons _ (by decide),
    words_of_no_blank (ProxyType.solid_name type).1 fun c hc =>
      ((ProxyType.solid_name type).2 c hc).1,
    words_of_no_blank haddress fun c hc => (solid_of_mem_chars hsolid c hc).1]
  rfl

/-- An entry is read as it is written if its authority is. -/
theorem entry_of_parse? (hne : host ≠ "")
    (hsolid : ∀ c ∈ host.toList, isBlank c = false ∧ c ≠ ';')
    (hread : Authority.parse? (Authority.chars host.toList port) = some (host.toList, port))
    {cs : List Char}
    (hcs : ProxyInfo.Padded ⟨type, some host, port.map fun n : Nat => (n : Int)⟩ cs) :
    entry cs = .ok (some ⟨type, some host, port.map fun n : Nat => (n : Int)⟩) := by
  have hgives := Gives.proxy (words_written htype hne hsolid hcs) (ProxyType.ofName?_upper type)
    htype hread fun hnil => hne (String.toList_eq_nil_iff.1 hnil)
  rw [String.ofList_toList] at hgives
  exact entry_of_gives hgives

theorem semicolon_not_mem_text (hsolid : ∀ c ∈ host.toList, isBlank c = false ∧ c ≠ ';') :
    ';' ∉ (ProxyInfo.text ⟨type, some host, port.map fun n : Nat => (n : Int)⟩).toList := by
  rw [ProxyInfo.toList_text htype]
  refine List.not_mem_append (fun hmem => ((ProxyType.solid_name type).2 _ hmem).2 rfl) ?_
  rw [List.mem_cons, not_or]
  exact ⟨by decide, fun hmem => (solid_of_mem_chars hsolid _ hmem).2 rfl⟩

end Written

/-- White space around an entry brings no semicolon with it. -/
theorem not_mem_padded {i : ProxyInfo} (h : ';' ∉ i.text.toList) {cs : List Char}
    (hcs : i.Padded cs) : ';' ∉ cs := by
  obtain ⟨before, after, hbefore, hafter, rfl⟩ := hcs
  have hblank {bs : List Char} (hbs : ∀ b ∈ bs, isBlank b = true) : ';' ∉ bs :=
    fun hmem => absurd (hbs _ hmem) (by decide)
  exact List.not_mem_append (List.not_mem_append (hblank hbefore) h) (hblank hafter)

theorem forall_not_mem_padded {infos : List ProxyInfo} {cut : List (List Char)}
    (hpadded : List.Forall₂ ProxyInfo.Padded infos cut)
    (h : ∀ i ∈ infos, ';' ∉ i.text.toList) : ∀ cs ∈ cut, ';' ∉ cs := by
  induction hpadded with
  | nil => simp
  | @cons i cs infos cut hcs _ ih =>
    rw [List.forall_mem_cons] at h ⊢
    exact ⟨not_mem_padded h.1 hcs, ih h.2⟩

/-- Pieces that are read as one entry each give these entries, but for those not accepted. -/
theorem entries_of_forall (accept : ProxyInfo → Bool) {infos : List ProxyInfo}
    {cut : List (List Char)} (hpadded : List.Forall₂ ProxyInfo.Padded infos cut)
    (h : ∀ i ∈ infos, ∀ cs, i.Padded cs → entry cs = .ok (some i)) :
    entries accept cut = .ok (infos.filter fun i => i.type.isDirect || accept i) := by
  induction hpadded with
  | nil => rfl
  | @cons i cs infos cut hcs _ ih =>
    have hfirst := h i List.mem_cons_self cs hcs
    have hmore := ih fun j hj => h j (List.mem_cons_of_mem i hj)
    simp only [entries, hfirst, hmore, List.filter_cons]
    rfl

/-! ## Plain entries -/

theorem solid_of_plainHost {host : String} (h : PlainHost host) :
    ∀ c ∈ host.toList, isBlank c = false ∧ c ≠ ';' :=
  fun c hc => solid_of_isPlain (h.isPlain_of_mem c hc)

theorem entry_padded {i : ProxyInfo} (h : i.Plain) {cs : List Char} (hcs : i.Padded cs) :
    entry cs = .ok (some i) := by
  cases h with
  | direct => exact entry_direct hcs
  | proxy type host port htype hhost hport =>
    obtain ⟨number, rfl, hnumber⟩ := exists_natPort hport
    have hne : host ≠ "" := fun he => hhost.ne_empty (String.toList_eq_nil_iff.2 he)
    exact entry_of_parse? htype hne (solid_of_plainHost hhost) (hhost.parse?_chars hnumber) hcs

theorem semicolon_not_mem_of_plain {i : ProxyInfo} (h : i.Plain) : ';' ∉ i.text.toList := by
  cases h with
  | direct => decide
  | proxy type host port htype hhost hport =>
    obtain ⟨number, rfl, -⟩ := exists_natPort hport
    exact semicolon_not_mem_text htype (solid_of_plainHost hhost)

theorem solid_of_padded {infos : List ProxyInfo} {cut : List (List Char)}
    (hpadded : List.Forall₂ ProxyInfo.Padded infos cut) (hplain : ∀ i ∈ infos, i.Plain) :
    ∀ cs ∈ cut, ';' ∉ cs :=
  forall_not_mem_padded hpadded fun i hi => semicolon_not_mem_of_plain (hplain i hi)

/-- Pieces that hold one plain entry each give these entries, but for those not accepted. -/
theorem entries_padded (accept : ProxyInfo → Bool) {infos : List ProxyInfo}
    {cut : List (List Char)} (hpadded : List.Forall₂ ProxyInfo.Padded infos cut)
    (hplain : ∀ i ∈ infos, i.Plain) :
    entries accept cut = .ok (infos.filter fun i => i.type.isDirect || accept i) :=
  entries_of_forall accept hpadded fun i hi _ hcs => entry_padded (hplain i hi) hcs

/-- Written entries, parted by semicolons and any white space, are read back as they were. -/
theorem parse_intercalate {infos : List ProxyInfo} {cut : List (List Char)} (hne : infos ≠ [])
    (hplain : ∀ i ∈ infos, i.Plain) (hpadded : List.Forall₂ ProxyInfo.Padded infos cut) :
    parse (some (String.ofList (List.intercalate [';'] cut))) (fun _ => true) = .ok infos := by
  cases hpadded with
  | nil => exact absurd rfl hne
  | @cons i cs infos cut hcs hrest =>
    have hpieces : pieces ';' (List.intercalate [';'] (cs :: cut)) = cs :: cut :=
      pieces_intercalate (solid_of_padded (.cons hcs hrest) hplain) (List.cons_ne_nil cs cut)
    have hread := entries_padded (fun _ => true) (.cons hcs hrest) hplain
    have hnotBlank : trim (List.intercalate [';'] (cs :: cut)) ≠ [] := by
      -- in a blank line the first piece would be blank, and hold no entry
      intro hblank
      have hall : ∀ c ∈ cs, isBlank c = true := fun c hc =>
        trimBy_eq_nil_iff.1 hblank c (of_mem_piecesBy (hpieces ▸ List.mem_cons_self) c hc).1
      have hfirst := entry_padded (hplain i List.mem_cons_self) hcs
      rw [entry, ← List.append_nil cs, words_blank_append hall] at hfirst
      cases hfirst
    simp only [parse, String.toList_ofList, List.isEmpty_iff, hnotBlank, hpieces, hread]
    simp [Except.mapError]

theorem parse_intercalate_three :
    parse (some (String.ofList (List.intercalate [';']
        [" DIRECT".toList, "\tSOCKS5 a-b_c.d:0 ".toList, "PROXY [::1]:80\n".toList])))
      (fun _ => true) =
      .ok [.direct, ⟨.socks5, some "a-b_c.d", some 0⟩, ⟨.proxy, some "::1", some 80⟩] := by
  have hname : PlainHost "a-b_c.d" := .name (by decide) (List.all_eq_true.1 (by decide))
  have hcolons : ("::1".toList.all fun c => !c.isUpper) = true := by decide
  have hliteral : PlainHost "::1" := .literal 1#128 (by decide +kernel) fun c hc => by
    simpa using List.all_eq_true.1 hcolons c hc
  have hplain : ∀ i ∈ [ProxyInfo.direct, ⟨.socks5, some "a-b_c.d", some 0⟩,
      ⟨.proxy, some "::1", some 80⟩], i.Plain := by
    simp only [List.forall_mem_cons, List.not_mem_nil]
    exact ⟨.direct, .proxy _ _ _ (by decide) hname (by decide),
      .proxy _ _ _ (by decide) hliteral (by decide), by simp⟩
  have hblank (c : Char) (hc : isBlank c = true) : ∀ b ∈ [c], isBlank b = true := by
    simpa using hc
  exact parse_intercalate (by decide) hplain
    (.cons ⟨[' '], [], hblank ' ' (by decide), by simp, by decide⟩ <|
      .cons ⟨['\t'], [' '], hblank '\t' (by decide), hblank ' ' (by decide), by decide⟩ <|
        .cons ⟨[], ['\n'], by simp, hblank '\n' (by decide), by decide⟩ .nil)

end ProxyLine

end PacScript
