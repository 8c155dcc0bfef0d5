import PacScript.Proofs.Address.LowerCase
import PacScript.Proofs.Proxy.Authority

/-!
# Hosts that are read

What is read from a reference is the lower-case form of a host that stands there by itself, without
a colon, or in brackets that may hold it (`of_parse?`). Folding it once more changes nothing
(`foldHost_foldHost`), it holds the same characters without case (`mem_foldHost_iff`), and brackets
may still hold it (`isBracketHost_foldHost`).
-/

namespace PacScript.Authority

open PacScript.Text

variable {host : List Char}

/-! ## Folding -/

theorem mem_foldHost_iff {c : Char} (h : isCaseless c = true) : c ∈ foldHost host ↔ c ∈ host := by
  rcases hcut : cut? '%' host with _ | ⟨name, zone⟩
  · simp only [foldHost, hcut]
    exact mem_lower_iff h
  · obtain ⟨rfl, -⟩ := cut?_eq_some_iff.1 hcut
    simp only [foldHost, hcut, List.mem_append, mem_lower_iff h]

theorem foldHost_foldHost (host : List Char) : foldHost (foldHost host) = foldHost host := by
  have hpercent : isCaseless '%' = true := by decide +kernel
  rcases hcut : cut? '%' host with _ | ⟨name, zone⟩
  · have hnot : '%' ∉ lower host := by
      rw [mem_lower_iff hpercent]
      exact cut?_eq_none_iff.1 hcut
    simp only [foldHost, hcut, cut?_eq_none_iff.2 hnot, lower_lower]
  · have hnot : '%' ∉ lower name := by
      rw [mem_lower_iff hpercent]
      exact (cut?_eq_some_iff.1 hcut).2
    have hagain : cut? '%' (lower name ++ '%' :: zone) = some (lower name, zone) :=
      cut?_eq_some_iff.2 ⟨rfl, hnot⟩
    simp only [foldHost, hcut, hagain, lower_lower]

/-- What stands at the front, in ASCII and before any zone, is folded character by character. -/
theorem exists_foldHost_append {front rest : List Char}
    (hfront : ∀ c ∈ front, c.toNat < 128 ∧ c ≠ '%') (hrest : rest ≠ []) :
    ∃ folded, folded ≠ [] ∧ foldHost (front ++ rest) = front.map Char.toLower ++ folded := by
  have hascii : ∀ c ∈ front, c.toNat < 128 := fun c hc => (hfront c hc).1
  have hnot : '%' ∉ front := fun hmem => (hfront _ hmem).2 rfl
  rcases hcut : cut? '%' rest with _ | ⟨name, zone⟩
  · have hall : cut? '%' (front ++ rest) = none :=
      cut?_eq_none_iff.2 (List.not_mem_append hnot (cut?_eq_none_iff.1 hcut))
    obtain ⟨b, hb⟩ := lowerAfter_append hascii false rest
    refine ⟨lowerAfter b rest, lowerAfter_ne_nil hrest b, ?_⟩
    simp only [foldHost, hall]
    exact hb
  · obtain ⟨rfl, hname⟩ := cut?_eq_some_iff.1 hcut
    have hall : cut? '%' (front ++ (name ++ '%' :: zone)) = some (front ++ name, zone) :=
      cut?_eq_some_iff.2 ⟨(List.append_assoc _ _ _).symm, List.not_mem_append hnot hname⟩
    obtain ⟨b, hb⟩ := lowerAfter_append hascii false name
    refine ⟨lowerAfter b name ++ '%' :: zone, by simp, ?_⟩
    simp only [foldHost, hall]
    rw [← List.append_assoc]
    exact congrArg (· ++ '%' :: zone) hb

/-! ## Brackets -/

theorem isFuture_iff : isFuture host = true ↔
    ∃ version more, host = 'v' :: (version ++ '.' :: more) ∧ version ≠ [] ∧ more ≠ [] ∧
      ∀ c ∈ version, isHexDigit c = true := by
  constructor
  · intro h
    unfold isFuture at h
    split at h
    · rename_i rest
      simp only at h
      split at h
      · rename_i more hmore
        simp only [Bool.and_eq_true, Bool.not_eq_true', List.isEmpty_eq_false_iff] at h
        refine ⟨rest.takeWhile isHexDigit, more, ?_, h.1, h.2,
          fun c hc => List.mem_takeWhile_imp hc⟩
        rw [← hmore, List.takeWhile_append_dropWhile]
      · cases h
    · cases h
  · rintro ⟨version, more, rfl, hversion, hmore, hdigits⟩
    have htake : (version ++ '.' :: more).takeWhile isHexDigit = version := by
      rw [List.takeWhile_append_of_pos hdigits]
      simp [isHexDigit]
    have hdrop : (version ++ '.' :: more).dropWhile isHexDigit = '.' :: more := by
      rw [List.dropWhile_append_of_pos hdigits]
      simp [isHexDigit]
    simp [isFuture, htake, hdrop, hversion, hmore]

theorem isFuture_foldHost (h : isFuture host = true) : isFuture (foldHost host) = true := by
  obtain ⟨version, more, rfl, hversion, hmore, hdigits⟩ := isFuture_iff.1 h
  have hfront : ∀ c ∈ 'v' :: (version ++ ['.']), c.toNat < 128 ∧ c ≠ '%' := by
    intro c hc
    simp only [List.mem_cons, List.mem_append, List.not_mem_nil, or_false] at hc
    rcases hc with rfl | hc | rfl
    · decide
    · refine ⟨Address.toNat_lt_of_isGroupChar (by simp [Address.isGroupChar, hdigits c hc]), ?_⟩
      rintro rfl
      cases hdigits _ hc
    · decide
  obtain ⟨folded, hne, heq⟩ := exists_foldHost_append hfront hmore
  refine isFuture_iff.2 ⟨version.map Char.toLower, folded, ?_, by simpa using hversion, hne, ?_⟩
  · simpa using heq
  · intro c hc
    obtain ⟨d, hd, rfl⟩ := List.mem_map.1 hc
    rw [isHexDigit_toLower]
    exact hdigits d hd

theorem v6?_foldHost {a : Address} (h : Address.v6? host = some a) :
    Address.v6? (foldHost host) = some a := by
  have hslash : ¬(foldHost host).contains '/' := by
    rw [List.contains_iff_mem, mem_foldHost_iff (by decide +kernel)]
    exact (Address.v6?_cases h).1
  have hpercent : isCaseless '%' = true := by decide +kernel
  rcases Address.v6?_cases h with ⟨-, value, ⟨hzone, hvalue, rfl⟩ |
    ⟨number, zone, hcut, hne, hzone, hvalue, rfl⟩⟩
  · have hcut : cut? '%' (foldHost host) = none :=
      cut?_eq_none_iff.2 (by rwa [mem_foldHost_iff hpercent])
    have hlower : foldHost host = lower host := by
      rw [foldHost, cut?_eq_none_iff.2 hzone]
    rw [Address.v6?, if_neg hslash, hcut, hlower]
    simp only [Address.v6Value?_lower hvalue, Option.map_some]
  · have hnot : '%' ∉ lower number := by
      rw [mem_lower_iff hpercent]
      exact (cut?_eq_some_iff.1 hcut).2
    have hfold : foldHost host = lower number ++ '%' :: zone := by
      simp only [foldHost, hcut]
    have hagain : cut? '%' (foldHost host) = some (lower number, zone) :=
      cut?_eq_some_iff.2 ⟨hfold, hnot⟩
    rw [Address.v6?, if_neg hslash, hagain]
    simp [hne, hzone, Address.v6Value?_lower hvalue]

theorem isBracketHost_foldHost (h : isBracketHost host = true) :
    isBracketHost (foldHost host) = true := by
  unfold isBracketHost at h
  split at h
  · have hfuture := isFuture_foldHost h
    obtain ⟨version, more, heq, -⟩ := isFuture_iff.1 hfuture
    rw [isBracketHost, if_pos (by simp [heq]), hfuture]
  · split at h
    · rename_i a ha
      exact isBracketHost_of_v6? (v6?_foldHost (Address.v6?_of_ofChars? ha (by simpa using h)))
    · cases h

/-! ## Reading -/

theorem mem_of_mem_cutOr {separator c : Char} {cs : List Char} (h : c ∈ (cutOr separator cs).1) :
    c ∈ cs ∧ c ≠ separator := by
  unfold cutOr at h
  rcases hcut : cut? separator cs with _ | ⟨before, after⟩
  · rw [hcut] at h
    refine ⟨h, ?_⟩
    rintro rfl
    exact cut?_eq_none_iff.1 hcut h
  · rw [hcut] at h
    obtain ⟨rfl, hbefore⟩ := cut?_eq_some_iff.1 hcut
    refine ⟨List.mem_append_left _ h, ?_⟩
    rintro rfl
    exact hbefore h

theorem of_mem_hostInfo {c : Char} {authority : List Char} (h : c ∈ hostInfo authority) :
    c ∈ authority ∧ c ≠ '@' := by
  unfold hostInfo cutLast? at h
  rcases hcut : cut? '@' authority.reverse with _ | ⟨after, before⟩
  · rw [hcut] at h
    refine ⟨h, ?_⟩
    rintro rfl
    exact cut?_eq_none_iff.1 hcut (List.mem_reverse.2 h)
  · rw [hcut] at h
    have h : c ∈ after := List.mem_reverse.1 h
    obtain ⟨heq, hafter⟩ := cut?_eq_some_iff.1 hcut
    refine ⟨List.mem_reverse.1 (heq ▸ List.mem_append_left _ h), ?_⟩
    rintro rfl
    exact hafter h

theorem of_port? {cs : List Char} {port : Option Nat} (h : port? cs = some port) :
    ∀ p ∈ port, p ≤ 65535 := by
  unfold port? at h
  split at h
  · cases h
    simp
  · split at h
    · cases h
    · split at h
      · rename_i hle
        cases h
        simpa using hle
      · cases h

/-- How a host may stand in a reference: by itself or in brackets. -/
inductive Stands (host : List Char) : Prop
  | bare (hcolon : ':' ∉ host) (hopen : '[' ∉ host)
  | bracketed (hclose : ']' ∉ host) (hbracket : isBracketHost host = true)

theorem stands_written {authority : List Char} (h : bracketsOk authority = true) :
    Stands (written (hostInfo authority)).host ∧
      ∀ c ∈ (written (hostInfo authority)).host, c ∈ hostInfo authority := by
  rcases hcut : cut? '[' (hostInfo authority) with _ | ⟨before, bracketed⟩
  · have hwritten : (written (hostInfo authority)).host = (cutOr ':' (hostInfo authority)).1 := by
      rw [written, hcut]
    rw [hwritten]
    refine ⟨.bare (fun hc => (mem_of_mem_cutOr hc).2 rfl) fun hc => ?_, fun c hc =>
      (mem_of_mem_cutOr hc).1⟩
    exact cut?_eq_none_iff.1 hcut (mem_of_mem_cutOr hc).1
  · have hwritten : (written (hostInfo authority)).host = (cutOr ']' bracketed).1 := by
      rw [written, hcut]
    obtain ⟨heq, -⟩ := cut?_eq_some_iff.1 hcut
    have hopen : authority.contains '[' = true := by
      rw [List.contains_iff_mem]
      exact (of_mem_hostInfo (heq ▸ List.mem_append_right _ List.mem_cons_self)).1
    have hbracket : isBracketHost (written (hostInfo authority)).host = true := by
      simp only [bracketsOk, hopen] at h
      split at h
      · cases h
      · simp only [Bool.not_true, Bool.false_eq_true, if_false, Bool.and_eq_true] at h
        exact h.2
    refine ⟨.bracketed (fun hc => ?_) hbracket, fun c hc => ?_⟩
    · rw [hwritten] at hc
      exact (mem_of_mem_cutOr hc).2 rfl
    · rw [hwritten] at hc
      rw [heq]
      exact List.mem_append_right _ (List.mem_cons_of_mem _ (mem_of_mem_cutOr hc).1)

/-- What is read from a reference. -/
theorem of_parse? {reference host : List Char} {port : Option Nat}
    (h : parse? reference = some (host, port)) : (∀ p ∈ port, p ≤ 65535) ∧
      ∃ given, host = foldHost given ∧ Stands given ∧
        ∀ c ∈ given, isClear c = true ∧ c ∈ reference := by
  simp only [parse?] at h
  split at h
  · cases h
  · rename_i hbrackets
    split at h
    · cases h
    · rename_i hmasked
      obtain ⟨number, hnumber, he⟩ := Option.map_eq_some_iff.1 h
      cases he
      obtain ⟨hstands, hmem⟩ := stands_written (by simpa using hbrackets)
      refine ⟨of_port? hnumber, _, rfl, hstands, fun c hc => ?_⟩
      obtain ⟨hc, hat⟩ := of_mem_hostInfo (hmem c hc)
      have hend := List.mem_takeWhile_imp hc
      have hclear := List.any_eq_false.1 (by simpa using hmasked) c hc
      refine ⟨?_, (List.takeWhile_prefix _).subset hc⟩
      simp only [Bool.not_eq_true', Bool.or_eq_false_iff] at hend
      simp [isClear, hat, hend, hclear]

end PacScript.Authority
