import PacScript.Proofs.Address.Literal
import PacScript.Proofs.Text.Letters
import PacScript.Proofs.Text.Lower
import PacScript.Proxy.Authority

/-!
# Authorities as they are written

A host is written by itself or in brackets, with a port behind it or without. It is read back, in
lower case, when none of its characters ends an authority or its credentials (`isClear`): by itself
if it holds neither a colon nor a bracket (`parse?_bare`), and in brackets if brackets may hold it
(`parse?_bracketed`).

A plain name of small letters, digits, `-`, `_` and `.` is its own lower-case form, and so is an
IPv6 text in small letters (`parse?_name`, `parse?_literal`).
-/

namespace PacScript.Authority

open PacScript.Text

/-! ## Plain characters -/

/-- The characters of a plain name. -/
def isNameChar (c : Char) : Bool := c.isLower || c.isDigit || c == '-' || c == '_' || c == '.'

/-- The characters of a plain authority. -/
def isPlain (c : Char) : Bool := isNameChar c || c == ':' || c == '[' || c == ']'

/-- The characters that end an authority or part it. -/
def separators : List Char := ['/', '?', '#', '@', '%', ';']

theorem toNat_lt_of_isPlain {c : Char} (h : isPlain c = true) : c.toNat < 128 := by
  simp only [isPlain, isNameChar, Bool.or_eq_true, beq_iff_eq] at h
  rcases h with (((((((h | h) | rfl) | rfl) | rfl) | rfl) | rfl) | rfl)
  · have h : (decide (97 ≤ c.val) && decide (c.val ≤ 122)) = true := h
    rw [Bool.and_eq_true, decide_eq_true_iff, decide_eq_true_iff, UInt32.le_iff_toNat_le,
      UInt32.le_iff_toNat_le] at h
    exact Nat.lt_of_le_of_lt h.2 (by decide)
  · have h : 48 ≤ c.toNat ∧ c.toNat ≤ 57 := Char.isDigit_iff_toNat.1 h
    omega
  all_goals decide

theorem of_isPlain {c : Char} (h : isPlain c = true) :
    c.toLower = c ∧ isBlank c = false ∧ c ∉ separators ∧
      inRanges maskedSeparators c.toNat = false :=
  forall_ascii (p := fun c => isPlain c = true → c.toLower = c ∧ isBlank c = false ∧
    c ∉ separators ∧ inRanges maskedSeparators c.toNat = false) (by decide)
    (toNat_lt_of_isPlain h) h

theorem settled_of_isPlain {c : Char} (h : isPlain c = true) : Settled c := by
  refine ⟨?_, ?_⟩
  · rintro rfl
    exact absurd (toNat_lt_of_isPlain h) (by decide)
  · simp [lowerChar, toNat_lt_of_isPlain h, (of_isPlain h).1]

theorem lower_of_plain {cs : List Char} (h : ∀ c ∈ cs, isPlain c = true) : lower cs = cs :=
  lower_of_settled fun c hc => settled_of_isPlain (h c hc)

/-! ## Ports -/

/-- A port as it follows a host. -/
def portChars : Option Nat → List Char
  | none => []
  | some port => ':' :: Nat.toDigits 10 port

theorem isPlain_of_isDigit {c : Char} (h : c.isDigit = true) : isPlain c = true := by
  simp [isPlain, isNameChar, h]

theorem isPlain_of_mem_portChars {port : Option Nat} : ∀ c ∈ portChars port, isPlain c = true := by
  cases port with
  | none => simp [portChars]
  | some port =>
    intro c hc
    rcases List.mem_cons.1 hc with rfl | hc
    · decide
    · exact isPlain_of_isDigit (List.all_eq_true.1 (all_isDigit_toDigits port) c hc)

/-- The port is what follows the first colon behind the host. -/
theorem cutOr_portChars {host : List Char} (hhost : ':' ∉ host) (port : Option Nat) :
    cutOr ':' (host ++ portChars port) = (host, (cutOr ':' (portChars port)).2) := by
  cases port with
  | none => simp [portChars, cutOr, cut?_eq_none_iff.2 hhost, cut?]
  | some port =>
    have hcut : cut? ':' (host ++ ':' :: Nat.toDigits 10 port) =
        some (host, Nat.toDigits 10 port) :=
      cut?_eq_some_iff.2 ⟨rfl, hhost⟩
    simp [portChars, cutOr, hcut, cut?]

theorem port?_portChars {port : Option Nat} (h : ∀ p ∈ port, p ≤ 65535) :
    port? (cutOr ':' (portChars port)).2 = some port := by
  cases port with
  | none => rfl
  | some port =>
    have hport : port ≤ 65535 := h port rfl
    have hne : (Nat.toDigits 10 port).isEmpty = false := by simp [Nat.toDigits_ne_nil]
    have hshort : (Nat.toDigits 10 port).length ≤ 5 :=
      (Nat.length_toDigits_le_iff (by decide) (by decide)).2 (by omega)
    have hlimit : ¬(Nat.toDigits 10 port).length > Numeral.digitLimit := by
      simp only [Numeral.digitLimit]
      omega
    simp [portChars, cutOr, cut?, port?, hne, all_isDigit_toDigits, hlimit, ofDigits_toDigits,
      hport]

theorem not_mem_portChars {port : Option Nat} {c : Char} (hdigit : c.isDigit = false)
    (hcolon : c ≠ ':') : c ∉ portChars port := by
  cases port with
  | none => simp [portChars]
  | some port =>
    intro hc
    rcases List.mem_cons.1 hc with rfl | hc
    · exact hcolon rfl
    · simp [List.all_eq_true.1 (all_isDigit_toDigits port) c hc] at hdigit

/-! ## Reading -/

/-- A character that ends neither an authority nor its credentials, in none of its forms. -/
def isClear (c : Char) : Bool :=
  !(c == '/' || c == '?' || c == '#' || c == '@') && !inRanges maskedSeparators c.toNat

theorem isClear_of_isPlain {c : Char} (h : isPlain c = true) : isClear c = true := by
  have hsep := (of_isPlain h).2.2.1
  simp only [separators, List.mem_cons, not_or] at hsep
  simp [isClear, hsep, (of_isPlain h).2.2.2]

section Clear

variable {info : List Char} (h : ∀ c ∈ info, isClear c = true)

include h

theorem extent_of_clear : extent info = info := by
  refine List.takeWhile_eq_self_iff.2 fun c hc => ?_
  have hclear := h c hc
  simp only [isClear, Bool.and_eq_true, Bool.not_eq_true', Bool.or_eq_false_iff] at hclear
  simp [hclear]

theorem hostInfo_of_clear : hostInfo info = info := by
  have hat : '@' ∉ info := fun hmem => by cases h '@' hmem
  have hcut : cutLast? '@' info = none := by
    rw [cutLast?, cut?_eq_none_iff.2 (fun hmem => hat (List.mem_reverse.1 hmem))]
    rfl
  rw [hostInfo, hcut]

/-- All that is left to be done for a clear authority. -/
theorem parse?_of_clear (hbrackets : bracketsOk info = true) : parse? info =
    (port? (written info).port).map fun port => (foldHost (written info).host, port) := by
  have hmasked : (info.any fun c => inRanges maskedSeparators c.toNat) = false := by
    rw [List.any_eq_false]
    intro c hc
    have hclear := h c hc
    simp only [isClear, Bool.and_eq_true, Bool.not_eq_true'] at hclear
    simp [hclear.2]
  simp [parse?, extent_of_clear h, hostInfo_of_clear h, hbrackets, hmasked]

end Clear

section Written

variable {host : List Char} {port : Option Nat}

/-- A host by itself, with a port or without. -/
theorem parse?_bare (hclear : ∀ c ∈ host, isClear c = true) (hcolon : ':' ∉ host)
    (hopen : '[' ∉ host) (hclose : ']' ∉ host) (hport : ∀ p ∈ port, p ≤ 65535) :
    parse? (host ++ portChars port) = some (foldHost host, port) := by
  have hall : ∀ c ∈ host ++ portChars port, isClear c = true := fun c hc =>
    (List.mem_append.1 hc).elim (hclear c) fun h =>
      isClear_of_isPlain (isPlain_of_mem_portChars c h)
  have hopen : '[' ∉ host ++ portChars port :=
    List.not_mem_append hopen (not_mem_portChars (by decide) (by decide))
  have hclose : ']' ∉ host ++ portChars port :=
    List.not_mem_append hclose (not_mem_portChars (by decide) (by decide))
  have hwritten : written (host ++ portChars port) = ⟨host, (cutOr ':' (portChars port)).2⟩ := by
    rw [written, cut?_eq_none_iff.2 hopen]
    simp only [cutOr_portChars hcolon port]
  rw [parse?_of_clear hall (by simp [bracketsOk, hopen, hclose]), hwritten, port?_portChars hport]
  rfl

/-- A host in brackets, with a port or without. -/
theorem parse?_bracketed (hclear : ∀ c ∈ host, isClear c = true) (hclose : ']' ∉ host)
    (hbracket : isBracketHost host = true) (hport : ∀ p ∈ port, p ≤ 65535) :
    parse? ('[' :: (host ++ ']' :: portChars port)) = some (foldHost host, port) := by
  have hinside : cut? '[' ('[' :: (host ++ ']' :: portChars port)) =
      some ([], host ++ ']' :: portChars port) := cut?_eq_some_iff.2 ⟨rfl, by simp⟩
  have hcut : cutOr ']' (host ++ ']' :: portChars port) = (host, portChars port) := by
    rw [cutOr, cut?_eq_some_iff.2 ⟨rfl, hclose⟩]
    rfl
  have hwritten : written ('[' :: (host ++ ']' :: portChars port)) =
      ⟨host, (cutOr ':' (portChars port)).2⟩ := by
    rw [written, hinside]
    simp only [hcut]
  have hall : ∀ c ∈ '[' :: (host ++ ']' :: portChars port), isClear c = true := by
    intro c hc
    simp only [List.mem_cons, List.mem_append] at hc
    rcases hc with rfl | hc | rfl | hc
    · decide
    · exact hclear c hc
    · decide
    · exact isClear_of_isPlain (isPlain_of_mem_portChars c hc)
  have hafter : ((portChars port).isEmpty || (portChars port).head? == some ':') = true := by
    cases port <;> rfl
  have hbrackets : bracketsOk ('[' :: (host ++ ']' :: portChars port)) = true := by
    simp [bracketsOk, hostInfo_of_clear hall, hinside, hcut, hwritten, hbracket]
    simpa using hafter
  rw [parse?_of_clear hall hbrackets, hwritten, port?_portChars hport]
  rfl

end Written

/-! ## Plain hosts -/

theorem foldHost_of_plain {host : List Char} (h : ∀ c ∈ host, isPlain c = true) :
    foldHost host = host := by
  have hzone : '%' ∉ host := fun hmem => (of_isPlain (h _ hmem)).2.2.1 (by decide)
  rw [foldHost, cut?_eq_none_iff.2 hzone]
  exact lower_of_plain h

variable {port : Option Nat}

/-- A name, with a port or without, is read as it is written. -/
theorem parse?_name {name : List Char} (hname : ∀ c ∈ name, isNameChar c = true)
    (hport : ∀ p ∈ port, p ≤ 65535) : parse? (name ++ portChars port) = some (name, port) := by
  have hplain : ∀ c ∈ name, isPlain c = true := fun c hc => by simp [isPlain, hname c hc]
  have hnot {c : Char} (hc : isNameChar c = false) : c ∉ name := fun hmem => by
    simp [hname c hmem] at hc
  have hread := parse?_bare (fun c hc => isClear_of_isPlain (hplain c hc)) (hnot (by decide))
    (hnot (by decide)) (hnot (by decide)) hport
  rwa [foldHost_of_plain hplain] at hread

theorem isPlain_of_isGroupChar {c : Char} (h : Address.isGroupChar c = true)
    (hupper : c.isUpper = false) : isPlain c = true :=
  forall_ascii (p := fun c => Address.isGroupChar c = true → c.isUpper = false →
    isPlain c = true) (by decide) (Address.toNat_lt_of_isGroupChar h) h hupper

/-- Brackets may hold every IPv6 text. -/
theorem isBracketHost_of_v6? {host : List Char} {a : Address} (h : Address.v6? host = some a) :
    isBracketHost host = true := by
  have hhead : (host.head? == some 'v') = false := by
    rw [beq_eq_false_iff_ne]
    exact Address.head?_ne_of_v6? h (by decide) (by decide)
  simp [isBracketHost, hhead, Address.ofChars?_of_v6? h, Address.family_of_v6? h]

/-- An IPv6 text in small letters is made of plain characters and brackets may hold it. -/
theorem of_literal {literal : List Char} {value : BitVec 128}
    (hliteral : Address.v6? literal = some (.v6 value none))
    (hlower : ∀ c ∈ literal, c.isUpper = false) :
    (∀ c ∈ literal, isPlain c = true) ∧ ']' ∉ literal ∧ isBracketHost literal = true := by
  have hchars := Address.isLiteralChar_of_v6? hliteral
  refine ⟨fun c hc => ?_, fun hmem => ?_, isBracketHost_of_v6? hliteral⟩
  · rcases hchars c hc with hgroup | rfl
    · exact isPlain_of_isGroupChar hgroup (hlower c hc)
    · decide
  · rcases hchars _ hmem with h | h
    · cases h
    · cases h

/-- An IPv6 text in small letters, in brackets, is read as it is written. -/
theorem parse?_literal {literal : List Char} {value : BitVec 128}
    (hliteral : Address.v6? literal = some (.v6 value none))
    (hlower : ∀ c ∈ literal, c.isUpper = false) (hport : ∀ p ∈ port, p ≤ 65535) :
    parse? ('[' :: (literal ++ ']' :: portChars port)) = some (literal, port) := by
  obtain ⟨hplain, hclose, hbracket⟩ := of_literal hliteral hlower
  have hread :=
    parse?_bracketed (fun c hc => isClear_of_isPlain (hplain c hc)) hclose hbracket hport
  rwa [foldHost_of_plain hplain] at hread

end PacScript.Authority
