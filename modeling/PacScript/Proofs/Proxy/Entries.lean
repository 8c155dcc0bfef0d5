import Mathlib.Data.List.Forall2
import Mathlib.Data.List.ReduceOption
import PacScript.Proofs.Fallible
import PacScript.Proofs.Text.Pieces
import PacScript.Proofs.Text.Trim
import PacScript.Proxy.Line

/-!
# Lines entry by entry

A piece of a line gives what it holds (`Gives`), or it cannot be read because of its first or its
second word (`Faulty`). The pieces are read one by one. Where all can be read, the line gives what
they hold, in order, but for what is not accepted (`entries_ok_iff`); else it fails as the first
piece does that cannot be read (`entries_error_iff`).

So no piece has a say in what another one gives: two lines that are joined by a semicolon are read
as the one and then the other (`parse_joined`).
-/

namespace PacScript

open PacScript.Text

theorem ProxyType.isDirect_of_ne {type : ProxyType} (h : type ≠ .direct) :
    type.isDirect = false := by
  cases type
  case direct => exact absurd rfl h
  all_goals rfl

namespace ProxyLine

/-! ## One entry -/

/-- What an entry gives that can be read: nothing, a direct connection, or a proxy. -/
inductive Gives (cs : List Char) : Option ProxyInfo → Prop
  | nothing (hwords : words cs = []) : Gives cs none
  | direct {name : List Char} {rest : List (List Char)} (hwords : words cs = name :: rest)
      (htype : ProxyType.ofName? (String.ofList (upper name)) = some .direct) :
      Gives cs (some .direct)
  | proxy {name address host : List Char} {rest : List (List Char)} {type : ProxyType}
      {port : Option Nat} (hwords : words cs = name :: address :: rest)
      (htype : ProxyType.ofName? (String.ofList (upper name)) = some type)
      (hdirect : type ≠ .direct) (haddress : Authority.parse? address = some (host, port))
      (hhost : host ≠ []) :
      Gives cs (some ⟨type, some (String.ofList host), port.map fun n : Nat => (n : Int)⟩)

/-- Why an entry cannot be read. -/
inductive Faulty (cs : List Char) : ProxyFault → Prop
  | unknownType {name : List Char} {rest : List (List Char)} (hwords : words cs = name :: rest)
      (htype : ProxyType.ofName? (String.ofList (upper name)) = none) :
      Faulty cs (.unknownType (String.ofList name))
  | noAddress {name : List Char} {type : ProxyType} (hwords : words cs = [name])
      (htype : ProxyType.ofName? (String.ofList (upper name)) = some type)
      (hdirect : type ≠ .direct) : Faulty cs .hostRequired
  | badAddress {name address : List Char} {rest : List (List Char)} {type : ProxyType}
      (hwords : words cs = name :: address :: rest)
      (htype : ProxyType.ofName? (String.ofList (upper name)) = some type)
      (hdirect : type ≠ .direct) (haddress : Authority.parse? address = none) :
      Faulty cs (.badAddress (String.ofList address))
  | noHost {name address : List Char} {rest : List (List Char)} {type : ProxyType}
      {port : Option Nat} (hwords : words cs = name :: address :: rest)
      (htype : ProxyType.ofName? (String.ofList (upper name)) = some type)
      (hdirect : type ≠ .direct) (haddress : Authority.parse? address = some ([], port)) :
      Faulty cs .hostRequired

section Entry

variable {cs : List Char}

/-- Every entry can be read or is faulty. -/
theorem gives_or_faulty (cs : List Char) :
    (∃ given, Gives cs given) ∨ ∃ fault, Faulty cs fault := by
  rcases hwords : words cs with _ | ⟨name, rest⟩
  · exact Or.inl ⟨_, .nothing hwords⟩
  · rcases htype : ProxyType.ofName? (String.ofList (upper name)) with _ | type
    · exact Or.inr ⟨_, .unknownType hwords htype⟩
    · by_cases hdirect : type = .direct
      · exact Or.inl ⟨_, .direct hwords (hdirect ▸ htype)⟩
      · rcases rest with _ | ⟨address, rest⟩
        · exact Or.inr ⟨_, .noAddress hwords htype hdirect⟩
        · rcases haddress : Authority.parse? address with _ | ⟨_ | ⟨c, host⟩, port⟩
          · exact Or.inr ⟨_, .badAddress hwords htype hdirect haddress⟩
          · exact Or.inr ⟨_, .noHost hwords htype hdirect haddress⟩
          · exact Or.inl ⟨_, .proxy hwords htype hdirect haddress (List.cons_ne_nil c host)⟩

theorem entry_of_address {name address : List Char} {rest : List (List Char)} {type : ProxyType}
    (hwords : words cs = name :: address :: rest)
    (htype : ProxyType.ofName? (String.ofList (upper name)) = some type)
    (hdirect : type ≠ .direct) :
    entry cs = (endpoint address).map fun e => some ⟨type, some e.1, e.2⟩ := by
  simp only [entry, hwords, htype, ProxyType.isDirect_of_ne hdirect]
  rcases endpoint address with _ | _ <;> rfl

theorem entry_of_gives {given : Option ProxyInfo} (h : Gives cs given) : entry cs = .ok given := by
  cases h with
  | nothing hwords => simp only [entry, hwords]
  | direct hwords htype =>
    simp only [entry, hwords, htype]
    rfl
  | @proxy name address host rest type port hwords htype hdirect haddress hhost =>
    rw [entry_of_address hwords htype hdirect, endpoint, haddress]
    simp only [List.isEmpty_iff, hhost, if_false]
    cases port <;> rfl

theorem entry_of_faulty {fault : ProxyFault} (h : Faulty cs fault) : entry cs = .error fault := by
  cases h with
  | unknownType hwords htype => simp only [entry, hwords, htype]
  | noAddress hwords htype hdirect =>
    simp only [entry, hwords, htype, ProxyType.isDirect_of_ne hdirect]
    rfl
  | badAddress hwords htype hdirect haddress =>
    rw [entry_of_address hwords htype hdirect, endpoint, haddress]
    rfl
  | noHost hwords htype hdirect haddress =>
    rw [entry_of_address hwords htype hdirect, endpoint, haddress]
    rfl

theorem entry_ok_iff {given : Option ProxyInfo} : entry cs = .ok given ↔ Gives cs given := by
  refine ⟨fun h => ?_, entry_of_gives⟩
  rcases gives_or_faulty cs with ⟨given', hgives⟩ | ⟨fault, hfaulty⟩
  · cases h.symm.trans (entry_of_gives hgives)
    exact hgives
  · cases h.symm.trans (entry_of_faulty hfaulty)

theorem entry_error_iff {fault : ProxyFault} : entry cs = .error fault ↔ Faulty cs fault := by
  refine ⟨fun h => ?_, entry_of_faulty⟩
  rcases gives_or_faulty cs with ⟨given, hgives⟩ | ⟨fault', hfaulty⟩
  · cases h.symm.trans (entry_of_gives hgives)
  · cases h.symm.trans (entry_of_faulty hfaulty)
    exact hfaulty

end Entry

/-! ## All entries -/

/-- Of the pieces the first that cannot be read fails so. -/
def FirstFault (cut : List (List Char)) (fault : ProxyFault) : Prop :=
  ∃ before cs after, cut = before ++ cs :: after ∧
    (∀ piece ∈ before, ∃ given, Gives piece given) ∧ Faulty cs fault

theorem firstFault_cons_iff {cs : List Char} {rest : List (List Char)} {fault : ProxyFault} :
    FirstFault (cs :: rest) fault ↔
      Faulty cs fault ∨ (∃ given, Gives cs given) ∧ FirstFault rest fault := by
  constructor
  · rintro ⟨_ | ⟨piece, before⟩, ds, after, heq, hbefore, hfault⟩
    · obtain ⟨rfl, rfl⟩ := List.cons.inj heq
      exact Or.inl hfault
    · obtain ⟨rfl, rfl⟩ := List.cons.inj heq
      rw [List.forall_mem_cons] at hbefore
      exact Or.inr ⟨hbefore.1, before, ds, after, rfl, hbefore.2, hfault⟩
  · rintro (hfault | ⟨hgiven, before, ds, after, rfl, hbefore, hfault⟩)
    · exact ⟨[], cs, rest, rfl, by simp, hfault⟩
    · exact ⟨cs :: before, ds, after, rfl, List.forall_mem_cons.2 ⟨hgiven, hbefore⟩, hfault⟩

section Entries

variable {accept : ProxyInfo → Bool} {cut more : List (List Char)}

/-- What a first piece holds is given if it is accepted, and then what the others hold. -/
theorem entries_cons (cs : List Char) : entries accept (cs :: cut) = (do
    let first ← entry cs
    let infos ← entries accept cut
    return (first.filter fun i => i.type.isDirect || accept i).toList ++ infos) := by
  rw [entries]
  refine congrArg (entry cs >>= ·) (funext fun first => ?_)
  refine congrArg (entries accept cut >>= ·) (funext fun infos => ?_)
  rcases first with _ | i
  · rfl
  · rcases hi : (i.type.isDirect || accept i) with _ | _ <;> simp only [Option.filter, hi] <;> rfl

theorem entries_cons_ok_iff {cs : List Char} {infos : List ProxyInfo} :
    entries accept (cs :: cut) = .ok infos ↔ ∃ first more, entry cs = .ok first ∧
      entries accept cut = .ok more ∧
        infos = (first.filter fun i => i.type.isDirect || accept i).toList ++ more := by
  simp only [entries_cons, bind_ok_iff, pure_ok_iff, exists_and_left]

theorem entries_error_iff {fault : ProxyFault} :
    entries accept cut = .error fault ↔ FirstFault cut fault := by
  induction cut with
  | nil =>
    constructor
    · intro h
      cases h
    · rintro ⟨before, cs, after, heq, -⟩
      simp at heq
  | cons cs rest ih =>
    rw [firstFault_cons_iff, ← ih, ← entry_error_iff, entries_cons, bind_error_iff]
    simp only [← entry_ok_iff, bind_error_iff]
    refine or_congr_right ⟨?_, ?_⟩
    · rintro ⟨given, hgiven, h | ⟨infos, -, h⟩⟩
      · exact ⟨⟨given, hgiven⟩, h⟩
      · cases h
    · rintro ⟨⟨given, hgiven⟩, h⟩
      exact ⟨given, hgiven, Or.inl h⟩

/-- What is left of the pieces' entries comes from the first piece, and then from the others. -/
theorem filter_reduceOption_cons (p : ProxyInfo → Bool) (first : Option ProxyInfo)
    (given : List (Option ProxyInfo)) : (first :: given).reduceOption.filter p =
      (first.filter p).toList ++ given.reduceOption.filter p := by
  rcases first with _ | i
  · rw [List.reduceOption_cons_of_none]
    rfl
  · rw [List.reduceOption_cons_of_some, List.filter_cons, Option.filter]
    rcases p i with _ | _ <;> rfl

/-- Pieces that can all be read give what they hold, in order, but for what is not accepted. -/
theorem entries_ok_iff {infos : List ProxyInfo} :
    entries accept cut = .ok infos ↔
      ∃ given, List.Forall₂ Gives cut given ∧
        infos = given.reduceOption.filter fun i => i.type.isDirect || accept i := by
  induction cut generalizing infos with
  | nil => simp [entries, List.reduceOption, eq_comm]
  | cons cs rest ih =>
    rw [entries_cons_ok_iff]
    constructor
    · rintro ⟨first, infos, hfirst, hrest, rfl⟩
      obtain ⟨given, hgiven, rfl⟩ := ih.1 hrest
      exact ⟨first :: given, .cons (entry_ok_iff.1 hfirst) hgiven,
        (filter_reduceOption_cons _ _ _).symm⟩
    · rintro ⟨_, hgiven, rfl⟩
      obtain ⟨first, given, hfirst, hrest, rfl⟩ := List.forall₂_cons_left_iff.1 hgiven
      exact ⟨first, _, entry_ok_iff.2 hfirst, ih.2 ⟨given, hrest, rfl⟩,
        filter_reduceOption_cons _ _ _⟩

theorem entries_append : entries accept (cut ++ more) = (do
    let infos ← entries accept cut
    let others ← entries accept more
    return infos ++ others) := by
  induction cut with
  | nil => exact (bind_pure (entries accept more)).symm
  | cons cs rest ih =>
    simp only [List.cons_append, entries_cons, ih, bind_assoc, pure_bind, List.append_assoc]

end Entries

/-! ## Lines -/

/-- A line of nothing but white space. -/
def Blank (line : String) : Prop := ∀ c ∈ line.toList, isBlank c = true

section Lines

variable {line first second : String} {accept : ProxyInfo → Bool}

theorem isEmpty_trim_iff : (trim line.toList).isEmpty = true ↔ Blank line := by
  rw [List.isEmpty_iff]
  exact trimBy_eq_nil_iff

theorem parse_of_blank (h : Blank line) : parse (some line) accept = .ok [.direct] := by
  simp only [parse, if_pos (isEmpty_trim_iff.2 h)]

theorem parse_of_not_blank (h : ¬Blank line) : parse (some line) accept =
    (entries accept (pieces ';' line.toList)).mapError fun fault => ⟨line, fault⟩ := by
  simp only [parse, if_neg (isEmpty_trim_iff.not.2 h)]

theorem parse_ok_iff (h : ¬Blank line) {infos : List ProxyInfo} :
    parse (some line) accept = .ok infos ↔
      entries accept (pieces ';' line.toList) = .ok infos := by
  rw [parse_of_not_blank h, mapError_ok_iff]

/-- A line fails as its first entry does that cannot be read. -/
theorem parse_error_iff {fault : ProxyLineFault} : parse (some line) accept = .error fault ↔
    ¬Blank line ∧ fault.line = line ∧ FirstFault (pieces ';' line.toList) fault.fault := by
  by_cases h : Blank line
  · simp [parse_of_blank h, h]
  · rw [parse_of_not_blank h, mapError_error_iff]
    constructor
    · rintro ⟨cause, hcause, rfl⟩
      exact ⟨h, rfl, entries_error_iff.1 hcause⟩
    · rintro ⟨-, rfl, hcause⟩
      exact ⟨fault.fault, entries_error_iff.2 hcause, rfl⟩

theorem pieces_joined : pieces ';' (first ++ ";" ++ second).toList =
    pieces ';' first.toList ++ pieces ';' second.toList := by
  rw [String.toList_append, String.toList_append, List.append_assoc]
  exact pieces_append_cons_self ';' _ _

theorem not_blank_joined : ¬Blank (first ++ ";" ++ second) := by
  intro h
  have hsemicolon := h ';' (by simp [String.toList_append])
  cases hsemicolon

/-- Two lines joined by a semicolon give what the one gives and then what the other gives, and fail
as the first of all their entries does that cannot be read. -/
theorem parse_joined (hfirst : ¬Blank first) (hsecond : ¬Blank second)
    (accept : ProxyInfo → Bool) :
    ((∃ infos, parse (some (first ++ ";" ++ second)) accept = .ok infos) ↔
      (∃ infos, parse (some first) accept = .ok infos) ∧
        ∃ infos, parse (some second) accept = .ok infos) ∧
    (∀ infos others, parse (some first) accept = .ok infos →
      parse (some second) accept = .ok others →
        parse (some (first ++ ";" ++ second)) accept = .ok (infos ++ others)) ∧
    ∀ fault, parse (some (first ++ ";" ++ second)) accept = .error fault ↔
      fault.line = first ++ ";" ++ second ∧
        FirstFault (pieces ';' first.toList ++ pieces ';' second.toList) fault.fault := by
  have hboth (infos : List ProxyInfo) :
      parse (some (first ++ ";" ++ second)) accept = .ok infos ↔
        ∃ front, parse (some first) accept = .ok front ∧
          ∃ back, parse (some second) accept = .ok back ∧ infos = front ++ back := by
    rw [parse_ok_iff not_blank_joined, pieces_joined, entries_append]
    simp only [bind_ok_iff, pure_ok_iff, parse_ok_iff hfirst, parse_ok_iff hsecond]
  refine ⟨?_, ?_, ?_⟩
  · constructor
    · rintro ⟨infos, h⟩
      obtain ⟨front, hfront, back, hback, -⟩ := (hboth infos).1 h
      exact ⟨⟨front, hfront⟩, back, hback⟩
    · rintro ⟨⟨front, hfront⟩, back, hback⟩
      exact ⟨front ++ back, (hboth _).2 ⟨front, hfront, back, hback, rfl⟩⟩
  · intro infos others hinfos hothers
    exact (hboth _).2 ⟨infos, hinfos, others, hothers, rfl⟩
  · intro fault
    rw [parse_error_iff, pieces_joined]
    exact and_iff_right not_blank_joined

theorem parse_joined_empty_entries :
    ¬Blank "; http A:080 ;" ∧ ¬Blank "direct;socks [::1]" ∧
      parse (some ("; http A:080 ;" ++ ";" ++ "direct;socks [::1]")) (fun _ => true) =
        .ok [⟨.http, some "a", some 80⟩, .direct, ⟨.socks, some "::1", none⟩] := by
  have hfirst : ¬Blank "; http A:080 ;" := fun h => absurd (h ';' (by decide)) (by decide)
  have hsecond : ¬Blank "direct;socks [::1]" := fun h => absurd (h 'd' (by decide)) (by decide)
  have hinfos : parse (some "; http A:080 ;") (fun _ => true) =
      .ok [⟨.http, some "a", some 80⟩] := by
    decide +kernel
  have hothers : parse (some "direct;socks [::1]") (fun _ => true) =
      .ok [.direct, ⟨.socks, some "::1", none⟩] := by
    decide +kernel
  exact ⟨hfirst, hsecond, (parse_joined hfirst hsecond _).2.1 _ _ hinfos hothers⟩

end Lines

end ProxyLine

end PacScript
