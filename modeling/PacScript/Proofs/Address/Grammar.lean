import PacScript.Proofs.Address.Literal

/-!
# The grammar of addresses

What the texts of addresses are, said without a reader. An IPv4 address is its dotted quad. An IPv6
address is eight groups of hexadecimal digits, or fewer around `::`; a dotted quad may take the
place of the last two, and a zone may follow (`Literal`).

The texts of the grammar are just those that are read, as the addresses that they denote
(`literal_iff`). The first `::` is the only one, for no group is empty (`Groups.cutDouble?_append`).
-/

namespace PacScript.Address

open PacScript.Text

variable {cs : List Char} {value : Nat} {q : Bool}

/-! ## Dotted quads -/

theorem octet?_eq_some_iff {o : Nat} :
    octet? cs = some o ↔ o < 256 ∧ cs = Nat.toDigits 10 o := by
  constructor
  · intro h
    obtain ⟨hle, hdigits⟩ := of_octet? h
    refine ⟨by omega, ?_⟩
    unfold octet? at h
    split_ifs at h with hform hzero hbound
    obtain rfl := Option.some.inj h
    simp only [Bool.or_eq_true, List.isEmpty_iff, not_or] at hform
    rcases cs with _ | ⟨c, rest⟩
    · exact absurd rfl hform.1.1
    · by_cases hc : c = '0'
      · -- a zero in front stands alone
        have hrest : rest = [] := by simpa [hc] using hzero
        simp [hc, hrest, ofDigits]
      · exact (toDigits_ofDigits (by simp) hdigits (by simpa using hc)).2.symm
  · rintro ⟨ho, rfl⟩
    exact octet?_toDigits o ho

theorem octets_eq {a b c d : Nat} (ha : a < 256) (hb : b < 256) (hc : c < 256) (hd : d < 256) :
    octets (((a * 256 + b) * 256 + c) * 256 + d) = [a, b, c, d] := by
  simp only [octets, List.map_cons, List.map_nil, Nat.shiftRight_eq_div_pow, Nat.reducePow,
    List.cons.injEq, and_true]
  omega

/-- Each number has one dotted quad. -/
theorem quad?_eq_some_iff : quad? cs = some value ↔ value < 2 ^ 32 ∧ cs = quadChars value := by
  constructor
  · intro h
    refine ⟨(of_quad? h).1, ?_⟩
    have hcs := intercalate_pieces '.' cs
    unfold quad? at h
    split at h
    · rename_i a b c d hpieces
      simp only [Option.bind_eq_bind, Option.bind_eq_some_iff, octet?_eq_some_iff,
        Option.some.injEq] at h
      obtain ⟨a, ⟨ha, rfl⟩, b, ⟨hb, rfl⟩, c, ⟨hc, rfl⟩, d, ⟨hd, rfl⟩, rfl⟩ := h
      rw [quadChars, octets_eq ha hb hc hd, ← hcs, hpieces]
      rfl
    · cases h
  · rintro ⟨hvalue, rfl⟩
    exact quad?_quadChars hvalue

/-! ## Groups -/

/-- A group and its number: one to four hexadecimal digits. -/
structure IsGroup (cs : List Char) (g : Nat) : Prop where
  ne_nil : cs ≠ []
  length_le : cs.length ≤ 4
  hex : cs.all isHexDigit = true
  number : ofHexDigits cs = g

/-- Groups with colons between them, and their numbers. A dotted quad may stand for the last two. -/
inductive Groups (mayEndInQuad : Bool) : List Char → List Nat → Prop
  | last {cs : List Char} {g : Nat} (h : IsGroup cs g) : Groups mayEndInQuad cs [g]
  | quad {value : Nat} (hmay : mayEndInQuad = true) (h : value < 2 ^ 32) :
      Groups mayEndInQuad (quadChars value) [value / 65536, value % 65536]
  | cons {cs rest : List Char} {g : Nat} {gs : List Nat} (h : IsGroup cs g)
      (hrest : Groups mayEndInQuad rest gs) : Groups mayEndInQuad (cs ++ ':' :: rest) (g :: gs)

/-- Groups, or nothing at all. -/
inductive GroupRun (mayEndInQuad : Bool) : List Char → List Nat → Prop
  | none : GroupRun mayEndInQuad [] []
  | groups {cs : List Char} {gs : List Nat} (h : Groups mayEndInQuad cs gs) :
      GroupRun mayEndInQuad cs gs

theorem group?_eq_some_iff {g : Nat} : group? cs = some g ↔ IsGroup cs g := by
  unfold group?
  split_ifs with h
  · simp only [Bool.or_eq_true, List.isEmpty_iff, Bool.not_eq_true', decide_eq_true_eq] at h
    constructor
    · intro hnone
      cases hnone
    · rintro ⟨hne, hlength, hhex, -⟩
      rcases h with (hempty | hother) | hlong
      · exact absurd hempty hne
      · rw [hhex] at hother
        cases hother
      · omega
  · simp only [Bool.or_eq_true, List.isEmpty_iff, Bool.not_eq_true', decide_eq_true_eq, not_or,
      Bool.not_eq_false] at h
    exact ⟨fun hg => ⟨h.1.1, by omega, h.1.2, Option.some.inj hg⟩, fun hg => congrArg some hg.number⟩

theorem IsGroup.not_mem {g : Nat} (h : IsGroup cs g) {c : Char} (hc : isHexDigit c = false) :
    c ∉ cs := by
  intro hmem
  rw [List.all_eq_true.1 h.hex c hmem] at hc
  cases hc

theorem colon_not_mem_quadChars (h : value < 2 ^ 32) : ':' ∉ quadChars value := by
  intro hmem
  rcases isDigit_or_point_of_quad? (quad?_quadChars h) _ hmem with hc | hc <;> cases hc

theorem Groups.cons_char {gs : List Nat} (h : Groups q cs gs) :
    ∃ c rest, cs = c :: rest ∧ c ≠ ':' := by
  have hfirst {piece : List Char} (hne : piece ≠ []) (hcolon : ':' ∉ piece) (rest : List Char) :
      ∃ c rest', piece ++ rest = c :: rest' ∧ c ≠ ':' := by
    obtain ⟨c, piece, rfl⟩ := List.exists_cons_of_ne_nil hne
    exact ⟨c, _, rfl, fun hc => hcolon (by simp [hc])⟩
  cases h with
  | last h => simpa using hfirst h.ne_nil (h.not_mem (by decide)) []
  | quad hmay h =>
    have hne : quadChars _ ≠ [] := List.ne_nil_of_mem (point_mem_of_quad? (quad?_quadChars h))
    simpa using hfirst hne (colon_not_mem_quadChars h) []
  | cons h hrest => exact hfirst h.ne_nil (h.not_mem (by decide)) _

/-! ## Reading groups -/

theorem groups_of_groupsOf? : ∀ {parts : List (List Char)} {gs : List Nat}, parts ≠ [] →
    groupsOf? q parts = some gs → Groups q (List.intercalate [':'] parts) gs
  | [], _, hne, _ => absurd rfl hne
  | [last], gs, _, h => by
    rw [List.intercalate_singleton]
    simp only [groupsOf?] at h
    split at h
    · rename_i hquad
      obtain ⟨value, hvalue, rfl⟩ := Option.map_eq_some_iff.1 h
      obtain ⟨hlt, rfl⟩ := quad?_eq_some_iff.1 hvalue
      exact .quad (Bool.and_eq_true_iff.1 hquad).1 hlt
    · obtain ⟨g, hg, rfl⟩ := Option.map_eq_some_iff.1 h
      exact .last (group?_eq_some_iff.1 hg)
  | first :: second :: rest, gs, _, h => by
    simp only [groupsOf?, Option.bind_eq_bind, Option.bind_eq_some_iff, Option.some.injEq] at h
    obtain ⟨g, hg, more, hmore, rfl⟩ := h
    have ih := groups_of_groupsOf? (List.cons_ne_nil second rest) hmore
    rw [List.intercalate_cons_cons]
    simpa using Groups.cons (group?_eq_some_iff.1 hg) ih

theorem Groups.groupsOf?_eq {gs : List Nat} (h : Groups q cs gs) :
    groupsOf? q (pieces ':' cs) = some gs := by
  induction h with
  | @last group g h =>
    have hpoint : '.' ∉ group := h.not_mem (by decide)
    rw [pieces_of_not_mem (h.not_mem (by decide))]
    simp [groupsOf?, hpoint, group?_eq_some_iff.2 h]
  | @quad value hmay h =>
    have hpoint : '.' ∈ quadChars value := point_mem_of_quad? (quad?_quadChars h)
    rw [pieces_of_not_mem (colon_not_mem_quadChars h)]
    simp [groupsOf?, hmay, hpoint, quad?_quadChars h]
  | cons h hrest ih =>
    rw [pieces_append_separator (h.not_mem (by decide))]
    rcases hpieces : pieces ':' _ with _ | ⟨first, more⟩
    · exact absurd hpieces (piecesBy_ne_nil _ _)
    · rw [hpieces] at ih
      simp [groupsOf?, group?_eq_some_iff.2 h, ih]

theorem groupRun_iff {gs : List Nat} : GroupRun q cs gs ↔ groupRun? q cs = some gs := by
  unfold groupRun?
  constructor
  · intro h
    cases h with
    | none => rfl
    | groups h =>
      obtain ⟨c, rest, rfl, -⟩ := h.cons_char
      exact h.groupsOf?_eq
  · intro h
    split_ifs at h with hempty
    · obtain rfl := List.isEmpty_iff.1 hempty
      cases h
      exact .none
    · have hgroups := groups_of_groupsOf? (piecesBy_ne_nil _ _) h
      rw [← pieces, intercalate_pieces] at hgroups
      exact .groups hgroups

/-! ## The double colon -/

theorem cutDouble?_append_of_not_mem : ∀ {cs : List Char}, ':' ∉ cs → ∀ rest : List Char,
    cutDouble? (cs ++ rest) = (cutDouble? rest).map (Prod.map (cs ++ ·) id)
  | [], _, rest => by
    show cutDouble? rest = _
    rcases cutDouble? rest with _ | ⟨before, after⟩ <;> rfl
  | c :: cs, h, rest => by
    have ih := cutDouble?_append_of_not_mem (fun hc => h (List.mem_cons_of_mem c hc)) rest
    have hc : (c == ':') = false := by
      simpa using fun hc : c = ':' => h (by simp [hc])
    rcases hcs : cs ++ rest with _ | ⟨d, more⟩
    · rw [hcs] at ih
      rw [List.cons_append, hcs]
      obtain ⟨-, rfl⟩ := List.append_eq_nil_iff.1 hcs
      rfl
    · rw [hcs] at ih
      rw [List.cons_append, hcs, cutDouble?, hc, Bool.false_and, if_neg Bool.false_ne_true, ih,
        Option.map_map]
      rfl

/-- There is no double colon in groups, nor at their ends. -/
theorem Groups.cutDouble?_append {gs : List Nat} (h : Groups q cs gs) (rest : List Char) :
    cutDouble? (cs ++ rest) = (cutDouble? rest).map (Prod.map (cs ++ ·) id) := by
  induction h with
  | last h => exact cutDouble?_append_of_not_mem (h.not_mem (by decide)) rest
  | quad hmay h => exact cutDouble?_append_of_not_mem (colon_not_mem_quadChars h) rest
  | @cons first more g gs h hmore ih =>
    obtain ⟨c, more', hc, hcolon⟩ := hmore.cons_char
    have hstep : cutDouble? (':' :: (more ++ rest)) =
        (cutDouble? (more ++ rest)).map (Prod.map (':' :: ·) id) := by
      have hne : (c == ':') = false := by simpa using hcolon
      rw [hc, List.cons_append, cutDouble?, hne, Bool.and_false, if_neg Bool.false_ne_true]
      rfl
    rw [List.append_assoc, List.cons_append,
      cutDouble?_append_of_not_mem (h.not_mem (by decide)), hstep, ih]
    rcases cutDouble? rest with _ | ⟨before, after⟩
    · rfl
    · simp

/-! ## Addresses -/

/-- The text of an IPv6 number: eight groups, or fewer, with `::` for the zeros that are
left out. -/
inductive V6Number : List Char → Nat → Prop
  | full {cs : List Char} {gs : List Nat} (h : Groups true cs gs) (hlength : gs.length = 8) :
      V6Number cs (ofGroups gs)
  | short {before after : List Char} {high low : List Nat} (hhigh : GroupRun false before high)
      (hlow : GroupRun true after low) (hlength : high.length + low.length < 8) :
      V6Number (before ++ ':' :: ':' :: after)
        (ofGroups (high ++ List.replicate (8 - (high.length + low.length)) 0 ++ low))

/-- The text of an address, with nothing around it. -/
inductive Literal : List Char → Address → Prop
  | v4 (value : BitVec 32) : Literal (quadChars value.toNat) (.v4 value)
  | v6 {cs : List Char} {value : Nat} (h : V6Number cs value) :
      Literal cs (.v6 (BitVec.ofNat 128 value) none)
  | zoned {cs zone : List Char} {value : Nat} (h : V6Number cs value) (hne : zone ≠ [])
      (hzone : '%' ∉ zone ∧ '/' ∉ zone) :
      Literal (cs ++ '%' :: zone) (.v6 (BitVec.ofNat 128 value) (some (String.ofList zone)))

theorem v6Number_iff : V6Number cs value ↔ v6Value? cs = some value := by
  constructor
  · rintro (⟨h, hlength⟩ | ⟨hhigh, hlow, hlength⟩)
    · have hcut := h.cutDouble?_append []
      rw [List.append_nil] at hcut
      rw [v6Value?, hcut]
      simp [cutDouble?, groupRun_iff.1 (.groups h), hlength]
    · rename_i before after high low
      have hcut : cutDouble? (before ++ ':' :: ':' :: after) = some (before, after) := by
        cases hhigh with
        | none => rfl
        | groups h =>
          rw [h.cutDouble?_append]
          simp [cutDouble?]
      rw [v6Value?, hcut]
      simp [groupRun_iff.1 hhigh, groupRun_iff.1 hlow, hlength]
  · intro h
    unfold v6Value? at h
    split at h
    · simp only [Option.bind_eq_bind, Option.bind_eq_some_iff] at h
      obtain ⟨gs, hgs, h⟩ := h
      split_ifs at h with hlength
      cases h
      cases groupRun_iff.2 hgs with
      | none => cases hlength
      | groups h => exact .full h hlength
    · rename_i before after hcut
      simp only [Option.bind_eq_bind, Option.bind_eq_some_iff] at h
      obtain ⟨high, hhigh, low, hlow, h⟩ := h
      split_ifs at h with hlength
      cases h
      rw [eq_of_cutDouble? hcut]
      exact .short (groupRun_iff.2 hhigh) (groupRun_iff.2 hlow) hlength

theorem V6Number.not_mem (h : V6Number cs value) {c : Char} (hgroup : isGroupChar c = false)
    (hcolon : c ≠ ':') : c ∉ cs := by
  intro hmem
  rcases (of_v6Value? (v6Number_iff.1 h)).1 c hmem with hc | hc
  · rw [hgroup] at hc
    cases hc
  · exact hcolon hc

/-- The texts of addresses are those that are read. -/
theorem literal_iff {a : Address} : Literal cs a ↔ ofChars? cs = some a := by
  constructor
  · intro h
    cases h with
    | v4 value =>
      rw [ofChars?, v4?, quad?_quadChars value.isLt]
      simp
    | v6 h =>
      refine ofChars?_of_v6? ?_
      have hslash := h.not_mem (c := '/') (by decide) (by decide)
      have hcut := cut?_eq_none_iff.2 (h.not_mem (c := '%') (by decide) (by decide))
      simp [v6?, hslash, hcut, v6Number_iff.1 h]
    | @zoned number zone value h hne hzone =>
      refine ofChars?_of_v6? ?_
      have hslash : '/' ∉ number ++ '%' :: zone := by
        simp [h.not_mem (c := '/') (by decide) (by decide), hzone.2]
      have hcut : cut? '%' (number ++ '%' :: zone) = some (number, zone) :=
        cut?_eq_some_iff.2 ⟨rfl, h.not_mem (by decide) (by decide)⟩
      simp [v6?, hslash, hcut, hne, hzone.1, v6Number_iff.1 h]
  · intro h
    rcases hquad : quad? cs with _ | value
    · have hv6 : v6? cs = some a := by
        rwa [ofChars?, v4?, hquad] at h
      obtain ⟨hslash, value, ⟨-, hvalue, rfl⟩ | ⟨number, zone, hcut, hne, hpercent, hvalue, rfl⟩⟩ :=
        v6?_cases hv6
      · exact .v6 (v6Number_iff.2 hvalue)
      · obtain ⟨rfl, -⟩ := cut?_eq_some_iff.1 hcut
        have hzone : '/' ∉ zone := fun hc => hslash (by simp [hc])
        exact .zoned (v6Number_iff.2 hvalue) hne ⟨hpercent, hzone⟩
    · obtain ⟨hlt, rfl⟩ := quad?_eq_some_iff.1 hquad
      rw [ofChars?, v4?, hquad] at h
      obtain rfl := Option.some.inj h
      have hv4 := Literal.v4 (BitVec.ofNat 32 value)
      rwa [BitVec.toNat_ofNat, Nat.mod_eq_of_lt hlt] at hv4

end PacScript.Address
