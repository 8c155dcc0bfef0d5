import PacScript.Text.Case

/-!
# Lower case

No run of the table of lower-case forms leads to a character that has another lower-case form, so a
text in lower case is its own lower-case form (`lower_lower`).

A character that is at neither end of a run is in the lower-case form of a text just when it is in
the text (`mem_lower_iff`). White space and the characters that part texts are of this kind.
-/

namespace PacScript.Text

/-! ## The table -/

/-- Whether a run begins with none of the codes `low`, `low + step` and so on up to `high`. -/
def avoids (low high step : Nat) (run : Nat × Nat × Nat × Nat) : Bool :=
  Nat.blt run.2.1 low || Nat.blt high run.1 ||
    (Nat.beq run.2.2.1 2 && Nat.beq step 2 && Nat.beq ((low + run.1) % 2) 1)

/-- No run begins with what some run leads to. A run of one code leads to one code only. -/
theorem lowerRuns_apart : (lowerRuns.all fun (first, last, step, target) =>
    lowerRuns.all (avoids target (target + (last - first))
      (cond (Nat.beq first last) 2 step))) = true := by
  decide +kernel

/-- Runs lead to characters, and never to the one capital whose form is a sequence. -/
theorem lowerRuns_targets : (lowerRuns.all fun (first, last, _, target) =>
    (Nat.blt (target + (last - first)) 0xd800 ||
      (Nat.ble 0xe000 target && Nat.blt (target + (last - first)) 0x110000)) &&
    (Nat.blt (target + (last - first)) 0x130 || Nat.blt 0x130 target)) = true := by
  decide +kernel

variable {n m : Nat}

theorem exists_run (h : mapByRuns lowerRuns n = some m) :
    ∃ first last step target, (first, last, step, target) ∈ lowerRuns ∧ first ≤ n ∧ n ≤ last ∧
      (n - first) % step = 0 ∧ m = target + (n - first) := by
  obtain ⟨⟨first, last, step, target⟩, hr, hn⟩ := List.exists_of_findSome?_eq_some h
  simp only at hn
  split at hn
  · rename_i hrange
    exact ⟨first, last, step, target, hr, hrange.1, hrange.2.1, hrange.2.2,
      (Option.some.inj hn).symm⟩
  · cases hn

theorem mapByRuns_of_target (h : mapByRuns lowerRuns n = some m) :
    mapByRuns lowerRuns m = none := by
  obtain ⟨first, last, step, target, hr, hfirst, hlast, hstep, rfl⟩ := exists_run h
  rw [mapByRuns, List.findSome?_eq_none_iff]
  rintro ⟨first', last', step', target'⟩ hr'
  have hapart := List.all_eq_true.1 (List.all_eq_true.1 lowerRuns_apart _ hr) _ hr'
  simp only [avoids, Bool.or_eq_true, Bool.and_eq_true, Nat.blt_eq, Nat.beq_eq] at hapart
  refine if_neg ?_
  rintro ⟨hfirst', hlast', hstep'⟩
  rcases hapart with (hbelow | habove) | ⟨⟨rfl, hstride⟩, hparity⟩
  · omega
  · omega
  · rcases hone : Nat.beq first last with _ | _
    · rw [hone, cond_false] at hstride
      subst hstride
      omega
    · have hone : first = last := Nat.eq_of_beq_eq_true hone
      omega

theorem of_target (h : mapByRuns lowerRuns n = some m) :
    m.isValidChar ∧ m ≠ 0x130 := by
  obtain ⟨first, last, step, target, hr, hfirst, hlast, -, rfl⟩ := exists_run h
  have htarget := List.all_eq_true.1 lowerRuns_targets _ hr
  simp only [Bool.or_eq_true, Bool.and_eq_true, Nat.blt_eq, Nat.ble_eq] at htarget
  obtain ⟨hvalid, hsequence⟩ := htarget
  refine ⟨?_, ?_⟩
  · simp only [Nat.isValidChar]
    omega
  · omega

/-- Within ASCII only the first run counts. -/
theorem mapByRuns_of_ascii (h : n < 128) : mapByRuns lowerRuns n =
    if 0x41 ≤ n ∧ n ≤ 0x5a then some (n + 32) else none := by
  have hbeyond : (lowerRuns.tail.all fun run => Nat.ble 128 run.1) = true := by decide
  have hrest : lowerRuns.tail.findSome? (fun (first, last, step, target) =>
      if first ≤ n ∧ n ≤ last ∧ (n - first) % step = 0 then some (target + (n - first))
      else none) = none := by
    rw [List.findSome?_eq_none_iff]
    intro run hr
    have hfirst := Nat.le_of_ble_eq_true (List.all_eq_true.1 hbeyond run hr)
    exact if_neg (by omega)
  have hcons : lowerRuns = (0x41, 0x5a, 1, 0x61) :: lowerRuns.tail := rfl
  rw [mapByRuns, hcons, List.findSome?_cons]
  by_cases hletter : 0x41 ≤ n ∧ n ≤ 0x5a
  · have hsum : 0x61 + (n - 0x41) = n + 32 := by omega
    simp [hletter, Nat.mod_one, hsum]
  · have hfirst : ¬(0x41 ≤ n ∧ n ≤ 0x5a ∧ (n - 0x41) % 1 = 0) := fun h => hletter ⟨h.1, h.2.1⟩
    simp only [hfirst, hletter, if_false]
    exact hrest

/-! ## Characters in lower case -/

/-- One capital apart, the table says it all, for letters of ASCII too. -/
theorem lowerChar_of_ne {c : Char} (h : c.toNat ≠ 0x130) :
    lowerChar c = [((mapByRuns lowerRuns c.toNat).map Char.ofNat).getD c] := by
  by_cases hascii : c.toNat < 128
  · have hall : ∀ n < 128, [(Char.ofNat n).toLower] =
        [((if 0x41 ≤ n ∧ n ≤ 0x5a then some (n + 32) else none).map Char.ofNat).getD
          (Char.ofNat n)] := by
      decide
    have hc := hall c.toNat hascii
    rw [Char.ofNat_toNat] at hc
    rw [mapByRuns_of_ascii hascii, ← hc]
    exact if_pos hascii
  · simp [lowerChar, hascii, h]

/-- A character that is its own lower-case form in every context. -/
def Settled (c : Char) : Prop := c ≠ 'Σ' ∧ lowerChar c = [c]

theorem settled_of_none {c : Char} (h : c.toNat ≠ 0x130)
    (hnone : mapByRuns lowerRuns c.toNat = none) : Settled c := by
  refine ⟨?_, by rw [lowerChar_of_ne h, hnone]; rfl⟩
  rintro rfl
  have hsigma : (mapByRuns lowerRuns 'Σ'.toNat).isSome = true := by decide +kernel
  rw [hnone] at hsigma
  cases hsigma

theorem toNat_ofNat_target (h : mapByRuns lowerRuns n = some m) : (Char.ofNat m).toNat = m := by
  rw [Char.ofNat, dif_pos (of_target h).1]
  rfl

/-- The one capital whose form is a sequence. -/
theorem lowerChar_of_sequence {c : Char} (h : c.toNat = 0x130) :
    lowerChar c = ['i', Char.ofNat 0x307] := by
  have hlower : lowerChar (Char.ofNat 0x130) = ['i', Char.ofNat 0x307] := by decide
  rwa [← h, Char.ofNat_toNat] at hlower

theorem settled_of_mem_lowerChar {c d : Char} (h : d ∈ lowerChar c) : Settled d := by
  by_cases hsequence : c.toNat = 0x130
  · rw [lowerChar_of_sequence hsequence, List.mem_cons, List.mem_singleton] at h
    rcases h with rfl | rfl
    · exact settled_of_none (by decide) (by decide +kernel)
    · exact settled_of_none (by decide) (by decide +kernel)
  · rw [lowerChar_of_ne hsequence] at h
    obtain rfl := List.mem_singleton.1 h
    rcases hrun : mapByRuns lowerRuns c.toNat with _ | m
    · exact settled_of_none hsequence hrun
    · have hcode := toNat_ofNat_target hrun
      refine settled_of_none ?_ ?_
      · exact hcode.symm ▸ (of_target hrun).2
      · exact hcode.symm ▸ mapByRuns_of_target hrun

/-! ## Texts in lower case -/

theorem settled_of_mem_lowerAfter {d : Char} : ∀ {cs : List Char} {b : Bool},
    d ∈ lowerAfter b cs → Settled d
  | [], _, h => by cases h
  | c :: rest, b, h => by
    rcases List.mem_append.1 h with h | h
    · split at h
      · split at h <;> obtain rfl := List.mem_singleton.1 h
        · exact settled_of_none (by decide) (by decide +kernel)
        · exact settled_of_none (by decide) (by decide +kernel)
      · exact settled_of_mem_lowerChar h
    · exact settled_of_mem_lowerAfter h

theorem lowerAfter_of_settled : ∀ {cs : List Char}, (∀ c ∈ cs, Settled c) →
    ∀ b, lowerAfter b cs = cs
  | [], _, _ => rfl
  | c :: rest, h, b => by
    obtain ⟨hsigma, hchar⟩ := h c List.mem_cons_self
    have ih := lowerAfter_of_settled (fun d hd => h d (List.mem_cons_of_mem c hd))
    simp [lowerAfter, hsigma, hchar, ih]

theorem lower_of_settled {cs : List Char} (h : ∀ c ∈ cs, Settled c) : lower cs = cs :=
  lowerAfter_of_settled h false

theorem lower_lower (cs : List Char) : lower (lower cs) = lower cs :=
  lower_of_settled fun _ h => settled_of_mem_lowerAfter h

/-- Characters of ASCII are folded one by one, whatever follows them. -/
theorem lowerAfter_append : ∀ {front : List Char}, (∀ c ∈ front, c.toNat < 128) →
    ∀ (b : Bool) (rest : List Char), ∃ b',
      lowerAfter b (front ++ rest) = front.map Char.toLower ++ lowerAfter b' rest
  | [], _, b, _ => ⟨b, rfl⟩
  | c :: front, h, b, rest => by
    have hascii := h c List.mem_cons_self
    have hsigma : (c == 'Σ') = false := by
      rw [beq_eq_false_iff_ne]
      rintro rfl
      exact absurd hascii (by decide)
    obtain ⟨b', ih⟩ := lowerAfter_append (fun d hd => h d (List.mem_cons_of_mem c hd))
      (if isCaseIgnorable c then b else isCased c) rest
    refine ⟨b', ?_⟩
    simp [lowerAfter, hsigma, lowerChar, hascii, ih]

theorem lowerAfter_ne_nil {cs : List Char} (h : cs ≠ []) (b : Bool) : lowerAfter b cs ≠ [] := by
  rcases cs with _ | ⟨c, rest⟩
  · exact absurd rfl h
  · have hchar : lowerChar c ≠ [] := by
      simp only [lowerChar]
      split
      · exact List.cons_ne_nil _ _
      · split <;> exact List.cons_ne_nil _ _
    refine List.append_ne_nil_of_left_ne_nil ?_ _
    split
    · exact List.cons_ne_nil _ _
    · exact hchar

theorem lower_of_ascii {cs : List Char} (h : ∀ c ∈ cs, c.toNat < 128) :
    lower cs = cs.map Char.toLower := by
  obtain ⟨b, hb⟩ := lowerAfter_append h false []
  rw [List.append_nil] at hb
  rw [lower, hb]
  exact List.append_nil _

/-! ## Characters without case -/

/-- Whether no code of the ranges is at an end of a run, nor the capital whose form is a sequence,
nor the mark in that sequence, nor a final sigma. -/
def areCaseless (ranges : List (Nat × Nat)) : Bool :=
  ranges.all fun (low, high) =>
    (lowerRuns.all fun (first, last, _, target) =>
      (Nat.blt high first || Nat.blt last low) &&
        (Nat.blt high target || Nat.blt (target + (last - first)) low))
      && [0x130, 0x307, 0x3c2].all fun k => Nat.blt high k || Nat.blt k low

def isCaseless (c : Char) : Bool := areCaseless [(c.toNat, c.toNat)]

theorem isCaseless_of_inRanges {ranges : List (Nat × Nat)} (h : areCaseless ranges = true)
    {c : Char} (hc : inRanges ranges c.toNat = true) : isCaseless c = true := by
  obtain ⟨⟨low, high⟩, hr, hrange⟩ := List.any_eq_true.1 hc
  have hapart := List.all_eq_true.1 h _ hr
  simp only [isCaseless, areCaseless, Bool.and_eq_true, decide_eq_true_eq, List.all_eq_true,
    Bool.or_eq_true, Nat.blt_eq, List.mem_singleton, forall_eq] at hrange hapart ⊢
  refine ⟨fun r hr' => ?_, fun k hk => ?_⟩
  · have := hapart.1 r hr'
    omega
  · have := hapart.2 k hk
    omega

/-- The codes of white space. -/
def blankRanges : List (Nat × Nat) :=
  [(9, 13), (0x1c, 0x20), (0x85, 0x85), (0xa0, 0xa0), (0x1680, 0x1680), (0x2000, 0x200a),
   (0x2028, 0x2029), (0x202f, 0x202f), (0x205f, 0x205f), (0x3000, 0x3000)]

theorem isCaseless_of_isBlank {c : Char} (h : isBlank c = true) : isCaseless c = true := by
  have hranges : areCaseless blankRanges = true := by decide +kernel
  refine isCaseless_of_inRanges hranges ?_
  simp only [isBlank, blankRanges, inRanges, Bool.or_eq_true, Bool.and_eq_true, decide_eq_true_eq,
    beq_iff_eq, List.any_cons, List.any_nil] at h ⊢
  omega

section Caseless

variable {c : Char} (h : isCaseless c = true)

include h

theorem of_isCaseless : (∀ first last step target, (first, last, step, target) ∈ lowerRuns →
    (c.toNat < first ∨ last < c.toNat) ∧ (c.toNat < target ∨ target + (last - first) < c.toNat)) ∧
    ∀ k ∈ [0x130, 0x307, 0x3c2], c.toNat ≠ k := by
  simp only [isCaseless, areCaseless, List.all_eq_true, Bool.and_eq_true, Bool.or_eq_true,
    Nat.blt_eq, List.mem_singleton, forall_eq] at h
  refine ⟨fun first last step target hr => h.1 _ hr, fun k hk => ?_⟩
  have := h.2 k hk
  omega

theorem ne_of_run {d : Char} (hrun : mapByRuns lowerRuns d.toNat = some m) :
    c ≠ d ∧ c ≠ Char.ofNat m := by
  obtain ⟨first, last, step, target, hr, hfirst, hlast, -, hm⟩ := exists_run hrun
  have hapart := (of_isCaseless h).1 first last step target hr
  constructor
  · rintro rfl
    omega
  · rintro rfl
    rw [toNat_ofNat_target hrun] at hapart
    omega

theorem settled_of_isCaseless : Settled c := by
  refine settled_of_none ((of_isCaseless h).2 _ (by simp)) ?_
  rcases hrun : mapByRuns lowerRuns c.toNat with _ | m
  · rfl
  · exact absurd rfl (ne_of_run h hrun).1

theorem mem_lowerChar_iff {d : Char} : c ∈ lowerChar d ↔ c = d := by
  constructor
  · intro hc
    by_cases hsequence : d.toNat = 0x130
    · rw [lowerChar_of_sequence hsequence, List.mem_cons, List.mem_singleton] at hc
      rcases hc with rfl | rfl
      · exact absurd h (by decide +kernel)
      · exact absurd h (by decide +kernel)
    · rw [lowerChar_of_ne hsequence, List.mem_singleton] at hc
      rcases hrun : mapByRuns lowerRuns d.toNat with _ | m
      · rwa [hrun] at hc
      · rw [hrun] at hc
        exact absurd hc (ne_of_run h hrun).2
  · rintro rfl
    rw [(settled_of_isCaseless h).2]
    exact List.mem_singleton_self c

theorem mem_lowerAfter_iff : ∀ {cs : List Char} {b : Bool}, c ∈ lowerAfter b cs ↔ c ∈ cs
  | [], _ => Iff.rfl
  | d :: rest, b => by
    rw [lowerAfter, List.mem_append, mem_lowerAfter_iff, List.mem_cons]
    refine or_congr_left ?_
    split
    · rename_i hsigma
      obtain rfl : d = 'Σ' := by simpa using hsigma
      have hne {e : Char} (he : isCaseless e = false) : c ≠ e := by
        rintro rfl
        rw [h] at he
        cases he
      have hfinal : c ≠ 'ς' := hne (by decide +kernel)
      have hsmall : c ≠ 'σ' := hne (by decide +kernel)
      have hcapital : c ≠ 'Σ' := hne (by decide +kernel)
      split <;> simp [hfinal, hsmall, hcapital]
    · exact mem_lowerChar_iff h

theorem mem_lower_iff {cs : List Char} : c ∈ lower cs ↔ c ∈ cs := mem_lowerAfter_iff h

end Caseless

end PacScript.Text
