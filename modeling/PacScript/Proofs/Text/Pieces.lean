import PacScript.Text.Basic

/-!
# Cutting texts

`cut?` finds the first occurrence of a separator: what it gives before the separator holds none
(`cut?_eq_some_iff`), and it gives nothing when there is none at all.

`piecesBy` cuts at every separator as `List.splitOnP` does, so cutting undoes joining
(`pieces_intercalate`), and what a text ends in can be told from its pieces (`cons_suffix_iff`).
Words come apart at any white space (`words_append_cons`), and white space around a text changes
none of them.
-/

namespace PacScript.Text

theorem cut?_eq_some_iff {separator : Char} : ∀ {cs before after : List Char},
    cut? separator cs = some (before, after) ↔
      cs = before ++ separator :: after ∧ separator ∉ before
  | [], before, after => by simp [cut?]
  | c :: rest, before, after => by
    simp only [cut?]
    split
    · rename_i hc
      have hc : c = separator := by simpa using hc
      subst hc
      rcases before with _ | ⟨b, before⟩
      · simp
      · simp only [Option.some.injEq, Prod.mk.injEq, List.cons_append, List.cons.injEq,
          List.mem_cons, not_or]
        constructor
        · rintro ⟨h, -⟩
          cases h
        · rintro ⟨⟨h, -⟩, hne, -⟩
          exact absurd h hne
    · rename_i hc
      have hc : c ≠ separator := by simpa using hc
      simp only [Option.map_eq_some_iff, Prod.mk.injEq, Prod.exists]
      constructor
      · rintro ⟨b, a, h, rfl, rfl⟩
        obtain ⟨rfl, hb⟩ := cut?_eq_some_iff.1 h
        simp [hb, hc.symm]
      · rintro ⟨h, hb⟩
        rcases before with _ | ⟨b, before⟩
        · simp only [List.nil_append, List.cons.injEq] at h
          exact absurd h.1 hc
        · simp only [List.cons_append, List.cons.injEq] at h
          obtain ⟨rfl, rfl⟩ := h
          simp only [List.mem_cons, not_or] at hb
          exact ⟨before, after, cut?_eq_some_iff.2 ⟨rfl, hb.2⟩, rfl, rfl⟩

theorem cut?_eq_none_iff {separator : Char} {cs : List Char} :
    cut? separator cs = none ↔ separator ∉ cs := by
  induction cs with
  | nil => simp [cut?]
  | cons c rest ih =>
    simp only [cut?, List.mem_cons, not_or]
    split
    · rename_i hc
      have hc : c = separator := by simpa using hc
      simp [hc]
    · rename_i hc
      have hc : c ≠ separator := by simpa using hc
      simp [ih, hc.symm]

/-! ## Pieces -/

theorem piecesBy_eq_splitOnP (p : Char → Bool) : ∀ cs : List Char, piecesBy p cs = cs.splitOnP p
  | [] => rfl
  | c :: rest => by
    rw [List.splitOnP_cons_eq_if_modifyHead, piecesBy, piecesBy_eq_splitOnP p rest]
    rcases h : rest.splitOnP p with _ | ⟨piece, more⟩
    · exact absurd h (List.splitOnP_ne_nil p rest)
    · rfl

theorem piecesBy_ne_nil (p : Char → Bool) (cs : List Char) : piecesBy p cs ≠ [] := by
  rw [piecesBy_eq_splitOnP]
  exact List.splitOnP_ne_nil p cs

theorem pieces_eq_splitOn (separator : Char) (cs : List Char) :
    pieces separator cs = cs.splitOn separator :=
  piecesBy_eq_splitOnP _ cs

theorem pieces_intercalate {separator : Char} {xs : List (List Char)}
    (h : ∀ x ∈ xs, separator ∉ x) (hne : xs ≠ []) :
    pieces separator (List.intercalate [separator] xs) = xs := by
  rw [pieces_eq_splitOn, List.splitOn_intercalate separator h hne]

theorem piecesBy_of_none {p : Char → Bool} {cs : List Char} (h : ∀ c ∈ cs, p c = false) :
    piecesBy p cs = [cs] := by
  rw [piecesBy_eq_splitOnP, List.splitOnP_eq_singleton h]

theorem pieces_of_not_mem {separator : Char} {cs : List Char} (h : separator ∉ cs) :
    pieces separator cs = [cs] := by
  rw [pieces_eq_splitOn, List.splitOn_eq_singleton h]

theorem piecesBy_append_cons (p : Char → Bool) {c : Char} (hc : p c = true)
    (before after : List Char) :
    piecesBy p (before ++ c :: after) = piecesBy p before ++ piecesBy p after := by
  rw [piecesBy_eq_splitOnP, piecesBy_eq_splitOnP, piecesBy_eq_splitOnP,
    List.splitOnP_append_cons before after hc]

theorem pieces_append_cons_self (separator : Char) (before after : List Char) :
    pieces separator (before ++ separator :: after) =
      pieces separator before ++ pieces separator after :=
  piecesBy_append_cons (· == separator) (beq_self_eq_true separator) before after

/-- The first piece ends at the first separator. -/
theorem pieces_append_separator {separator : Char} {piece : List Char} (h : separator ∉ piece)
    (rest : List Char) :
    pieces separator (piece ++ separator :: rest) = piece :: pieces separator rest := by
  rw [pieces_eq_splitOn, List.splitOn_append_cons_self_of_not_mem h, ← pieces_eq_splitOn]

theorem pieces_append_cons {separator : Char} {before after : List Char}
    (hbefore : separator ∉ before) (hafter : separator ∉ after) :
    pieces separator (before ++ separator :: after) = [before, after] := by
  rw [pieces_append_separator hbefore, pieces_of_not_mem hafter]

theorem intercalate_pieces (separator : Char) (cs : List Char) :
    List.intercalate [separator] (pieces separator cs) = cs := by
  rw [pieces_eq_splitOn, List.intercalate_splitOn]

/-- A text is determined by its pieces. -/
theorem pieces_inj {separator : Char} {cs ds : List Char} :
    pieces separator cs = pieces separator ds ↔ cs = ds := by
  constructor
  · intro h
    rw [← intercalate_pieces separator cs, h, intercalate_pieces]
  · rintro rfl
    rfl

/-- There is one piece more than there are separators. -/
theorem length_pieces (separator : Char) : ∀ cs : List Char,
    (pieces separator cs).length = cs.count separator + 1
  | [] => rfl
  | c :: rest => by
    have ih := length_pieces separator rest
    rcases hrest : pieces separator rest with _ | ⟨piece, more⟩
    · exact absurd hrest (piecesBy_ne_nil _ rest)
    · rw [hrest] at ih
      rw [pieces] at hrest
      rw [pieces, piecesBy, List.count_cons, hrest]
      split
      · rw [List.length_cons, ih]
      · rw [List.length_cons] at ih ⊢
        exact ih

theorem pieces_eq_singleton_iff {separator : Char} {cs piece : List Char} :
    pieces separator cs = [piece] ↔ separator ∉ cs ∧ piece = cs := by
  constructor
  · intro h
    have hcount := length_pieces separator cs
    rw [h, List.length_singleton] at hcount
    have hnone : separator ∉ cs := List.count_eq_zero.1 (by omega)
    rw [pieces_of_not_mem hnone] at h
    exact ⟨hnone, (List.singleton_inj.1 h).symm⟩
  · rintro ⟨hnone, rfl⟩
    exact pieces_of_not_mem hnone

/-- Of the texts that are not empty, only those that start with a separator have an empty first
piece. -/
theorem pieces_eq_nil_cons_iff {separator : Char} {cs : List Char} {rest : List (List Char)}
    (hne : cs ≠ []) : pieces separator cs = [] :: rest ↔
      ∃ tail, cs = separator :: tail ∧ pieces separator tail = rest := by
  constructor
  · intro h
    rcases cs with _ | ⟨c, tail⟩
    · exact absurd rfl hne
    · simp only [pieces, piecesBy] at h
      split at h
      · rename_i hc
        obtain rfl : c = separator := by simpa using hc
        exact ⟨tail, rfl, (List.cons.inj h).2⟩
      · split at h
        · simp at h
        · simp at h
  · rintro ⟨tail, rfl, rfl⟩
    exact pieces_append_cons_self separator [] tail

/-- Pieces are made of the text's characters, but for the separators. -/
theorem of_mem_piecesBy {p : Char → Bool} : ∀ {cs piece : List Char}, piece ∈ piecesBy p cs →
    ∀ c ∈ piece, c ∈ cs ∧ p c = false
  | [], piece, h, c, hc => by
    obtain rfl : piece = [] := by simpa [piecesBy] using h
    cases hc
  | d :: rest, piece, h, c, hc => by
    simp only [piecesBy] at h
    split at h
    · rcases List.mem_cons.1 h with rfl | h
      · cases hc
      · have ⟨hmem, hp⟩ := of_mem_piecesBy h c hc
        exact ⟨List.mem_cons_of_mem _ hmem, hp⟩
    · rename_i hd
      split at h
      · obtain rfl : piece = [d] := by simpa using h
        obtain rfl : c = d := by simpa using hc
        exact ⟨List.mem_cons_self, by simpa using hd⟩
      · rename_i first more hrest
        have hold : ∀ piece ∈ first :: more, ∀ c ∈ piece, c ∈ d :: rest ∧ p c = false := by
          intro piece hpiece c hc
          have ⟨hmem, hp⟩ := of_mem_piecesBy (hrest ▸ hpiece) c hc
          exact ⟨List.mem_cons_of_mem _ hmem, hp⟩
        rcases List.mem_cons.1 h with rfl | h
        · rcases List.mem_cons.1 hc with rfl | hc
          · exact ⟨List.mem_cons_self, by simpa using hd⟩
          · exact hold first List.mem_cons_self c hc
        · exact hold piece (List.mem_cons_of_mem _ h) c hc

/-- A character is in some piece unless it separates. -/
theorem mem_piecesBy_or {p : Char → Bool} {c : Char} : ∀ {cs : List Char}, c ∈ cs →
    p c = true ∨ ∃ piece ∈ piecesBy p cs, c ∈ piece
  | d :: rest, h => by
    simp only [piecesBy]
    split
    · rename_i hd
      rcases List.mem_cons.1 h with rfl | h
      · exact Or.inl hd
      · exact (mem_piecesBy_or h).imp_right fun ⟨piece, hpiece, hc⟩ =>
          ⟨piece, List.mem_cons_of_mem _ hpiece, hc⟩
    · split
      · rename_i hnil
        exact absurd hnil (piecesBy_ne_nil p rest)
      · rename_i first more hrest
        rcases List.mem_cons.1 h with rfl | h
        · exact Or.inr ⟨_, List.mem_cons_self, List.mem_cons_self⟩
        · refine (mem_piecesBy_or h).imp_right fun ⟨piece, hpiece, hc⟩ => ?_
          rw [hrest] at hpiece
          rcases List.mem_cons.1 hpiece with rfl | hpiece
          · exact ⟨_, List.mem_cons_self, List.mem_cons_of_mem d hc⟩
          · exact ⟨piece, List.mem_cons_of_mem _ hpiece, hc⟩

theorem not_mem_of_mem_pieces {separator : Char} {cs piece : List Char}
    (h : piece ∈ pieces separator cs) : separator ∉ piece := by
  intro hc
  have hsep := (of_mem_piecesBy h separator hc).2
  simp at hsep

/-- A text ends in a separator and a tail just if its pieces end in those of the tail, behind at
least one other. -/
theorem cons_suffix_iff {separator : Char} {cs tail : List Char} : separator :: tail <:+ cs ↔
    ∃ front, front ≠ [] ∧ pieces separator cs = front ++ pieces separator tail := by
  constructor
  · rintro ⟨before, rfl⟩
    exact ⟨_, piecesBy_ne_nil _ before, pieces_append_cons_self separator before tail⟩
  · rintro ⟨front, hne, h⟩
    have hfront : ∀ piece ∈ front, separator ∉ piece := fun piece hpiece =>
      not_mem_of_mem_pieces (by rw [h]; exact List.mem_append_left _ hpiece)
    have hpieces : pieces separator (List.intercalate [separator] front ++ separator :: tail) =
        pieces separator cs := by
      rw [pieces_append_cons_self, pieces_intercalate hfront hne, h]
    exact ⟨List.intercalate [separator] front, pieces_inj.1 hpieces⟩

/-! ## Words -/

theorem words_append_cons (cs : List Char) {b : Char} (hb : isBlank b = true) (rest : List Char) :
    words (cs ++ b :: rest) = words cs ++ words rest := by
  simp only [words, piecesBy_append_cons isBlank hb, List.filter_append]

theorem words_of_no_blank {cs : List Char} (hne : cs ≠ []) (h : ∀ c ∈ cs, isBlank c = false) :
    words cs = [cs] := by
  rw [words, piecesBy_of_none h]
  simp [hne]

theorem words_blank_append : ∀ {before : List Char}, (∀ b ∈ before, isBlank b = true) →
    ∀ cs : List Char, words (before ++ cs) = words cs
  | [], _, _ => rfl
  | b :: before, h, cs => by
    rw [List.cons_append, ← List.nil_append (b :: _), words_append_cons [] (h b List.mem_cons_self),
      words_blank_append (fun c hc => h c (List.mem_cons_of_mem b hc))]
    rfl

theorem words_append_blank {after : List Char} (h : ∀ b ∈ after, isBlank b = true)
    (cs : List Char) : words (cs ++ after) = words cs := by
  rcases after with _ | ⟨b, after⟩
  · rw [List.append_nil]
  · rw [words_append_cons cs (h b List.mem_cons_self), ← List.append_nil after,
      words_blank_append (fun c hc => h c (List.mem_cons_of_mem b hc))]
    exact List.append_nil _

/-- Only a blank text has no words. -/
theorem words_eq_nil_iff {cs : List Char} : words cs = [] ↔ ∀ c ∈ cs, isBlank c = true := by
  constructor
  · intro h c hc
    refine (mem_piecesBy_or hc).resolve_right ?_
    rintro ⟨piece, hpiece, hmem⟩
    have hword : piece ∈ words cs :=
      List.mem_filter.2 ⟨hpiece, by simp [List.ne_nil_of_mem hmem]⟩
    rw [h] at hword
    cases hword
  · intro h
    have hwords := words_blank_append h []
    rw [List.append_nil] at hwords
    exact hwords

end PacScript.Text
