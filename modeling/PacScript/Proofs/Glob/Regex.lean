import PacScript.Glob.Regex
import PacScript.Proofs.Glob.Meaning
import PacScript.Proofs.Glob.Pattern

/-!
# The regular expression of a shell expression

Every token is written as a row of signs, and these read back as the token whatever follows them
(`readPieces?_token`). For a set this asks how its items are read: they are the same items for the
shell expression and for the regular expression (`readMembers?_items`), which refuses them just when
they are no set (`bracket_eq_of_readSet?`). So the regular expression of a shell expression is well
formed, reads as the tokens of the expression and accepts what the expression covers
(`reads_regex`).
-/

namespace PacScript.Glob

/-! ## Signs -/

def Sign.chars : Sign → List Char
  | .plain c => [c]
  | .escaped c => ['\\', c]

theorem signs?_chars {ss : List Sign} (h : .plain '\\' ∉ ss) :
    signs? (ss.flatMap Sign.chars) = some ss := by
  induction ss with
  | nil => rfl
  | cons s ss ih =>
    have ih := ih fun hs => h (List.mem_cons_of_mem _ hs)
    rcases s with c | c
    · have hc : c ≠ '\\' := fun hc => h (hc ▸ List.mem_cons_self)
      simp only [List.flatMap_cons, Sign.chars, List.singleton_append]
      rw [signs?.eq_4 _ _ (by simp [hc]) (by simp [hc]), ih]
      rfl
    · simp only [List.flatMap_cons, Sign.chars, List.cons_append, List.nil_append]
      rw [signs?, ih]
      rfl

/-- The sign of a character outside of sets. -/
def literalSign (c : Char) : Sign := if specialChars.contains c then .escaped c else .plain c

/-- The sign of a character in a set. -/
def setSign (c : Char) : Sign := if c == '\\' || c == '[' then .escaped c else .plain c

def Member.signs : Member → List Sign
  | .single c => [setSign c]
  | .range low high => [setSign low, .plain '-', setSign high]

def Token.signs : Token → List Sign
  | .anyRun => [.plain '.', .plain '*']
  | .anyOne => [.plain '.']
  | .literal c => [literalSign c]
  | .set negated members =>
    .plain '[' :: (if negated then [.plain '^'] else []) ++ members.flatMap Member.signs ++
      [.plain ']']

theorem chars_literalSign (c : Char) : (literalSign c).chars = escapeChar c := by
  unfold literalSign escapeChar
  split <;> rfl

theorem chars_setSign (c : Char) : (setSign c).chars = setChar c := by
  unfold setSign setChar
  split <;> rfl

theorem chars_memberSigns (m : Member) : m.signs.flatMap Sign.chars = m.regex := by
  have hdash : (Sign.plain '-').chars = ['-'] := rfl
  cases m <;> simp [Member.signs, Member.regex, chars_setSign, hdash]

theorem chars_tokenSigns (t : Token) : t.signs.flatMap Sign.chars = t.regex := by
  cases t with
  | anyRun => rfl
  | anyOne => rfl
  | literal c => simp [Token.signs, Token.regex, chars_literalSign]
  | set negated members =>
    cases negated <;>
      simp [Token.signs, Token.regex, Sign.chars, List.flatMap_assoc, chars_memberSigns]

theorem char?_literalSign (c : Char) : (literalSign c).char? = some c := by
  have hspecial : specialChars.all (fun d => !d.isAlphanum) = true := by decide
  unfold literalSign
  split
  · rename_i hc
    have hsign := List.all_eq_true.1 hspecial c (by simpa using hc)
    simpa [Sign.char?] using hsign
  · rfl

theorem char?_setSign (c : Char) : (setSign c).char? = some c := by
  unfold setSign
  split
  · rename_i hc
    rcases (by simpa using hc : c = '\\' ∨ c = '[') with rfl | rfl <;> rfl
  · rfl

theorem eq_of_setSign {c d : Char} (h : setSign c = .plain d) : c = d := by
  unfold setSign at h
  split at h
  · cases h
  · exact Sign.plain.inj h

theorem literalSign_eq_plain {c d : Char} (h : literalSign c = .plain d) :
    specialChars.contains d = false := by
  unfold literalSign at h
  split at h
  · cases h
  · rename_i hc
    cases h
    simpa using hc

theorem Member.backslash_notMem_signs (m : Member) : .plain '\\' ∉ m.signs := by
  have hset (c : Char) : .plain '\\' ≠ setSign c := by
    intro h
    obtain rfl := eq_of_setSign h.symm
    cases h
  cases m <;> simp [Member.signs, hset]

theorem Token.backslash_notMem_signs (t : Token) : .plain '\\' ∉ t.signs := by
  cases t with
  | anyRun => decide
  | anyOne => decide
  | literal c =>
    rw [Token.signs, List.mem_singleton]
    intro h
    exact absurd (literalSign_eq_plain h.symm) (by decide)
  | set negated members =>
    cases negated <;> simp [Token.signs, Member.backslash_notMem_signs]

/-- The items of a set are written one after the other, whatever they make together. -/
theorem signs_members (items : List Char) :
    (members items).flatMap Member.signs = items.map setSign := by
  fun_induction members items with
  | case1 low high rest ih => simp [ih, Member.signs, setSign]
  | case2 c rest _ ih => simp [ih, Member.signs]
  | case3 => rfl

/-! ## Sets -/

theorem readMembers?_close (after : List Sign) :
    readMembers? false (.plain ']' :: after) = some ([], after) := by
  unfold readMembers?
  split <;> simp_all

theorem readMembers?_single {first : Bool} {s : Sign} {c : Char} {rest : List Sign}
    (hs : first = false → s ≠ .plain ']') (hc : s.char? = some c)
    (hrest : ∀ t after, rest ≠ .plain '-' :: t :: after) :
    readMembers? first (s :: rest) =
      (readMembers? false rest).map fun (ms, after) => (.single c :: ms, after) := by
  rw [readMembers?.eq_2 _ _ _ hrest, if_neg fun h => hs h.1 h.2, hc, Option.bind_some]

theorem readMembers?_dash {first : Bool} {s t : Sign} {rest : List Sign}
    (hs : first = false → s ≠ .plain ']') :
    readMembers? first (s :: .plain '-' :: t :: rest) = s.char?.bind fun c =>
      if t = .plain ']' then some ([.single c, .single '-'], rest) else
        t.char?.bind fun d =>
          if c ≤ d then
            (readMembers? false rest).map fun (ms, after) => (.range c d :: ms, after)
          else none := by
  rw [readMembers?, if_neg fun h => hs h.1 h.2]

/-- Among items without a `]`, or with one in the first place, no sign ends the set. -/
theorem not_closing {first : Bool} {c : Char} {rest : List Char}
    (hin : ']' ∉ if first then (c :: rest).tail else c :: rest) :
    (first = false → setSign c ≠ .plain ']') ∧ ']' ∉ rest := by
  constructor
  · rintro rfl h
    exact hin (by simp [eq_of_setSign h])
  · exact fun h => hin (by cases first <;> simp [h])

/-- The items of a set are read as its members, unless a range runs backwards. -/
theorem readMembers?_items (first : Bool) (items : List Char) (after : List Sign)
    (hin : ']' ∉ if first then items.tail else items) (hne : first = true → items ≠ []) :
    readMembers? first (items.map setSign ++ .plain ']' :: after) =
      if (members items).all Member.inOrder then some (members items, after) else none := by
  have hdash : setSign '-' = .plain '-' := rfl
  fun_induction members items generalizing first with
  | case1 low high rest ih =>
    obtain ⟨hlow, hmore⟩ := not_closing hin
    have hhigh : setSign high ≠ .plain ']' := fun h => hmore (by simp [eq_of_setSign h])
    have hrest : ']' ∉ rest := fun h => hmore (by simp [h])
    simp only [List.map_cons, List.cons_append, hdash, readMembers?_dash hlow, char?_setSign,
      Option.bind_some, if_neg hhigh, ih false (by simpa using hrest) (by simp)]
    by_cases hle : low ≤ high
    · by_cases hall : (members rest).all Member.inOrder = true <;> simp [hle, hall, Member.inOrder]
    · simp [hle, Member.inOrder]
  | case2 c rest hc ih =>
    obtain ⟨hclose, hrest⟩ := not_closing hin
    have hmore := ih false (by simpa using hrest) (by simp)
    rcases rest with _ | ⟨d, rest⟩
    · rw [List.map_singleton, List.singleton_append,
        readMembers?_single hclose (char?_setSign c) (by simp), readMembers?_close]
      rfl
    · by_cases hd : d = '-'
      · -- no other item follows the `-`, so it ends the set
        subst hd
        obtain rfl : rest = [] := by
          rcases rest with _ | ⟨e, rest⟩
          · rfl
          · exact absurd rfl (hc e rest)
        simp only [List.map_cons, List.map_nil, List.cons_append, List.nil_append, hdash,
          readMembers?_dash hclose, char?_setSign]
        rfl
      · have hnodash (t : Sign) (more : List Sign) :
            (d :: rest).map setSign ++ .plain ']' :: after ≠ .plain '-' :: t :: more :=
          fun h => hd (eq_of_setSign (List.cons.inj h).1)
        rw [List.map_cons, List.cons_append,
          readMembers?_single hclose (char?_setSign c) hnodash, hmore]
        by_cases hall : (members (d :: rest)).all Member.inOrder = true <;>
          simp [hall, Member.inOrder]
  | case3 =>
    cases first with
    | true => exact absurd rfl (hne rfl)
    | false => simp [readMembers?_close]

/-- Items that stand between the brackets of a set. -/
structure Enclosed (negated : Bool) (items : List Char) : Prop where
  ne_nil : items ≠ []
  tail : ']' ∉ items.tail
  head : negated = false → items.head? ≠ some '^'

theorem enclosed_of_opens {c : Char} {inner items : List Char} {negated : Bool}
    (hin : ']' ∉ inner) (ho : Opens (c :: inner) negated items) (hne : items ≠ []) :
    Enclosed negated items := by
  cases ho with
  | bang => exact ⟨hne, fun h => hin (List.mem_of_mem_tail h), nofun⟩
  | caret => exact ⟨hne, fun h => hin (List.mem_of_mem_tail h), nofun⟩
  | plain _ _ hc => exact ⟨hne, hin, by simpa using hc⟩

/-- The signs of a set after its `[`. -/
def setSigns (negated : Bool) (items : List Char) : List Sign :=
  (if negated then [.plain '^'] else []) ++ items.map setSign ++ [.plain ']']

theorem readSet?_plain {ss : List Sign} (h : ss.head? ≠ some (.plain '^')) :
    readSet? ss = (readMembers? true ss).map fun (ms, after) => (.set false ms, after) := by
  unfold readSet?
  split
  · exact absurd rfl h
  · rfl

theorem readSet?_items {negated : Bool} {items : List Char} (h : Enclosed negated items)
    (after : List Sign) :
    readSet? (setSigns negated items ++ after) =
      if (members items).all Member.inOrder then some (.set negated (members items), after)
      else none := by
  have hmembers := readMembers?_items true items after h.tail fun _ => h.ne_nil
  cases negated with
  | true =>
    simp only [setSigns, if_true, List.append_assoc, List.singleton_append]
    rw [List.cons_append, readSet?.eq_1, hmembers]
    simp only [apply_ite (Option.map _), Option.map_some, Option.map_none]
  | false =>
    obtain ⟨c, rest, rfl⟩ := List.exists_cons_of_ne_nil h.ne_nil
    have hhead : setSign c ≠ .plain '^' := fun hc => h.head rfl (by simp [eq_of_setSign hc])
    simp only [setSigns, Bool.false_eq_true, if_false, List.nil_append, List.append_assoc,
      List.singleton_append]
    rw [readSet?_plain (by simpa using hhead), hmembers]
    simp only [apply_ite (Option.map _), Option.map_some, Option.map_none]

/-- The items of a bracket are written as a set that reads back just when they are a set. -/
theorem isSome_readSet?_iff {c : Char} {inner items : List Char} {negated : Bool}
    (hin : ']' ∉ inner) (ho : Opens (c :: inner) negated items) :
    (readSet? (setSigns negated items)).isSome = true ↔ ¬ Faulty (members items) := by
  rcases items with _ | ⟨d, items⟩
  · -- the `]` is then the first sign of the set, which has no end
    have hread : readSet? (setSigns negated []) = none := by cases negated <;> rfl
    simp [hread, Faulty, members]
  · have hmembers : members (d :: items) ≠ [] := by
      unfold members
      split <;> simp_all
    have hread := readSet?_items (enclosed_of_opens hin ho (List.cons_ne_nil d items)) []
    rw [List.append_nil] at hread
    rw [hread, ← faulty_iff]
    by_cases horder : (members (d :: items)).all Member.inOrder = true <;> simp [hmembers, horder]

/-- A bracket is a set just when the regular expression of the set is well formed. -/
theorem bracket_eq_of_readSet? {c : Char} {inner items : List Char} {negated : Bool}
    (hin : ']' ∉ inner) (ho : Opens (c :: inner) negated items) :
    bracket (c :: inner) = if (readSet? (setSigns negated items)).isSome then
      [.set negated (members items)] else ('[' :: c :: inner ++ [']']).map Token.literal := by
  have hi : Items items (members items) := items_iff.2 rfl
  by_cases hs : Faulty (members items)
  · rw [if_neg (by simpa [isSome_readSet?_iff hin ho] using hs), bracket_noSet ho hi hs]
  · rw [if_pos ((isSome_readSet?_iff hin ho).2 hs), bracket_set ho hi hs]

/-! ## Tokens -/

/-- The members of a set are those of items that stand between brackets. -/
def Token.InBrackets : Token → Prop
  | .set negated ms =>
    ∃ items, Enclosed negated items ∧ members items = ms ∧ ms.all Member.inOrder = true
  | _ => True

theorem bracket_inBrackets {c : Char} {inner : List Char} (hin : ']' ∉ inner) {t : Token}
    (ht : t ∈ bracket (c :: inner)) : t.InBrackets := by
  obtain ⟨negated, items, ho⟩ := exists_opens c inner
  rw [bracket_eq_of_readSet? hin ho] at ht
  split at ht
  · rename_i hread
    obtain ⟨hne, horder⟩ : members items ≠ [] ∧ (members items).all Member.inOrder = true := by
      simpa [← faulty_iff] using (isSome_readSet?_iff hin ho).1 hread
    rw [List.mem_singleton] at ht
    subst ht
    refine ⟨items, enclosed_of_opens hin ho ?_, rfl, horder⟩
    rintro rfl
    exact hne rfl
  · obtain ⟨d, -, rfl⟩ := List.mem_map.1 ht
    trivial

theorem inBrackets_of_mem_tokens {e : List Char} {t : Token} (ht : t ∈ tokens e) :
    t.InBrackets := by
  fun_induction tokens e with
  | case1 => cases ht
  | case5 c e _ _ hb body after hcut _ ih =>
    obtain ⟨c, inner, rfl, -, hin⟩ := cutBracket?_eq_some_iff.1 hcut
    rcases List.mem_append.1 ht with ht | ht
    · exact bracket_inBrackets hin ht
    · exact ih ht
  | _ =>
    rename_i ih
    rcases List.mem_cons.1 ht with rfl | ht
    · trivial
    · exact ih ht

theorem readPieces?_step {s : Sign} {rest after : List Sign} {a : Atom}
    (hend : s ≠ .escaped 'Z') (h : readAtom? s rest = some (a, after)) :
    readPieces? (s :: rest) =
      (readPieces? (cutStar after).2).map (⟨a, (cutStar after).1⟩ :: ·) := by
  rw [readPieces?, if_neg fun hs => hend hs.1]
  split
  · rename_i hn
    rw [h] at hn
    cases hn
  · rename_i hs
    rw [h] at hs
    cases hs
    rfl

theorem cutStar_of_head {ss : List Sign} (h : ss.head? ≠ some (.plain '*')) :
    cutStar ss = (false, ss) := by
  unfold cutStar
  split
  · exact absurd rfl h
  · rfl

theorem readAtom?_literalSign (c : Char) (ss : List Sign) :
    readAtom? (literalSign c) ss = some (.char c, ss) := by
  have hops : ('.' :: '[' :: operators).all specialChars.contains = true := by decide
  have hchar := char?_literalSign c
  generalize hs : literalSign c = s at hchar
  rcases s with d | d
  · obtain rfl : d = c := by simpa [Sign.char?] using hchar
    have hd : d ∉ '.' :: '[' :: operators := fun hd =>
      absurd (List.all_eq_true.1 hops d hd) (by rw [literalSign_eq_plain hs]; decide)
    simp only [List.mem_cons, not_or] at hd
    simp [readAtom?, hd]
  · simp [readAtom?, hchar]

theorem literalSign_ne_end (c : Char) : literalSign c ≠ .escaped 'Z' := by
  have hz : specialChars.contains 'Z' = false := by decide
  unfold literalSign
  split
  · rintro ⟨⟩
    simp_all
  · nofun

/-- A token is read, and what follows it. -/
theorem readPieces?_token {t : Token} (ht : t.InBrackets) {ss : List Sign}
    (hss : ss.head? ≠ some (.plain '*')) :
    readPieces? (t.signs ++ ss) = (readPieces? ss).map (t.piece :: ·) := by
  have hcut := cutStar_of_head hss
  cases t with
  | anyRun =>
    have hread : readAtom? (.plain '.') (.plain '*' :: ss) = some (.any, .plain '*' :: ss) := rfl
    exact readPieces?_step (by simp) hread
  | anyOne =>
    have hread : readAtom? (.plain '.') ss = some (.any, ss) := rfl
    have h := readPieces?_step (by simp) hread
    rwa [hcut] at h
  | literal c =>
    have h := readPieces?_step (literalSign_ne_end c) (readAtom?_literalSign c ss)
    rwa [hcut] at h
  | set negated ms =>
    obtain ⟨items, hitems, rfl, horder⟩ := ht
    have hread : readAtom? (.plain '[') (setSigns negated items ++ ss) =
        some (.set negated (members items), ss) :=
      (readSet?_items hitems ss).trans (if_pos horder)
    have h := readPieces?_step (by simp) hread
    rw [hcut] at h
    simpa [Token.signs, Token.piece, setSigns, signs_members] using h

/-- A row of tokens does not begin with a `*`, which would go with what is before it. -/
theorem head?_signs_ne_star (ts : List Token) :
    (ts.flatMap Token.signs ++ [Sign.escaped 'Z']).head? ≠ some (.plain '*') := by
  rcases ts with _ | ⟨t, ts⟩
  · simp
  · cases t with
    | literal c =>
      have hstar : literalSign c ≠ .plain '*' := fun h =>
        absurd (literalSign_eq_plain h) (by decide)
      simpa [Token.signs] using hstar
    | _ => simp [Token.signs]

theorem readPieces?_tokens {ts : List Token} (hts : ∀ t ∈ ts, t.InBrackets) :
    readPieces? (ts.flatMap Token.signs ++ [.escaped 'Z']) = some (ts.map Token.piece) := by
  induction ts with
  | nil => simp [readPieces?]
  | cons t ts ih =>
    rw [List.flatMap_cons, List.append_assoc,
      readPieces?_token (hts t List.mem_cons_self) (head?_signs_ne_star ts),
      ih fun u hu => hts u (List.mem_cons_of_mem _ hu)]
    rfl

theorem chars_signs (ts : List Token) :
    (Sign.plain '^' :: ts.flatMap Token.signs ++ [Sign.escaped 'Z']).flatMap Sign.chars =
      regexOfTokens ts := by
  have htokens : ts.flatMap (fun t => t.signs.flatMap Sign.chars) = ts.flatMap Token.regex := by
    simp only [chars_tokenSigns]
  simp only [List.flatMap_append, List.flatMap_cons, List.flatMap_assoc, htokens, regexOfTokens]
  rfl

theorem read?_regex (expression : String) :
    read? (regex expression).toList = some ((tokens expression.toList).map Token.piece) := by
  have hsigns : signs? (regex expression).toList =
      some (.plain '^' :: (tokens expression.toList).flatMap Token.signs ++ [.escaped 'Z']) := by
    rw [regex, String.toList_ofList, ← chars_signs]
    refine signs?_chars ?_
    simp [Token.backslash_notMem_signs]
  rw [read?, hsigns]
  exact readPieces?_tokens fun t ht => inBrackets_of_mem_tokens ht

/-- The regular expression of a shell expression is well formed. It reads as the tokens of the
expression and accepts the texts that the expression covers, so it agrees with the matcher. -/
theorem reads_regex (expression : String) :
    read? (regex expression).toList = some ((tokens expression.toList).map Token.piece) ∧
      (∃ ps, read? (regex expression).toList = some ps ∧
        ∀ text : List Char, Accepts ps text ↔ Covers expression.toList text) ∧
      ∀ text : String, isMatch text expression = true ↔
        ∃ ps, read? (regex (String.ofList (Text.trim expression.toList))).toList = some ps ∧
          Accepts ps text.toList := by
  refine ⟨read?_regex expression, ⟨_, read?_regex expression, fun text => ?_⟩, fun text => ?_⟩
  · rw [accepts_pieces_iff, ← matchesAll_iff, matchesAll_tokens_iff]
  · rw [read?_regex, String.toList_ofList, isMatch, matchesAll_iff, ← accepts_pieces_iff]
    simp

end PacScript.Glob
