import PacScript.Proofs.Address.Literal
import PacScript.Proofs.Text.Letters
import PacScript.Proofs.Text.Lower

/-!
# IPv6 texts in lower case

Hexadecimal digits have one value in both cases, and the other characters of an IPv6 text have no
case. So the lower-case form of such a text denotes the same number (`v6Value?_lower`).
-/

namespace PacScript.Text

/-! ## Digits -/

theorem isHexDigit_toLower (c : Char) : isHexDigit c.toLower = isHexDigit c :=
  forall_toLower (p := fun c d => isHexDigit d = isHexDigit c) (by decide) (fun _ => rfl) c

theorem hexValue_toLower (c : Char) : hexValue c.toLower = hexValue c :=
  forall_toLower (p := fun c d => hexValue d = hexValue c) (by decide) (fun _ => rfl) c

theorem ofHexDigits_map_toLower (cs : List Char) :
    ofHexDigits (cs.map Char.toLower) = ofHexDigits cs := by
  simp only [ofHexDigits, List.foldl_map, hexValue_toLower]

/-! ## Pieces -/

theorem piecesBy_map (p : Char → Bool) (f : Char → Char) : ∀ cs : List Char,
    piecesBy p (cs.map f) = (piecesBy (p ∘ f) cs).map (List.map f)
  | [] => rfl
  | c :: rest => by
    simp only [List.map_cons, piecesBy, piecesBy_map p f rest, Function.comp_apply]
    split
    · rfl
    · rcases piecesBy (p ∘ f) rest with _ | ⟨piece, more⟩ <;> rfl

end PacScript.Text

namespace PacScript.Address

open PacScript.Text

theorem colon_toLower (c : Char) : (c.toLower == ':') = (c == ':') :=
  forall_toLower (p := fun c d => (d == ':') = (c == ':')) (by decide) (fun _ => rfl) c

theorem point_toLower (c : Char) : ('.' == c.toLower) = ('.' == c) :=
  forall_toLower (p := fun c d => ('.' == d) = ('.' == c)) (by decide) (fun _ => rfl) c

theorem map_toLower_of_quad? {cs : List Char} {value : Nat} (h : quad? cs = some value) :
    cs.map Char.toLower = cs := by
  have hdigit : ∀ c : Char, c.isDigit = true → c.toLower = c := fun c =>
    forall_toLower (p := fun c d => c.isDigit = true → d = c) (by decide) (fun _ _ => rfl) c
  rw [List.map_congr_left (forall_of_quad? h hdigit (by decide))]
  exact List.map_id cs

theorem group?_map_toLower (cs : List Char) : group? (cs.map Char.toLower) = group? cs := by
  simp only [group?, List.isEmpty_map, List.all_map, Function.comp_def, isHexDigit_toLower,
    List.length_map, ofHexDigits_map_toLower]

theorem pieces_colon_map_toLower (cs : List Char) :
    pieces ':' (cs.map Char.toLower) = (pieces ':' cs).map (List.map Char.toLower) := by
  have hcolon : (fun c => c == ':') ∘ Char.toLower = fun c => c == ':' := funext colon_toLower
  rw [pieces, pieces, piecesBy_map, hcolon]

theorem groupsOf?_map_toLower {mayEndInQuad : Bool} : ∀ {parts : List (List Char)} {gs : List Nat},
    groupsOf? mayEndInQuad parts = some gs →
      groupsOf? mayEndInQuad (parts.map (List.map Char.toLower)) = some gs
  | [], _, h => h
  | [last], gs, h => by
    have hpoint : (last.map Char.toLower).contains '.' = last.contains '.' := by
      simp only [List.contains_eq_any_beq, List.any_map, Function.comp_def, point_toLower]
    simp only [List.map_cons, List.map_nil, groupsOf?, hpoint, group?_map_toLower] at h ⊢
    split at h
    · rename_i hquad
      obtain ⟨value, hvalue, rfl⟩ := Option.map_eq_some_iff.1 h
      rw [if_pos hquad, map_toLower_of_quad? hvalue, hvalue]
      rfl
    · rename_i hgroup
      rw [if_neg hgroup, h]
  | first :: second :: rest, gs, h => by
    simp only [groupsOf?, Option.bind_eq_bind, Option.bind_eq_some_iff, Option.some.injEq] at h
    obtain ⟨g, hg, more, hmore, rfl⟩ := h
    have ih := groupsOf?_map_toLower hmore
    rw [List.map_cons] at ih ⊢
    simp only [List.map_cons, groupsOf?, group?_map_toLower, hg] at ih ⊢
    simp [ih]

theorem groupRun?_map_toLower {mayEndInQuad : Bool} {cs : List Char} {gs : List Nat}
    (h : groupRun? mayEndInQuad cs = some gs) :
    groupRun? mayEndInQuad (cs.map Char.toLower) = some gs := by
  unfold groupRun? at h ⊢
  rw [List.isEmpty_map, pieces_colon_map_toLower]
  split at h
  · rename_i hempty
    rw [if_pos hempty, h]
  · rename_i hempty
    rw [if_neg hempty, groupsOf?_map_toLower h]

theorem cutDouble?_map_toLower : ∀ cs : List Char, cutDouble? (cs.map Char.toLower) =
    (cutDouble? cs).map (Prod.map (List.map Char.toLower) (List.map Char.toLower))
  | [] => rfl
  | [_] => rfl
  | a :: b :: rest => by
    have ih := cutDouble?_map_toLower (b :: rest)
    simp only [List.map_cons] at ih
    simp only [List.map_cons, cutDouble?, colon_toLower, ih]
    split
    · rfl
    · simp only [Option.map_map]
      rfl

theorem v6Value?_map_toLower {cs : List Char} {value : Nat} (h : v6Value? cs = some value) :
    v6Value? (cs.map Char.toLower) = some value := by
  unfold v6Value? at h ⊢
  rw [cutDouble?_map_toLower]
  rcases hcut : cutDouble? cs with _ | ⟨before, after⟩
  · simp only [hcut, Option.bind_eq_bind, Option.bind_eq_some_iff] at h
    obtain ⟨gs, hgs, h⟩ := h
    simp [groupRun?_map_toLower hgs, h]
  · simp only [hcut, Option.bind_eq_bind, Option.bind_eq_some_iff] at h
    obtain ⟨high, hhigh, low, hlow, h⟩ := h
    simp only [Option.map_some, Prod.map, groupRun?_map_toLower hhigh, groupRun?_map_toLower hlow,
      Option.bind_eq_bind, Option.bind_some, h]

/-- The lower-case form of an IPv6 text denotes the same number. -/
theorem v6Value?_lower {cs : List Char} {value : Nat} (h : v6Value? cs = some value) :
    v6Value? (lower cs) = some value := by
  have hascii : ∀ c ∈ cs, c.toNat < 128 := by
    intro c hc
    rcases (of_v6Value? h).1 c hc with hgroup | rfl
    · exact toNat_lt_of_isGroupChar hgroup
    · decide
  rw [lower_of_ascii hascii]
  exact v6Value?_map_toLower h

end PacScript.Address
