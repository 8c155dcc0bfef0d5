import PacScript.HostName
import PacScript.Proofs.Text.Pieces

/-!
# Names by their labels

The labels of a name stand between its dots. The tests on host names compare texts and the ends of
texts, and what they find out is about whole labels (`tests_on_labels`).
-/

namespace PacScript.HostName

open Text

/-- The labels of a name, in lower case and without white space around the name. -/
def labels (name : String) : List (List Char) := pieces '.' (lower (trim name.toList))

variable {host domain hostDomain name : String} {label : List Char}

theorem labels_inj : labels host = labels domain ↔ clean host = clean domain := pieces_inj

theorem labels_eq_singleton_iff : labels name = [label] ↔ '.' ∉ clean name ∧ label = clean name :=
  pieces_eq_singleton_iff

/-! ## Domains -/

/-- Ending in a domain that starts with a dot is ending in the labels behind its first, empty
one. -/
theorem suffix_iff_labels (hne : clean domain ≠ []) :
    ((clean domain).head? = some '.' ∧ clean domain <:+ clean host) ↔
      ∃ front rest, front ≠ [] ∧ labels domain = [] :: rest ∧ labels host = front ++ rest := by
  constructor
  · rintro ⟨hdot, hsuffix⟩
    obtain ⟨tail, htail⟩ := List.head?_eq_some_iff.1 hdot
    rw [htail] at hsuffix
    obtain ⟨front, hfront, hhost⟩ := cons_suffix_iff.1 hsuffix
    exact ⟨front, pieces '.' tail, hfront, (pieces_eq_nil_cons_iff hne).2 ⟨tail, htail, rfl⟩, hhost⟩
  · rintro ⟨front, rest, hfront, hdomain, hhost⟩
    obtain ⟨tail, htail, rfl⟩ := (pieces_eq_nil_cons_iff hne).1 hdomain
    rw [htail]
    exact ⟨rfl, cons_suffix_iff.2 ⟨front, hfront, hhost⟩⟩

theorem inDomain_iff : inDomain host domain = true ↔
    clean domain ≠ [] ∧ clean domain ≠ ['.'] ∧
      (labels host = labels domain ∨ ∃ front rest, front ≠ [] ∧
        labels domain = [] :: rest ∧ labels host = front ++ rest) := by
  simp only [inDomain]
  split
  · rename_i hbad
    have hbad : clean domain = [] ∨ clean domain = ['.'] := by simpa using hbad
    refine iff_of_false Bool.false_ne_true ?_
    rintro ⟨hne, hdot, -⟩
    exact hbad.elim hne hdot
  · rename_i hgood
    obtain ⟨hne, hdot⟩ : clean domain ≠ [] ∧ clean domain ≠ ['.'] := by simpa using hgood
    rw [Bool.or_eq_true, Bool.and_eq_true, beq_iff_eq, beq_iff_eq, List.isSuffixOf_iff_suffix,
      suffix_iff_labels hne, ← labels_inj]
    simp only [ne_eq, hne, hdot, not_false_eq_true, true_and]

/-! ## Local names -/

theorem find?_label_eq_some_iff {ls : List (List Char)} :
    ls.find? (fun l => !l.isEmpty) = some label ↔
      ∃ front rest, ls = front ++ label :: rest ∧ (∀ l ∈ front, l = []) ∧ label ≠ [] := by
  rw [List.find?_eq_some_iff_append]
  simp only [Bool.not_eq_true', List.isEmpty_eq_false_iff, Bool.not_not, List.isEmpty_iff]
  constructor
  · rintro ⟨hne, front, rest, hls, hfront⟩
    exact ⟨front, rest, hls, hfront, hne⟩
  · rintro ⟨front, rest, hls, hfront, hne⟩
    exact ⟨hne, front, rest, hls, hfront⟩

theorem isLocalOrDomain_iff : isLocalOrDomain host hostDomain = true ↔
    clean host ≠ [] ∧ (labels host = labels hostDomain ∨
      ∃ label front rest, labels host = [label] ∧
        labels hostDomain = front ++ label :: rest ∧ (∀ l ∈ front, l = []) ∧ label ≠ []) := by
  simp only [isLocalOrDomain]
  split
  · rename_i hempty
    exact iff_of_false Bool.false_ne_true fun ⟨hne, _⟩ => hne (by simpa using hempty)
  · rename_i hne
    have hne : clean host ≠ [] := by simpa using hne
    split
    · rename_i heq
      exact iff_of_true rfl ⟨hne, Or.inl (labels_inj.2 (by simpa using heq))⟩
    · rename_i heq
      have heq : labels host ≠ labels hostDomain := fun h => heq (by simpa using labels_inj.1 h)
      simp only [hne, heq, ne_eq, not_false_eq_true, true_and, false_or]
      split
      · rename_i hdot
        refine iff_of_false Bool.false_ne_true ?_
        rintro ⟨label, front, rest, hsingle, -⟩
        exact (labels_eq_singleton_iff.1 hsingle).1 (by simpa using hdot)
      · rename_i hdot
        have hsingle : labels host = [clean host] :=
          labels_eq_singleton_iff.2 ⟨by simpa using hdot, rfl⟩
        rw [beq_iff_eq]
        constructor
        · intro hfirst
          obtain ⟨front, rest, hfirst⟩ := find?_label_eq_some_iff.1 hfirst
          exact ⟨clean host, front, rest, hsingle, hfirst⟩
        · rintro ⟨label, front, rest, hlabel, hfirst⟩
          obtain ⟨-, rfl⟩ := labels_eq_singleton_iff.1 hlabel
          exact find?_label_eq_some_iff.2 ⟨front, rest, hfirst⟩

/-! ## Plain names -/

theorem isPlain_iff : isPlain host = true ↔ levels host = 0 := by
  simp [isPlain, levels, List.count_eq_zero]

theorem levels_eq_zero_iff : levels host = 0 ↔ (pieces '.' (trim host.toList)).length = 1 := by
  rw [length_pieces, levels]
  omega

/-- A host lies in a domain if it has the labels of the domain, or ends in all of them but a first,
empty one, behind others. It is local to a name if it has the labels of the name, or only the first
of them that is not empty. It is plain if it has no levels, and so is a single piece. -/
theorem tests_on_labels (host domain hostDomain : String) :
    (inDomain host domain = true ↔
      lower (trim domain.toList) ≠ [] ∧ lower (trim domain.toList) ≠ ['.'] ∧
        (labels host = labels domain ∨ ∃ front rest, front ≠ [] ∧
          labels domain = [] :: rest ∧ labels host = front ++ rest)) ∧
    (isLocalOrDomain host hostDomain = true ↔
      lower (trim host.toList) ≠ [] ∧ (labels host = labels hostDomain ∨
        ∃ label front rest, labels host = [label] ∧
          labels hostDomain = front ++ label :: rest ∧ (∀ l ∈ front, l = []) ∧ label ≠ [])) ∧
    (isPlain host = true ↔ levels host = 0) ∧
    (levels host = 0 ↔ (pieces '.' (trim host.toList)).length = 1) :=
  ⟨inDomain_iff, isLocalOrDomain_iff, isPlain_iff, levels_eq_zero_iff⟩

/-- A label in the middle may be empty, and none is cut. -/
example : (inDomain "a..b" "..B ", inDomain "a.xb" ".b", isLocalOrDomain "www" "..WWW.b") =
    (true, false, true) := by decide +kernel

end PacScript.HostName
