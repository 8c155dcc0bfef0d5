import PacScript.Text.Case

/-!
# Letters of ASCII

What is said of a text in small letters of ASCII is said of the text itself: its white space and its
upper-case form are the same.
-/

namespace PacScript.Text

/-- The characters of ASCII can be looked at one by one. -/
theorem forall_ascii {p : Char → Prop} (h : ∀ n < 128, p (Char.ofNat n)) {c : Char}
    (hc : c.toNat < 128) : p c := by
  have hp := h c.toNat hc
  rwa [Char.ofNat_toNat] at hp

/-- What holds of all characters of ASCII and of those that are their own small letters holds of
all. -/
theorem forall_toLower {p : Char → Char → Prop}
    (hascii : ∀ n < 128, p (Char.ofNat n) (Char.ofNat n).toLower) (hself : ∀ c, p c c)
    (c : Char) : p c c.toLower := by
  by_cases h : c.toNat < 128
  · exact forall_ascii (p := fun c => p c c.toLower) hascii h
  · have hsame : c.toLower = c := by
      refine dif_neg fun hcapital => h ?_
      have hle : c.toNat ≤ 90 := UInt32.le_iff_toNat_le.1 hcapital.2
      omega
    rw [hsame]
    exact hself c

theorem isBlank_toLower (c : Char) : isBlank c.toLower = isBlank c :=
  forall_toLower (p := fun c d => isBlank d = isBlank c) (by decide) (fun _ => rfl) c

theorem upperChar_toLower (c : Char) : upperChar c.toLower = upperChar c :=
  forall_toLower (p := fun c d => upperChar d = upperChar c) (by decide) (fun _ => rfl) c

theorem upper_map_toLower (cs : List Char) : upper (cs.map Char.toLower) = upper cs := by
  simp only [upper, List.flatMap_map, upperChar_toLower]

theorem trim_map_toLower (cs : List Char) :
    trim (cs.map Char.toLower) = (trim cs).map Char.toLower := by
  have hblank : isBlank ∘ Char.toLower = isBlank := funext isBlank_toLower
  simp only [trim, trimBy, List.dropWhile_map, ← List.map_reverse, hblank]

theorem upper_trim_congr {cs ds : List Char} (h : cs.map Char.toLower = ds.map Char.toLower) :
    upper (trim cs) = upper (trim ds) := by
  rw [← upper_map_toLower (trim cs), ← trim_map_toLower, h, trim_map_toLower, upper_map_toLower]

end PacScript.Text
