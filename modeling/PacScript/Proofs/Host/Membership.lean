import PacScript.Proofs.Address.Prefix
import PacScript.Proofs.Host.Resolution

/-!
# Membership in prefixes

Whether a name is in one of some prefixes is asked of all its addresses. The answer is that for the
prefixes written in the text (`prefix_membership`), so with two lists in one text it is yes if it is
yes with either, also where one of them has no prefix at all.
-/

namespace PacScript

open Address Network Script

variable {σ : Type} {p : Primitives σ} {w : World σ} {host : String} {found : List Address}

theorem Answers.anyInNetworks_addresses (networks : List Network) (found : List Address) :
    anyInNetworks networks (found.map .address) = .ok (anyContains networks found) := by
  induction found with
  | nil => rfl
  | cons a rest ih =>
    show (if networks.any (·.contains a) then .ok true
      else anyInNetworks networks (rest.map .address)) = _
    by_cases h : networks.any (·.contains a) = true
    · simp [anyContains, h]
    · rw [if_neg h, ih]
      simp [anyContains, h]

namespace Primitives

theorem Finds.isInNetEx (h : p.Finds w host .every found) (prefixes : String) :
    (p.isInNetEx host prefixes).Yields w
      (.bool ((parseList? prefixes).any (anyContains · found))) := by
  unfold Primitives.isInNetEx
  rcases parseList? prefixes with _ | networks
  · rfl
  · refine h.bind_yields fun w' => ?_
    show (Value.bool <$> MonadExcept.ofExcept
      (Answers.anyInNetworks networks (found.map .address)) : HostM σ Value).run.run w' = _
    rw [Answers.anyInNetworks_addresses]
    rfl

/-- Prefixes of two lists in one text contain what those of either list contain. -/
theorem any_anyContains_append (text text' : String) {separator : String}
    (hseparator : separator ∈ [",", ";"]) (addresses : List Address) :
    (parseList? (text ++ separator ++ text')).any (anyContains · addresses) =
      ((parseList? text).any (anyContains · addresses) ||
        (parseList? text').any (anyContains · addresses)) := by
  rw [Bool.eq_iff_iff, Bool.or_eq_true, any_anyContains_iff, any_anyContains_iff,
    any_anyContains_iff]
  simp only [holds_append_iff hseparator, exists_or, and_or_left]

/-- A text is a list of prefixes unless no entry is well-formed, and contains the addresses that
share the leading bits of a well-formed entry of their family. Nothing else in the text matters. -/
theorem prefix_membership (text text' : String) (addresses : List Address) :
    (parseList? text = none ↔
      ∀ entry ∈ entries text.toList, ∀ b length, ¬Written entry b length) ∧
    (∀ networks, parseList? text = some networks →
      (anyContains networks addresses = true ↔
        ∃ a ∈ addresses, ∃ entry ∈ entries text.toList, ∃ b length,
          Written entry b length ∧ b.family = a.family ∧
            b.toNat >>> (a.family.width - length) = a.toNat >>> (a.family.width - length))) ∧
    ((∀ f length bits, Holds text f length bits ↔ Holds text' f length bits) →
      (parseList? text).map (anyContains · addresses) =
        (parseList? text').map (anyContains · addresses)) ∧
    ∀ {σ : Type} (p : Primitives σ) (settings : Settings) (host : String),
      (∀ w, p.Finds w host .every addresses) →
      ∃ b b' : Bool, ∀ w,
        (p.answer settings (.isInNetEx host text)).Yields w (.bool b) ∧
        (p.answer settings (.isInNetEx host text')).Yields w (.bool b') ∧
        ∀ separator ∈ [",", ";"],
          (p.answer settings (.isInNetEx host (text ++ separator ++ text'))).Yields w
            (.bool (b || b')) := by
  refine ⟨parseList?_eq_none_iff, fun networks hread => ?_, map_anyContains_congr,
    fun {σ} p settings host hfinds => ?_⟩
  · rw [anyContains_iff hread]
    refine exists_congr fun a => and_congr_right fun _ => ?_
    constructor
    · rintro ⟨length, entry, hentry, b, hb⟩
      exact ⟨entry, hentry, b, length, hb⟩
    · rintro ⟨entry, hentry, b, length, hb⟩
      exact ⟨length, entry, hentry, b, hb⟩
  · refine ⟨_, _, fun w => ⟨(hfinds w).isInNetEx text, (hfinds w).isInNetEx text', ?_⟩⟩
    intro separator hseparator
    rw [← any_anyContains_append text text' hseparator]
    exact (hfinds w).isInNetEx _

/-- The same prefix twice, in both notations, with a malformed entry and other host bits. -/
theorem prefix_membership_respelled :
    (parseList? "10.0.0.0/8").map (anyContains · [.v4 167772161]) = some true ∧
    (parseList? "x;10.9.9.9/255.0.0.0, 10.0.0.1/8").map (anyContains · [.v4 167772161]) =
      some true ∧
    ∀ w : World HostTable.Lookups, ∀ separator ∈ [",", ";"],
      (HostTable.gateway.primitives.answer .standard
        (.isInNetEx "10.0.0.1" ("10.0.0.0/8" ++ separator ++
          "x;10.9.9.9/255.0.0.0, 10.0.0.1/8"))).Yields w (.bool true) := by
  have hread : (parseList? "10.0.0.0/8").map (anyContains · [.v4 167772161]) = some true := by
    decide +kernel
  have hany : (parseList? "10.0.0.0/8").any (anyContains · [.v4 167772161]) = true := by
    decide +kernel
  have hholds (f : Family) (length bits : Nat) : Holds "10.0.0.0/8" f length bits ↔
      Holds "x;10.9.9.9/255.0.0.0, 10.0.0.1/8" f length bits := by
    have honce : ((entries "10.0.0.0/8".toList).filterMap Network.ofChars?).map leading =
        [(.v4, 8, 10)] := by
      decide +kernel
    have htwice : ((entries "x;10.9.9.9/255.0.0.0, 10.0.0.1/8".toList).filterMap
        Network.ofChars?).map leading = [(.v4, 8, 10), (.v4, 8, 10)] := by
      decide +kernel
    rw [holds_iff, holds_iff, honce, htwice]
    simp
  have hfinds (w : World HostTable.Lookups) :
      HostTable.gateway.primitives.Finds w "10.0.0.1" .every [.v4 167772161] := by
    refine .resolved ?_
    have hknown : HostTable.gateway.find? "10.0.0.1" = some [.v4 167772161] := by decide +kernel
    simp only [HostTable.primitives, HostTable.resolve, run_bind, hknown]
    rfl
  obtain ⟨-, -, hcongr, hanswers⟩ := prefix_membership "10.0.0.0/8"
    "x;10.9.9.9/255.0.0.0, 10.0.0.1/8" [.v4 167772161]
  obtain ⟨b, b', hanswer⟩ := hanswers HostTable.gateway.primitives .standard "10.0.0.1" hfinds
  refine ⟨hread, (hcongr hholds).symm.trans hread, fun w separator hseparator => ?_⟩
  obtain rfl : b = true := by
    have hyes := (hfinds w).isInNetEx "10.0.0.0/8"
    rw [hany] at hyes
    have hsame := (hanswer w).1.symm.trans hyes
    cases b with
    | true => rfl
    | false => cases hsame
  exact (hanswer w).2.2 separator hseparator

end Primitives

end PacScript
