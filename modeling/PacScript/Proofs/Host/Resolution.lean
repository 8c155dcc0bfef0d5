import PacScript.Host.Table
import PacScript.Proofs.Address.FamilyOrder
import PacScript.Proofs.Script.Running

/-!
# Resolution

Six usual answers are about the addresses of a name. They ask for all of them or for those of one
family, and take the first, the list or only whether there is one. Where the host resolves the name
to one list, filtered by the family that is asked for, they tell one story of that list
(`resolution_answers_agree`).
-/

namespace PacScript

open Address Script

variable {σ : Type}

/-- What an action comes to in a world. -/
def HostM.Yields {α : Type} (act : HostM σ α) (w : World σ) (result : α) : Prop :=
  (act.run.run w).1 = .ok result

/-- The addresses of a name; one that cannot be resolved has none. -/
inductive Primitives.Finds (p : Primitives σ) (w : World σ) (host : String)
    (filter : FamilyFilter) : List Address → Prop
  | resolved {found : List Address}
    (h : ((p.resolve host filter).run.run w).1 = .ok (.ofAddresses found)) :
    Finds p w host filter found
  | unresolved {fault : Fault} (h : ((p.resolve host filter).run.run w).1 = .error fault)
    (hkind : fault.isResolution = true) : Finds p w host filter []

/-- Whether a text is an address in a network. It is not where the pattern or mask is faulty. -/
def Answers.textInNet (address pattern mask : String) : Bool :=
  (parse? address).any fun a => (inNet a pattern mask).toOption.getD false

theorem Answers.valueInNet_address (a : Address) (pattern mask : String) :
    valueInNet (.address a) pattern mask = .ok ((inNet a pattern mask).toOption.getD false) := by
  unfold valueInNet inNet
  rcases Address.parse? pattern with _ | ⟨p | ⟨p, z⟩⟩ <;>
    rcases Address.parse? mask with _ | ⟨m | ⟨m, z'⟩⟩ <;> try rfl
  cases a <;> rfl

theorem Value.truthy_ofAddresses (found : List Address) :
    (Value.ofAddresses found).truthy = !found.isEmpty := by
  cases found <;> rfl

theorem Value.mapM_asAddress (found : List Address) :
    (found.map Value.address).mapM Value.asAddress = .ok found := by
  induction found with
  | nil => rfl
  | cons a rest ih =>
    rw [List.map_cons, List.mapM_cons, ih]
    rfl

namespace Primitives

variable {p : Primitives σ} {w : World σ} {host : String} {filter : FamilyFilter}
  {found : List Address}

theorem Finds.resolveQuietly_run (h : p.Finds w host filter found) :
    ∃ w', (p.resolveQuietly host filter).run.run w = (.ok (.ofAddresses found), w') := by
  unfold resolveQuietly
  rw [run_tryCatch]
  cases h with
  | resolved h =>
    rcases hrun : (p.resolve host filter).run.run w with ⟨r, w'⟩
    rw [hrun] at h
    cases h
    exact ⟨w', rfl⟩
  | unresolved h hkind =>
    rcases hrun : (p.resolve host filter).run.run w with ⟨r, w'⟩
    rw [hrun] at h
    cases h
    refine ⟨w', ?_⟩
    simp only [hkind, if_true]
    rfl

/-- What is done with the addresses of a name decides the answer. -/
theorem Finds.bind_yields {α : Type} (h : p.Finds w host filter found) {k : Value → HostM σ α}
    {result : α} (hk : ∀ w', (k (.ofAddresses found)).run.run w' = (.ok result, w')) :
    (p.resolveQuietly host filter >>= k).Yields w result := by
  obtain ⟨w', hrun⟩ := h.resolveQuietly_run
  rw [HostM.Yields, run_bind, hrun]
  exact congrArg Prod.fst (hk w')

/-- A name is resolvable where a text that is empty only without addresses is not. -/
theorem Finds.isResolvable (h : p.Finds w host filter found) {shown : String}
    (hshown : shown = "" ↔ found = []) :
    (p.isResolvable host filter).Yields w (.bool (decide (shown ≠ ""))) :=
  h.bind_yields fun w' => by
    have htruthy : (Value.ofAddresses found).truthy = decide (shown ≠ "") := by
      rw [Value.truthy_ofAddresses, Bool.eq_iff_iff]
      simp [hshown]
    rw [htruthy]
    rfl

theorem Finds.dnsResolve (h : p.Finds w host (.only .v4) found) :
    (p.dnsResolve host).Yields w (.text ((found.head?.map text).getD "")) :=
  h.bind_yields fun w' => by
    rw [Value.truthy_ofAddresses]
    cases found <;> rfl

theorem Finds.dnsResolveEx (settings : Settings) (h : p.Finds w host .every found) :
    (p.dnsResolveEx settings host).Yields w
      (.text (join (orderByFamily settings.preferV6 found))) :=
  h.bind_yields fun w' => by
    have hordered : Answers.orderedText settings.preferV6 (.ofAddresses found) =
        .ok (join (orderByFamily settings.preferV6 found)) := by
      show (found.map Value.address).mapM Value.asAddress >>= _ = _
      rw [Value.mapM_asAddress]
      rfl
    rw [hordered]
    rfl

theorem Finds.isInNet (h : p.Finds w host (.only .v4) found) (pattern mask : String) :
    (p.isInNet host pattern mask).Yields w
      (.bool (found.head?.any fun a => (Answers.inNet a pattern mask).toOption.getD false)) :=
  h.bind_yields fun w' => by
    rw [Value.truthy_ofAddresses]
    rcases found with _ | ⟨a, rest⟩
    · rfl
    · show (Value.bool <$> MonadExcept.ofExcept
        (Answers.valueInNet (.address a) pattern mask) : HostM σ Value).run.run w' = _
      rw [Answers.valueInNet_address]
      rfl

end Primitives

namespace Address

theorem head?_select (f : Family) (found : List Address) :
    (select (.only f) found).head? = found.find? (·.family == f) := List.head?_filter

/-- The text of the first IPv4 address is as good as the address, for it reads back. -/
theorem parse?_first_text (found : List Address) :
    parse? (((found.find? (·.family == .v4)).map text).getD "") =
      found.find? (·.family == .v4) := by
  have hfamily (a : Address) (ha : found.find? (·.family == .v4) = some a) : a.family = .v4 := by
    simpa using List.find?_some ha
  generalize found.find? (·.family == .v4) = first at hfamily
  rcases first with _ | value | ⟨value, zone⟩
  · rfl
  · exact parse?_text_v4 value
  · cases hfamily _ rfl

theorem first_text_eq_empty_iff (found : List Address) :
    ((found.find? (·.family == .v4)).map text).getD "" = "" ↔
      select (.only .v4) found = [] := by
  rw [← head?_select]
  rcases select (.only .v4) found with _ | ⟨a, rest⟩
  · simp
  · simpa using text_ne_empty a

theorem filter_other (preferV6 : Bool) (found : List Address) :
    found.filter (·.family == .preferred (!preferV6)) =
      found.filter (·.family != .preferred preferV6) :=
  List.filter_congr fun a _ => by
    rw [Bool.eq_iff_iff, beq_iff_eq, bne_iff_ne]
    constructor
    · intro h heq
      rw [h] at heq
      cases preferV6 <;> cases heq
    · exact family_of_ne_preferred

theorem orderByFamily_eq_filter (preferV6 : Bool) (found : List Address) :
    orderByFamily preferV6 found = found.filter (·.family == .preferred preferV6) ++
      found.filter (·.family != .preferred preferV6) := by
  rw [orderByFamily_eq, ← filter_other]
  rfl

/-- With the other preference the two blocks change places. -/
theorem orderByFamily_not (preferV6 : Bool) (found : List Address) :
    orderByFamily (!preferV6) found = found.filter (·.family != .preferred preferV6) ++
      found.filter (·.family == .preferred preferV6) := by
  rw [orderByFamily_eq_filter, filter_other, ← filter_other (!preferV6), Bool.not_not]

end Address

namespace Primitives

variable {p : Primitives σ} {w : World σ} {host : String} {found : List Address}

/-- The answers about a name agree with each other, whichever part of its addresses they ask for. -/
theorem resolution_answers_agree (settings : Settings)
    (h : ∀ filter, p.Finds w host filter (select filter found)) :
    ∃ short preferred rest,
      short = ((found.find? (·.family == .v4)).map text).getD "" ∧
      preferred = found.filter (·.family == .preferred settings.preferV6) ∧
      rest = found.filter (·.family != .preferred settings.preferV6) ∧
      (preferred ++ rest).Perm found ∧
      (p.answer settings (.dnsResolve host)).Yields w (.text short) ∧
      (p.answer settings (.dnsResolveEx host)).Yields w (.text (join (preferred ++ rest))) ∧
      (p.answer { settings with preferV6 := !settings.preferV6 } (.dnsResolveEx host)).Yields w
        (.text (join (rest ++ preferred))) ∧
      (p.answer settings (.isResolvable host)).Yields w (.bool (decide (short ≠ ""))) ∧
      (p.answer settings (.isResolvableEx host)).Yields w
        (.bool (decide (join (preferred ++ rest) ≠ ""))) ∧
      ∀ pattern mask, (p.answer settings (.isInNet host pattern mask)).Yields w
        (.bool (Answers.textInNet short pattern mask)) := by
  have hordered := orderByFamily_eq_filter settings.preferV6 found
  have hperm := orderByFamily_perm settings.preferV6 found
  rw [hordered] at hperm
  refine ⟨_, _, _, rfl, rfl, rfl, hperm, ?_, ?_, ?_, ?_, ?_, fun pattern mask => ?_⟩
  · have hanswer := (h (.only .v4)).dnsResolve
    rwa [head?_select] at hanswer
  · have hanswer := (h .every).dnsResolveEx settings
    rwa [select, hordered] at hanswer
  · have hanswer := (h .every).dnsResolveEx { settings with preferV6 := !settings.preferV6 }
    rwa [select, orderByFamily_not] at hanswer
  · exact (h (.only .v4)).isResolvable (first_text_eq_empty_iff found)
  · refine (h .every).isResolvable ?_
    rw [join_eq_empty_iff, ← List.isEmpty_iff, hperm.isEmpty_eq, List.isEmpty_iff, select]
  · have hanswer := (h (.only .v4)).isInNet pattern mask
    rwa [head?_select, ← parse?_first_text] at hanswer

end Primitives

/-- A gateway with addresses of both families. -/
def HostTable.gateway : HostTable where
  names := [("gw", [.v6 1 none, .v4 167772161, .v4 167772162])]
  locals := []
  zones := .universal

theorem Primitives.resolution_answers_agree_gateway :
    let p := HostTable.gateway.primitives
    let w := World.ofSettings .standard []
    let inverted := { Settings.standard with preferV6 := true }
    (p.answer .standard (.dnsResolve "gw")).Yields w (.text "10.0.0.1") ∧
      (p.answer .standard (.dnsResolveEx "gw")).Yields w (.text "10.0.0.1;10.0.0.2;::1") ∧
      (p.answer inverted (.dnsResolveEx "gw")).Yields w (.text "::1;10.0.0.1;10.0.0.2") ∧
      (p.answer .standard (.isInNet "gw" "10.0.0.9" "255.255.255.0")).Yields w (.bool true) := by
  have hknown : HostTable.gateway.find? "gw" =
      some [.v6 1 none, .v4 167772161, .v4 167772162] := by
    decide
  have hfinds (filter : FamilyFilter) : HostTable.gateway.primitives.Finds
      (World.ofSettings .standard []) "gw" filter
      (select filter [.v6 1 none, .v4 167772161, .v4 167772162]) := by
    refine .resolved ?_
    simp only [HostTable.primitives, HostTable.resolve, run_bind, hknown]
    rfl
  obtain ⟨_, _, _, rfl, rfl, rfl, -, hshort, hlong, hflip, -, -, hnet⟩ :=
    resolution_answers_agree .standard hfinds
  exact ⟨hshort, hlong, hflip, hnet _ _⟩

end PacScript
