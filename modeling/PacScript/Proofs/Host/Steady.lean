import PacScript.Host.Table
import PacScript.Proofs.Glob.Store
import PacScript.Proofs.Script.Running
import Mathlib.Tactic.SplitIfs

/-!
# Steady answers

An action is steady when its result does not depend on the state in which it runs, as long as the
state keeps an invariant (`Steady`). Steady actions make steady actions, whichever follows on which.

A host whose primitives have no memory answers steadily (`Primitives.answer_steady`). What it
remembers are its compiled expressions, and these are kept with their own tokens, whatever was asked
before.
-/

namespace PacScript

open Script Glob

/-- From all states with an invariant an action has one result. It keeps the invariant, and what is
seen of the state. -/
def Steady {ε τ α γ : Type} (Inv : τ → Prop) (seen : τ → γ) (act : ExceptT ε (StateM τ) α) : Prop :=
  ∃ r, ∀ t, Inv t → ∃ t', act.run.run t = (r, t') ∧ Inv t' ∧ seen t' = seen t

namespace Steady

variable {ε τ α β γ : Type} {Inv : τ → Prop} {seen : τ → γ}

theorem pure (a : α) : Steady Inv seen (Pure.pure a : ExceptT ε (StateM τ) α) :=
  ⟨.ok a, fun t ht => ⟨t, rfl, ht, rfl⟩⟩

theorem throw (e : ε) : Steady Inv seen (MonadExcept.throw e : ExceptT ε (StateM τ) α) :=
  ⟨.error e, fun t ht => ⟨t, rfl, ht, rfl⟩⟩

theorem ofExcept (r : Except ε α) :
    Steady Inv seen (MonadExcept.ofExcept r : ExceptT ε (StateM τ) α) :=
  ⟨r, fun t ht => ⟨t, run_ofExcept r t, ht, rfl⟩⟩

theorem bind {x : ExceptT ε (StateM τ) α} {k : α → ExceptT ε (StateM τ) β}
    (hx : Steady Inv seen x) (hk : ∀ a, Steady Inv seen (k a)) : Steady Inv seen (x >>= k) := by
  obtain ⟨e | a, hx⟩ := hx
  · refine ⟨.error e, fun t ht => ?_⟩
    obtain ⟨t', hrun, hkeep⟩ := hx t ht
    rw [run_bind, hrun]
    exact ⟨t', rfl, hkeep⟩
  · -- `a` is the same from every state, so there is one action that follows
    obtain ⟨r, hr⟩ := hk a
    refine ⟨r, fun t ht => ?_⟩
    obtain ⟨t', hrun, hinv, hseen⟩ := hx t ht
    obtain ⟨t'', hrun', hinv', hseen'⟩ := hr t' hinv
    rw [run_bind, hrun]
    exact ⟨t'', hrun', hinv', hseen'.trans hseen⟩

theorem tryCatch {x : ExceptT ε (StateM τ) α} {handle : ε → ExceptT ε (StateM τ) α}
    (hx : Steady Inv seen x) (hhandle : ∀ e, Steady Inv seen (handle e)) :
    Steady Inv seen (MonadExcept.tryCatch x handle) := by
  obtain ⟨e | a, hx⟩ := hx
  · obtain ⟨r, hr⟩ := hhandle e
    refine ⟨r, fun t ht => ?_⟩
    obtain ⟨t', hrun, hinv, hseen⟩ := hx t ht
    obtain ⟨t'', hrun', hinv', hseen'⟩ := hr t' hinv
    rw [run_tryCatch, hrun]
    exact ⟨t'', hrun', hinv', hseen'.trans hseen⟩
  · refine ⟨.ok a, fun t ht => ?_⟩
    obtain ⟨t', hrun, hkeep⟩ := hx t ht
    rw [run_tryCatch, hrun]
    exact ⟨t', rfl, hkeep⟩

theorem map {x : ExceptT ε (StateM τ) α} (f : α → β) (hx : Steady Inv seen x) :
    Steady Inv seen (f <$> x) := by
  rw [← bind_pure_comp]
  exact hx.bind fun a => .pure (f a)

end Steady

variable {σ : Type}

/-- Primitives without memory: whatever the world is, a question has one answer. They do not use
the compiled expressions. -/
structure Primitives.Stateless (p : Primitives σ) : Prop where
  resolve : ∀ host filter, Steady (fun _ => True) World.patterns (p.resolve host filter)
  localAddresses : Steady (fun _ => True) World.patterns p.localAddresses
  primaryV4Address : Steady (fun _ => True) World.patterns p.primaryV4Address

/-- Every expression is kept with its own tokens. -/
def World.Sound (w : World σ) : Prop := w.patterns.Sound

/-- Whatever a host was asked before, the action has the same result. -/
def HostM.Settled {α : Type} (act : HostM σ α) : Prop := Steady World.Sound (fun _ => ()) act

namespace HostM

theorem settled_of_steady {α : Type} {act : HostM σ α}
    (h : Steady (fun _ => True) World.patterns act) : act.Settled := by
  obtain ⟨r, hr⟩ := h
  refine ⟨r, fun w hw => ?_⟩
  obtain ⟨w', hrun, -, hpatterns⟩ := hr w trivial
  refine ⟨w', hrun, ?_, rfl⟩
  rw [World.Sound, hpatterns]
  exact hw

theorem report_settled (level : Level) (channel : Channel) (message : String) :
    (report level channel message : HostM σ Unit).Settled :=
  ⟨.ok (), fun _ hw => ⟨_, rfl, hw, rfl⟩⟩

end HostM

namespace Primitives

open HostM

variable {p : Primitives σ}

theorem shExpMatch_settled (text expression : String) :
    (shExpMatch text expression : HostM σ Value).Settled := by
  refine ⟨.ok (.bool (matchesAll (Store.compile expression) text.toList)), fun w hw => ?_⟩
  have hrun : (shExpMatch text expression).run.run w =
      (.ok (.bool (matchesAll (w.patterns.use expression).1 text.toList)),
        { w with patterns := (w.patterns.use expression).2 }) := rfl
  -- what is kept with an expression are its tokens, so it does not matter whether it is kept
  rw [Store.use_fst hw] at hrun
  exact ⟨_, hrun, Store.use_sound hw expression, rfl⟩

section Stateless

variable (hp : p.Stateless) (settings : Settings)

include hp

theorem resolveQuietly_settled (host : String) (filter : FamilyFilter) :
    (p.resolveQuietly host filter).Settled := by
  refine (settled_of_steady (hp.resolve host filter)).tryCatch fun fault => ?_
  split_ifs
  · exact .pure _
  · exact .throw _

theorem isResolvable_settled (host : String) (filter : FamilyFilter) :
    (p.isResolvable host filter).Settled :=
  (resolveQuietly_settled hp host filter).bind fun _ => .pure _

theorem dnsResolve_settled (host : String) : (p.dnsResolve host).Settled := by
  refine (resolveQuietly_settled hp host _).bind fun found => ?_
  split_ifs
  · exact (Steady.ofExcept _).bind fun _ => .ofExcept _
  · exact .pure _

theorem dnsResolveEx_settled (host : String) : (p.dnsResolveEx settings host).Settled :=
  (resolveQuietly_settled hp host _).bind fun _ => (Steady.ofExcept _).map _

theorem isInNet_settled (host pattern mask : String) : (p.isInNet host pattern mask).Settled := by
  refine (resolveQuietly_settled hp host _).bind fun found => ?_
  split_ifs
  · exact (Steady.ofExcept _).bind fun _ => (Steady.ofExcept _).map _
  · exact .pure _

theorem isInNetEx_settled (host prefixes : String) : (p.isInNetEx host prefixes).Settled := by
  unfold isInNetEx
  split
  · exact .pure _
  · exact (resolveQuietly_settled hp host _).bind fun _ =>
      (Steady.ofExcept _).bind fun _ => (Steady.ofExcept _).map _

theorem myIpAddress_settled : p.myIpAddress.Settled := by
  have hfound := settled_of_steady hp.primaryV4Address
  refine Steady.tryCatch (hfound.bind fun _ => .ofExcept _) fun fault => ?_
  split_ifs
  · exact (report_settled _ _ _).bind fun _ => .pure _
  · exact .throw _

theorem myIpAddressEx_settled : (p.myIpAddressEx settings).Settled := by
  have hfound := settled_of_steady hp.localAddresses
  refine Steady.bind (Steady.tryCatch hfound fun fault => ?_) fun found => ?_
  · split_ifs
    · exact (report_settled _ _ _).bind fun _ => .pure _
    · exact .throw _
  · split_ifs
    · exact (Steady.ofExcept _).map _
    · exact .pure _

/-- Without memory in its primitives, a host answers a question in the same way whatever it was
asked before. -/
theorem answer_settled (c : Call) : (p.answer settings c).Settled := by
  cases c with
  | resolve host filter => exact settled_of_steady (hp.resolve host filter)
  | localAddresses => exact settled_of_steady hp.localAddresses
  | primaryV4Address => exact settled_of_steady hp.primaryV4Address
  | isPlainHostName host => exact .pure _
  | dnsDomainIs host domain => exact .pure _
  | localHostOrDomainIs host hostDomain => exact .pure _
  | dnsDomainLevels host => exact .pure _
  | shExpMatch text expression => exact shExpMatch_settled text expression
  | isResolvable host => exact isResolvable_settled hp host _
  | isResolvableEx host => exact isResolvable_settled hp host _
  | dnsResolve host => exact dnsResolve_settled hp host
  | dnsResolveEx host => exact dnsResolveEx_settled hp settings host
  | isInNet host pattern mask => exact isInNet_settled hp host pattern mask
  | isInNetEx host prefixes => exact isInNetEx_settled hp host prefixes
  | myIpAddress => exact myIpAddress_settled hp
  | myIpAddressEx => exact myIpAddressEx_settled hp settings
  | sortIpAddressList addresses =>
    rcases h : Address.sortList? addresses with _ | s
    · have hanswer : p.answer settings (.sortIpAddressList addresses) =
          MonadExcept.throw .unsortable := by simp only [answer, h]
      exact hanswer ▸ .throw _
    · have hanswer : p.answer settings (.sortIpAddressList addresses) =
          Pure.pure (.text s) := by simp only [answer, h]
      exact hanswer ▸ .pure _
  | weekdayRange range now => exact (Steady.ofExcept _).map _
  | dateRange range now => exact (Steady.ofExcept _).map _
  | timeRange range now => exact (Steady.ofExcept _).map _
  | clientVersion => exact .pure _
  | alert message => exact (report_settled _ _ _).bind fun _ => .pure _

end Stateless

end Primitives

/-- A table only remembers which names were looked up. -/
theorem HostTable.primitives_stateless (t : HostTable) : t.primitives.Stateless where
  resolve host filter := by
    refine Steady.bind ⟨.ok (), fun _ _ => ⟨_, rfl, trivial, rfl⟩⟩ fun _ => ?_
    split
    · exact .throw _
    · exact .pure _
  localAddresses := by
    unfold HostTable.primitives HostTable.localAddresses
    split_ifs
    · exact .throw _
    · exact .pure _
  primaryV4Address := by
    unfold HostTable.primitives HostTable.primaryV4Address
    split
    · exact .pure _
    · exact .throw _

end PacScript
