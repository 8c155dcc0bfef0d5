import PacScript.Proofs.Fallible
import PacScript.Proofs.Host.Membership
import PacScript.Proofs.Resolver.Alone
import PacScript.Proofs.Resolver.Calls
import PacScript.Resolver.Host

/-!
# How resolution fails

Look-ups fail with faults of the network, of an encoding, of an address or of time, and callers see
all of these as faults of resolution. Any other fault of a look-up strays: callers see it as it is.
And a caller that is to wait for longer than the machine can fails with a fault of its own, unless
the look-up has already ended. So a name is resolved or fails with a fault of resolution, and the
answers about its addresses come about, just when no look-up raises a stray fault and no wait is too
long (`fails_alike_iff`).
-/

namespace PacScript

open Address Script

/-- A fault of a look-up that callers see as it is, and that is none of resolution. -/
def Fault.Strays (f : Fault) : Prop :=
  f.isTimeout = false ∧ f.isLookupFailure = false ∧ f.isResolution = false

/-! ## Resolving -/

namespace Resolver

variable {limits : ResolverLimits} {host name : String} {filter : FamilyFilter} {r : Resolver}
  {fault : Fault}

theorem lookupFault_of_strays (h : fault.Strays) : lookupFault limits name fault = fault := by
  simp [lookupFault, h.1, h.2.1]

theorem isResolution_lookupFault_iff :
    (lookupFault limits name fault).isResolution = true ↔ ¬fault.Strays := by
  unfold lookupFault Fault.Strays
  rcases htimeout : fault.isTimeout with _ | _
  · rcases hfailure : fault.isLookupFailure with _ | _
    · simp
    · simp [Fault.isResolution]
  · simp [timeoutFault, Fault.isResolution]

/-- What a call gets from a look-up is addresses, a fault of resolution, or a stray fault that the
look-up ends with. -/
theorem strays_of_received {outcome : Except Fault (List Address)}
    (h : received limits host filter outcome = .error fault) :
    fault.isResolution = true ∨ fault.Strays ∧ outcome = .error fault := by
  rcases outcome with f | found
  · cases h
    by_cases hstrays : f.Strays
    · rw [lookupFault_of_strays hstrays]
      exact Or.inr ⟨hstrays, rfl⟩
    · exact Or.inl (isResolution_lookupFault_iff.2 hstrays)
  · cases h

/-- A row with a bad address is a failure that is expected. -/
theorem isLookupFailure_of_addressesOf {rows : List (Option Family × String)}
    (h : addressesOf rows = .error fault) : fault.isLookupFailure = true := by
  fun_induction addressesOf rows with
  | case1 => cases h
  | case2 _ rest ih => exact ih h
  | case3 family text rest hparse =>
    cases h
    rfl
  | case4 family text rest a hparse ih =>
    obtain hrest | ⟨found, -, hok⟩ := bind_error_iff.1 h
    · exact ih hrest
    · cases hok

theorem reply_of_strays {reply : Reply} (h : outcomeOf reply = .error fault)
    (hstrays : fault.Strays) : reply = .fails fault := by
  rcases reply with rows | f
  · rcases hrows : addressesOf rows with f | found
    · rw [outcomeOf, hrows] at h
      cases h
      have hfailure := isLookupFailure_of_addressesOf hrows
      rw [hstrays.2.1] at hfailure
      cases hfailure
    · rw [outcomeOf, hrows] at h
      cases h
  · cases h
    rfl

/-- A call fails at once only for a blank host. -/
theorem fault_of_start {r' : Resolver} (h : r.start limits host = (.fails fault, r')) :
    fault = .resolution .emptyName := by
  rcases start_cases limits host r with ⟨-, hs⟩ | ⟨a, -, hs⟩ |
    ⟨-, -, entry, -, hs⟩ | ⟨-, -, -, hs⟩ <;> rw [hs] at h
  · cases h
    rfl
  · cases h
  · cases h
  · unfold submit at h
    split at h <;> cases h

/-- A call that begins now waits for a look-up, which was pending or which it starts. -/
def WaitsFor (limits : ResolverLimits) (host : String) (r : Resolver) (lookup : Lookup) : Prop :=
  (r.start limits host).1 = .joins lookup ∨ (r.start limits host).1 = .starts lookup

/-- A call during which nothing else happens waits for a look-up that raises a fault in time. -/
def Raises (limits : ResolverLimits) (host : String) (r : Resolver) (fault : Fault) : Prop :=
  ∃ lookup, WaitsFor limits host r lookup ∧
    endsInTime limits r.surroundings (keyOf (nameOf host)) = true ∧
    replyTo r.surroundings lookup.name = .fails fault

/-- A call is to wait, for longer than the machine can, for a look-up that has not ended before. -/
def Overwaits (limits : ResolverLimits) (host : String) (r : Resolver) : Prop :=
  limits.tooLong = true ∧ (∃ lookup, WaitsFor limits host r lookup) ∧
    endsInTime limits r.surroundings (keyOf (nameOf host)) = false

/-- What makes a call end with a fault other than one of resolution. -/
def Slips (limits : ResolverLimits) (host : String) (r : Resolver) : Prop :=
  (∃ fault, fault.Strays ∧ Raises limits host r fault) ∨ Overwaits limits host r

theorem resolve_run_of_waitsFor {lookup : Lookup} (h : WaitsFor limits host r lookup) :
    ((resolve limits host filter).run.run r).1 =
      if endsInTime limits r.surroundings (keyOf (nameOf host)) then
        received limits host filter (outcomeOf (replyTo r.surroundings lookup.name))
      else .error (giveUpFault limits (nameOf host)) := by
  rcases hs : r.start limits host with ⟨outset, r'⟩
  obtain ⟨-, hsurroundings, -⟩ := start_frame hs
  rw [Traffic.resolve_run, hs, ← hsurroundings]
  rw [WaitsFor, hs] at h
  rcases h with rfl | rfl <;> exact apply_ite Prod.fst _ _ _

theorem resolve_run_of_raises (h : Raises limits host r fault) :
    ((resolve limits host filter).run.run r).1 =
      .error (lookupFault limits (nameOf host) fault) := by
  obtain ⟨lookup, hwaits, hends, hreply⟩ := h
  rw [resolve_run_of_waitsFor hwaits, hends, hreply]
  rfl

theorem giveUpFault_of_tooLong (h : limits.tooLong = true) :
    giveUpFault limits name = .tooLong := if_pos h

theorem isResolution_giveUpFault (h : limits.tooLong = false) :
    (giveUpFault limits name).isResolution = true := by
  rw [giveUpFault, h]
  rfl

theorem resolve_run_of_overwaits (h : Overwaits limits host r) :
    ((resolve limits host filter).run.run r).1 = .error .tooLong := by
  obtain ⟨hlong, ⟨lookup, hwaits⟩, hends⟩ := h
  rw [resolve_run_of_waitsFor hwaits, hends, giveUpFault_of_tooLong hlong]
  rfl

/-- A fault that a call ends with is one of resolution, or a look-up has raised it, or the call is
to wait for too long. -/
theorem raises_of_resolve_error (h : ((resolve limits host filter).run.run r).1 = .error fault) :
    fault.isResolution = true ∨ fault.Strays ∧ Raises limits host r fault ∨
      Overwaits limits host r := by
  have hwaits (lookup : Lookup) (hlookup : WaitsFor limits host r lookup) :
      fault.isResolution = true ∨ fault.Strays ∧ Raises limits host r fault ∨
        Overwaits limits host r := by
    rw [resolve_run_of_waitsFor hlookup] at h
    split at h
    · rename_i hends
      rcases strays_of_received h with hkind | ⟨hstrays, houtcome⟩
      · exact Or.inl hkind
      · exact Or.inr (Or.inl ⟨hstrays, lookup, hlookup, hends, reply_of_strays houtcome hstrays⟩)
    · rename_i hends
      rcases hlong : limits.tooLong with _ | _
      · cases h
        exact Or.inl (isResolution_giveUpFault hlong)
      · exact Or.inr (Or.inr ⟨hlong, ⟨lookup, hlookup⟩, by simpa using hends⟩)
  rcases hs : r.start limits host with ⟨f | found | lookup | lookup, r'⟩
  · obtain rfl := fault_of_start hs
    rw [Traffic.resolve_run, hs] at h
    cases h
    exact Or.inl rfl
  · rw [Traffic.resolve_run, hs] at h
    cases h
  · exact hwaits lookup (Or.inl (by rw [hs]))
  · exact hwaits lookup (Or.inr (by rw [hs]))

theorem resolve_fails_alike_iff (limits : ResolverLimits) (host : String) (filter : FamilyFilter)
    (r : Resolver) :
    (∀ fault, ((resolve limits host filter).run.run r).1 = .error fault →
      fault.isResolution = true) ↔ ¬Slips limits host r := by
  constructor
  · rintro h (⟨fault, hstrays, hraises⟩ | hoverwaits)
    · exact isResolution_lookupFault_iff.1 (h _ (resolve_run_of_raises hraises)) hstrays
    · exact Bool.false_ne_true (h _ (resolve_run_of_overwaits hoverwaits))
  · intro h fault herror
    rcases raises_of_resolve_error herror with hkind | ⟨hstrays, hraises⟩ | hoverwaits
    · exact hkind
    · exact absurd (Or.inl ⟨fault, hstrays, hraises⟩) h
    · exact absurd (Or.inr hoverwaits) h

end Resolver

/-! ## Answers -/

section Running

variable {σ α β : Type}

theorem HostM.map_run (f : α → β) (act : HostM σ α) (w : World σ) :
    ((f <$> act).run.run w).1 = (act.run.run w).1.map f := by
  simp only [ExceptT.run_map, StateT.run_map]
  rfl

theorem HostM.onState_run (act : ExceptT Fault (StateM σ) α) (w : World σ) :
    (HostM.onState act).run.run w =
      ((act.run.run w.state).1, { w with state := (act.run.run w.state).2 }) := rfl

end Running

/-- The questions that are answered from the addresses of a host, and the family that is asked
for. -/
inductive Call.Consults (host : String) : FamilyFilter → Call → Prop
  | isResolvable : Consults host (.only .v4) (.isResolvable host)
  | isResolvableEx : Consults host .every (.isResolvableEx host)
  | dnsResolve : Consults host (.only .v4) (.dnsResolve host)
  | dnsResolveEx : Consults host .every (.dnsResolveEx host)
  | isInNet (pattern mask : String) : Consults host (.only .v4) (.isInNet host pattern mask)
  | isInNetEx {prefixes : String} {networks : List Network}
    (h : Network.parseList? prefixes = some networks) :
    Consults host .every (.isInNetEx host prefixes)

namespace Primitives

variable {σ : Type} {p : Primitives σ} {w : World σ} {host : String} {filter : FamilyFilter}
  {fault : Fault} {call : Call}

/-- A question is answered where the host has addresses, if none. -/
theorem Finds.yields (settings : Settings) {found : List Address}
    (h : p.Finds w host filter found) (hcall : call.Consults host filter) :
    ∃ v, (p.answer settings call).Yields w v := by
  cases hcall with
  | isResolvable => exact ⟨_, h.isResolvable join_eq_empty_iff⟩
  | isResolvableEx => exact ⟨_, h.isResolvable join_eq_empty_iff⟩
  | dnsResolve => exact ⟨_, h.dnsResolve⟩
  | dnsResolveEx => exact ⟨_, h.dnsResolveEx settings⟩
  | isInNet pattern mask => exact ⟨_, h.isInNet pattern mask⟩
  | isInNetEx => exact ⟨_, h.isInNetEx _⟩

theorem resolveQuietly_bind_error {α : Type} {k : Value → HostM σ α}
    (h : ((p.resolve host filter).run.run w).1 = .error fault)
    (hkind : fault.isResolution = false) :
    ((p.resolveQuietly host filter >>= k).run.run w).1 = .error fault := by
  rcases hrun : (p.resolve host filter).run.run w with ⟨result, w'⟩
  rw [hrun] at h
  cases h
  simp only [run_bind, resolveQuietly, run_tryCatch, hrun, hkind]
  rfl

/-- A fault that is none of resolution gets through every question. -/
theorem answer_error (settings : Settings)
    (h : ((p.resolve host filter).run.run w).1 = .error fault)
    (hkind : fault.isResolution = false) (hcall : call.Consults host filter) :
    ((p.answer settings call).run.run w).1 = .error fault := by
  cases hcall with
  | isResolvable => exact resolveQuietly_bind_error h hkind
  | isResolvableEx => exact resolveQuietly_bind_error h hkind
  | dnsResolve => exact resolveQuietly_bind_error h hkind
  | dnsResolveEx => exact resolveQuietly_bind_error h hkind
  | isInNet pattern mask => exact resolveQuietly_bind_error h hkind
  | isInNetEx hread =>
    simp only [answer, isInNetEx, hread]
    exact resolveQuietly_bind_error h hkind

end Primitives

namespace Resolver

variable {zones : Zones} {limits : ResolverLimits} {host : String} {filter : FamilyFilter}
  {fault : Fault} {w : World Resolver} {call : PacScript.Call}

theorem primitives_resolve_run (zones : Zones) (limits : ResolverLimits) (host : String)
    (filter : FamilyFilter) (w : World Resolver) :
    (((primitives zones limits).resolve host filter).run.run w).1 =
      ((resolve limits host filter).run.run w.state).1.map Value.ofAddresses := by
  show ((Value.ofAddresses <$> HostM.onState (resolve limits host filter)).run.run w).1 = _
  rw [HostM.map_run, HostM.onState_run]

/-- A question about a host is answered unless the look-up that it waits for raises a stray fault,
or the wait is too long. -/
theorem answered_iff (settings : Settings) (hcall : call.Consults host filter) :
    (∃ v, ((primitives zones limits).answer settings call).Yields w v) ↔
      ¬Slips limits host w.state := by
  rw [← resolve_fails_alike_iff limits host filter]
  have hrun := primitives_resolve_run zones limits host filter w
  rcases hresult : ((resolve limits host filter).run.run w.state).1 with fault | found <;>
    rw [hresult] at hrun
  · constructor
    · rintro ⟨v, hv⟩ fault' heq
      cases heq
      by_contra hkind
      have herror := Primitives.answer_error settings hrun (by simpa using hkind) hcall
      rw [HostM.Yields, herror] at hv
      cases hv
    · intro h
      exact (Primitives.Finds.unresolved hrun (h fault rfl)).yields settings hcall
  · constructor
    · intro _ fault heq
      cases heq
    · intro _
      exact (Primitives.Finds.resolved hrun).yields settings hcall

/-! ## Calls that overlap -/

namespace Traffic

variable {t : Traffic}

/-- A fault of a call is one of resolution, or a look-up that the call waits for ends with it and it
strays, or the call is to wait for too long. -/
def Accounts (limits : ResolverLimits) (waited ended : List Event) (call : Call) (fault : Fault)
    (time : Binary64) : Prop :=
  fault.isResolution = true ∨ ∃ lookup, .waits call lookup ∈ waited ∧
    (fault.Strays ∧ .failed lookup fault time ∈ ended ∨ fault = .tooLong ∧ limits.tooLong = true)

/-- Calls that wait have said so, and faults of calls are accounted for. -/
structure Explained (limits : ResolverLimits) (t : Traffic) : Prop where
  waiting : ∀ w ∈ t.waiting, .waits w.call w.lookup ∈ t.history
  raised : ∀ call fault time, .raised call fault time ∈ t.history →
    Accounts limits t.history t.history call fault time

theorem explained_ofResolver (r : Resolver) : Explained limits (ofResolver r) := by
  constructor <;> simp [ofResolver]

theorem Explained.extend (h : Explained limits t) {t' : Traffic} {events : List Event}
    (hhistory : t'.history = t.history ++ events)
    (hwaiting : ∀ w ∈ t'.waiting, w ∈ t.waiting ∨ .waits w.call w.lookup ∈ events)
    (hraised : ∀ call fault time, .raised call fault time ∈ events →
      Accounts limits t.history events call fault time) : Explained limits t' := by
  refine ⟨fun w hw => ?_, fun call fault time hmem => ?_⟩
  · rw [hhistory, List.mem_append]
    exact (hwaiting w hw).imp_left (h.waiting w)
  · rw [hhistory] at hmem ⊢
    rcases List.mem_append.1 hmem with hmem | hmem
    · refine (h.raised call fault time hmem).imp_right ?_
      rintro ⟨lookup, hwaits, hcause⟩
      refine ⟨lookup, List.mem_append_left _ hwaits, hcause.imp_left ?_⟩
      exact And.imp_right (List.mem_append_left _)
    · refine (hraised call fault time hmem).imp_right ?_
      rintro ⟨lookup, hwaits, hcause⟩
      refine ⟨lookup, List.mem_append_left _ hwaits, hcause.imp_left ?_⟩
      exact And.imp_right (List.mem_append_right _)

theorem Explained.begin (h : Explained limits t) (host : String) (filter : FamilyFilter) :
    Explained limits (t.begin limits host filter) := by
  rcases hs : t.resolver.start limits host with ⟨f | found | lookup | lookup, r⟩
  · obtain rfl := fault_of_start hs
    simp only [Traffic.begin, hs]
    refine h.extend rfl (fun w hw => Or.inl hw) fun call fault time hmem => ?_
    cases List.mem_singleton.1 hmem
    exact Or.inl rfl
  · simp only [Traffic.begin, hs]
    refine h.extend rfl (fun w hw => Or.inl hw) fun call fault time hmem => ?_
    cases List.mem_singleton.1 hmem
  · rw [begin_of_joins hs]
    refine h.extend rfl (fun w hw => ?_) fun call fault time hmem => ?_
    · exact (List.mem_append.1 hw).imp_right fun hw => by simp [List.mem_singleton.1 hw]
    · simp at hmem
  · rw [begin_of_starts hs]
    refine h.extend rfl (fun w hw => ?_) fun call fault time hmem => ?_
    · exact (List.mem_append.1 hw).imp_right fun hw => by simp [List.mem_singleton.1 hw]
    · simp at hmem

/-- Those who wait for a look-up have its fault from it, if that strays. -/
theorem Explained.complete (h : Explained limits t) (key : String) (reply : Reply) :
    Explained limits (t.complete limits key reply) := by
  rcases complete_cases limits key reply t with ⟨-, heq⟩ | ⟨lookup, -, heq⟩ <;> rw [heq]
  · exact h
  · refine h.extend rfl (fun w hw => Or.inl (List.mem_filter.1 hw).1) ?_
    intro call fault time hmem
    rcases List.mem_cons.1 hmem with hmem | hmem
    · have hcall := congrArg Event.call? hmem
      rw [Event.call?_ofOutcome] at hcall
      cases hcall
    · obtain ⟨w, hw, hw'⟩ := List.mem_map.1 hmem
      obtain ⟨hwaits, hlookup⟩ := List.mem_filter.1 hw
      rcases hresult : received limits w.call.host w.call.filter (outcomeOf reply) with f | found
        <;> rw [handOver, hresult] at hw' <;> cases hw'
      obtain rfl : w.lookup = lookup := by simpa using hlookup
      rcases strays_of_received hresult with hkind | ⟨hstrays, houtcome⟩
      · exact Or.inl hkind
      · rw [houtcome]
        exact Or.inr ⟨w.lookup, h.waiting w hwaits, Or.inl ⟨hstrays, List.mem_cons_self⟩⟩

theorem Explained.giveUp (h : Explained limits t) (number : Nat) :
    Explained limits (t.giveUp limits number) := by
  rcases giveUp_cases limits number t with heq | ⟨w, hw, -, -, heq⟩ <;> rw [heq]
  · exact h
  · refine h.extend rfl (fun w hw => Or.inl (List.mem_filter.1 hw).1) ?_
    intro call fault time hmem
    cases List.mem_singleton.1 hmem
    rcases hlong : limits.tooLong with _ | _
    · exact Or.inl (isResolution_giveUpFault hlong)
    · exact Or.inr ⟨w.lookup, h.waiting w hw, Or.inr ⟨giveUpFault_of_tooLong hlong, hlong⟩⟩

theorem explained_step (h : Explained limits t) (s : Step) :
    Explained limits (t.step limits s) := by
  cases s with
  | resolve host filter => exact h.begin host filter
  | complete key reply => exact h.complete key reply
  | giveUp number => exact h.giveUp number
  | advance now =>
    rcases advance_cases now t with heq | ⟨-, heq⟩ <;> rw [step, heq] <;>
      exact ⟨h.waiting, h.raised⟩
  | close =>
    refine h.extend rfl (fun w hw => Or.inl hw) fun call fault time hmem => ?_
    cases List.mem_singleton.1 hmem

theorem explained_run (steps : List Step) (h : Explained limits t) :
    Explained limits (t.run limits steps) :=
  run_induction (p := Explained limits) (fun _ s h => explained_step h s) steps h

end Traffic

/-- A call comes to addresses or to a fault of resolution, and what is asked about its addresses is
answered, just when the look-up that it waits for raises no stray fault and the call is not to wait
for too long. When calls overlap, a call that ends with any other fault has waited for a look-up
that ended with it, or was to wait for too long. -/
theorem fails_alike_iff (zones : Zones) (limits : ResolverLimits) (host : String) :
    (∀ (r : Resolver) (filter : FamilyFilter),
      (∀ fault, ((resolve limits host filter).run.run r).1 = .error fault →
        fault.isResolution = true) ↔ ¬Slips limits host r) ∧
    (∀ (settings : Settings) (w : World Resolver) (filter : FamilyFilter) (call : PacScript.Call),
      call.Consults host filter →
      ((∃ v, ((primitives zones limits).answer settings call).Yields w v) ↔
        ¬Slips limits host w.state)) ∧
    (∀ (settings : Settings) (w : World Resolver) (prefixes : String),
      Network.parseList? prefixes = none →
      ((primitives zones limits).answer settings (.isInNetEx host prefixes)).Yields w
        (.bool false)) ∧
    ∀ (r : Resolver) (steps : List Step) (call : Call) (fault : Fault) (time : Binary64),
      let history := ((Traffic.ofResolver r).run limits steps).history
      .raised call fault time ∈ history →
        Traffic.Accounts limits history history call fault time := by
  refine ⟨fun r filter => resolve_fails_alike_iff limits host filter r,
    fun settings w filter call hcall => answered_iff settings hcall,
    fun settings w prefixes hread => ?_, fun r steps => ?_⟩
  · simp only [Primitives.answer, Primitives.isInNetEx, hread]
    rfl
  · exact (Traffic.explained_run steps (Traffic.explained_ofResolver r)).raised

end Resolver

/-- Surroundings in which the look-up of a name raises a fault that is none of the network. -/
def Surroundings.strange : Surroundings where
  replies := [("a", .fails (.foreign (.other "ValueError") (some "odd")))]
  hanging := []
  prompt := []
  hostName := "a"
  outbound := []

namespace Resolver

/-- A stray fault gets through. -/
theorem resolve_strange :
    ((resolve Traffic.minute "a" .every).run.run (.ofSurroundings .strange)).1 =
        .error (.foreign (.other "ValueError") (some "odd")) ∧
      Fault.isResolution (.foreign (.other "ValueError") (some "odd")) = false ∧
      ∀ v, ¬((primitives .universal Traffic.minute).answer .standard (.isResolvable "a")).Yields
        (.ofSettings .standard (.ofSurroundings .strange)) v := by
  have hraises : Raises Traffic.minute "a" (.ofSurroundings .strange)
      (.foreign (.other "ValueError") (some "odd")) := by
    refine ⟨⟨0, "a"⟩, Or.inr ?_, by decide +kernel, ?_⟩
    · have hname : nameOf "a" = "a" := by decide +kernel
      have hparse : Address.parse? "a" = none := by decide +kernel
      have hcached : cached Traffic.minute (keyOf "a") (.ofSurroundings .strange) =
          (none, .ofSurroundings .strange) := by
        unfold cached
        split <;> rfl
      simp only [start, hname, hparse, hcached]
      rfl
    · have hkey : keyOf "a" = "a" := by decide +kernel
      simp only [replyTo, hkey]
      rfl
  have hstrays : Fault.Strays (.foreign (.other "ValueError") (some "odd")) := ⟨rfl, rfl, rfl⟩
  refine ⟨?_, rfl, fun v hv => ?_⟩
  · rw [resolve_run_of_raises hraises, lookupFault_of_strays hstrays]
  · exact (answered_iff .standard .isResolvable).1 ⟨v, hv⟩ (Or.inl ⟨_, hstrays, hraises⟩)

end Resolver

end PacScript
