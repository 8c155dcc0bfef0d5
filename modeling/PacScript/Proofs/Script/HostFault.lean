import Mathlib.Data.List.Basic
import Mathlib.Tactic.ByContra
import PacScript.Proofs.Script.Malformed

/-!
# Faults of the host

A call that is not malformed puts one question to the host (`exists_asks`), and comes to what the
host answers to it (`invoke_run`). When the host fails, the script gets the sentinel. That the host
is to blame is reported unless the fault is of a kind that the arguments of a script can have as
well: then the script is blamed, or nothing is said at all (`host_fault_warned_iff`).
-/

namespace PacScript.Script

variable {σ : Type} {f : Function} {args : List Value} {c : Call} {s s' : Session σ} {fault : Fault}

namespace Library

/-- A call of a script puts the question to the host in the session `s'`. The clock has been read by
then if the question is about an instant. -/
inductive Asks (l : Library σ) (s : Session σ) :
    Function → List Value → Call → Session σ → Prop
  | isPlainHostName (host : String) :
    Asks l s .isPlainHostName [.text host] (.isPlainHostName host) s
  | dnsDomainIs (host domain : String) :
    Asks l s .dnsDomainIs [.text host, .text domain] (.dnsDomainIs host domain) s
  | localHostOrDomainIs (host hostDomain : String) :
    Asks l s .localHostOrDomainIs [.text host, .text hostDomain]
      (.localHostOrDomainIs host hostDomain) s
  | isResolvable (host : String) : Asks l s .isResolvable [.text host] (.isResolvable host) s
  | isInNet (host pattern mask : String) :
    Asks l s .isInNet [.text host, .text pattern, .text mask] (.isInNet host pattern mask) s
  | dnsResolve (host : String) : Asks l s .dnsResolve [.text host] (.dnsResolve host) s
  | myIpAddress : Asks l s .myIpAddress [] .myIpAddress s
  | dnsDomainLevels (host : String) :
    Asks l s .dnsDomainLevels [.text host] (.dnsDomainLevels host) s
  | shExpMatch (text expression : String) :
    Asks l s .shExpMatch [.text text, .text expression] (.shExpMatch text expression) s
  | isResolvableEx (host : String) :
    Asks l s .isResolvableEx [.text host] (.isResolvableEx host) s
  | isInNetEx (host prefixes : String) :
    Asks l s .isInNetEx [.text host, .text prefixes] (.isInNetEx host prefixes) s
  | dnsResolveEx (host : String) : Asks l s .dnsResolveEx [.text host] (.dnsResolveEx host) s
  | myIpAddressEx : Asks l s .myIpAddressEx [] .myIpAddressEx s
  | sortIpAddressList (addresses : String) :
    Asks l s .sortIpAddressList [.text addresses] (.sortIpAddressList addresses) s
  | getClientVersion : Asks l s .getClientVersion [] .clientVersion s
  | weekdayRange {args : List Value} {range : WeekdayRange} {now : Instant} {s' : Session σ}
    (hcount : args.length ≤ 3) (hrange : WeekdayRange.ofArgs args = .ok range)
    (hclock : (readClock l.clock).run.run s = (.ok now, s')) :
    Asks l s .weekdayRange args (.weekdayRange range now) s'
  | dateRange {args : List Value} {range : DateRange} {now : Instant} {s' : Session σ}
    (hcount : args.length ≤ 7) (hrange : DateRange.ofArgs args = .ok range)
    (hclock : (readClock l.clock).run.run s = (.ok now, s')) :
    Asks l s .dateRange args (.dateRange range now) s'
  | timeRange {args : List Value} {range : TimeRange} {now : Instant} {s' : Session σ}
    (hcount : args.length ≤ 7) (hrange : TimeRange.ofArgs args = .ok range)
    (hclock : (readClock l.clock).run.run s = (.ok now, s')) :
    Asks l s .timeRange args (.timeRange range now) s'

variable {l : Library σ}

/-! ## Calls that are not malformed -/

theorem askAbout_run {ρ : Type} (range : ρ) (question : ρ → Instant → Call) {now : Instant}
    (hclock : (readClock l.clock).run.run s = (.ok now, s')) :
    (l.askAbout (.ok range) question).run.run s = (l.ask (question range now)).run.run s' := by
  show (readClock l.clock >>= fun i => l.ask (question range i)).run.run s = _
  rw [run_bind, hclock]

theorem Asks.invoke_run (h : Asks l s f args c s') :
    (l.invoke f args).run.run s = (l.ask c).run.run s' := by
  cases h with
  | weekdayRange hcount hrange hclock | dateRange hcount hrange hclock
  | timeRange hcount hrange hclock =>
    simp only [invoke, hrange, if_pos hcount]
    exact askAbout_run _ _ hclock
  | _ => rfl

theorem exists_texts : ∀ {args : List Value}, (∀ v ∈ args, ¬NoText v) →
    ∃ texts : List String, args = texts.map .text
  | [], _ => ⟨[], rfl⟩
  | v :: rest, h => by
    obtain ⟨texts, rfl⟩ := exists_texts fun u hu => h u (List.mem_cons_of_mem v hu)
    have htext : ∃ s, v = .text s := by
      by_contra hnone
      exact h v List.mem_cons_self fun s hs => hnone ⟨s, hs⟩
    obtain ⟨s, rfl⟩ := htext
    exact ⟨s :: texts, rfl⟩

/-- Texts that are as many as a function takes are those of a question. -/
theorem exists_asks_of_texts (l : Library σ) (s : Session σ) (hf : f ≠ .alert)
    (htemporal : f.isTemporal = false) {texts : List String} (hcount : texts.length = f.arity) :
    ∃ c, Asks l s f (texts.map .text) c s := by
  cases f with
  | alert => exact absurd rfl hf
  | weekdayRange | dateRange | timeRange => cases htemporal
  | myIpAddress | myIpAddressEx | getClientVersion =>
    obtain rfl := List.length_eq_zero_iff.1 hcount
    exact ⟨_, by constructor⟩
  | dnsDomainIs | localHostOrDomainIs | shExpMatch | isInNetEx =>
    obtain ⟨a, b, rfl⟩ := List.length_eq_two.1 hcount
    exact ⟨_, by constructor⟩
  | isInNet =>
    obtain ⟨host, pattern, mask, rfl⟩ := List.length_eq_three.1 hcount
    exact ⟨_, .isInNet host pattern mask⟩
  | _ =>
    obtain ⟨a, rfl⟩ := List.length_eq_one_iff.1 hcount
    exact ⟨_, by constructor⟩

/-- A temporal call whose arguments its parser accepts asks about the instant that the clock
shows. -/
theorem exists_asks_of_range (htemporal : f.isTemporal = true) (hcount : f.Takes args.length)
    (hread : ∀ cause, ¬Refuses f args cause) {now : Instant}
    (hclock : (readClock l.clock).run.run s = (.ok now, s')) : ∃ c, Asks l s f args c s' := by
  cases f with
  | weekdayRange =>
    rcases hrange : WeekdayRange.ofArgs args with cause | range
    · exact absurd (.weekdays hrange) (hread cause)
    · exact ⟨_, .weekdayRange hcount hrange hclock⟩
  | dateRange =>
    rcases hrange : DateRange.ofArgs args with cause | range
    · exact absurd (.dates hrange) (hread cause)
    · exact ⟨_, .dateRange hcount hrange hclock⟩
  | timeRange =>
    rcases hrange : TimeRange.ofArgs args with cause | range
    · exact absurd (.times hrange) (hread cause)
    · exact ⟨_, .timeRange hcount hrange hclock⟩
  | _ => cases htemporal

/-- A call that is not malformed asks the host something, if it needs no clock that
shows nothing. -/
theorem exists_asks (l : Library σ) (s : Session σ) (hf : f ≠ .alert) (hfit : ¬Unfit f args)
    (hread : ∀ cause, ¬Refuses f args cause)
    (hclock : f.isTemporal = true → ∃ now s', (readClock l.clock).run.run s = (.ok now, s')) :
    ∃ c s', Asks l s f args c s' := by
  have hcount : f.Takes args.length := by
    by_contra hcount
    exact hfit (.count hcount)
  rcases htemporal : f.isTemporal with _ | _
  · have htexts : ∀ v ∈ args, ¬NoText v := fun v hv hno => hfit (.kind htemporal ⟨v, hv, hno⟩)
    obtain ⟨texts, rfl⟩ := exists_texts htexts
    rw [List.length_map, Function.Takes, htemporal] at hcount
    obtain ⟨c, hasks⟩ := exists_asks_of_texts l s hf htemporal hcount
    exact ⟨c, s, hasks⟩
  · obtain ⟨now, s', hclock⟩ := hclock htemporal
    obtain ⟨c, hasks⟩ := exists_asks_of_range htemporal hcount hread hclock
    exact ⟨c, s', hasks⟩

/-! ## Reports -/

/-- The report that the host is to blame for what came of a call. -/
def hostReport (f : Function) (args : List Value) : Record :=
  ⟨.warning, .library, hostWarning f args⟩

/-- The report that the arguments of a script are to blame. -/
def scriptReport (f : Function) (args : List Value) (fault : Fault) : Record :=
  ⟨.warning, .library, scriptWarning f args fault⟩

/-- What is reported about a fault of a call. -/
def reports (f : Function) (args : List Value) (fault : Fault) : List Record :=
  if fault.isBadCall then [] else if fault.isPeriod then [scriptReport f args fault]
  else [hostReport f args]

theorem afterFault_eq (f : Function) (args : List Value) (fault : Fault) (s : Session σ) :
    afterFault f args fault s =
      { s with world := { s.world with log := s.world.log ++ reports f args fault } } := by
  unfold afterFault warning? reports
  cases fault.isBadCall
  · cases fault.isPeriod
    · rfl
    · rfl
  · simp

theorem hostReport_ne_scriptReport (f : Function) (args : List Value) (fault : Fault) :
    hostReport f args ≠ scriptReport f args fault := by
  intro h
  -- the two texts differ in their first letter
  have htexts := congrArg (fun r => r.message.toList.head?) h
  simp only [hostReport, scriptReport, hostWarning, scriptWarning] at htexts
  split at htexts <;> simp at htexts

theorem reports_eq_hostReport_iff :
    reports f args fault = [hostReport f args] ↔
      fault.isBadCall = false ∧ fault.isPeriod = false := by
  unfold reports
  cases fault.isBadCall
  · cases fault.isPeriod
    · simp
    · simp [(hostReport_ne_scriptReport f args fault).symm]
  · simp

theorem Asks.call_run_of_error (h : Asks l s f args c s') (hf : f ≠ .alert) {w : World σ}
    (hfault : (l.host.answer c).run.run s'.world = (.error fault, w)) :
    (l.call f args).run.run s = (.ok (sentinel f),
      { s' with world := { w with log := w.log ++ reports f args fault } }) := by
  have hask : (l.ask c).run.run s' = (.error fault, { s' with world := w }) := by
    show (Prod.map id (fun world => { s' with world }) ((l.host.answer c).run.run s'.world)) = _
    rw [hfault]
    rfl
  rw [l.call_run hf, h.invoke_run, hask]
  simp only [afterFault_eq]

/-- Whatever the host is, a call that is not malformed asks it one question. If it fails, with any
fault at all, the script gets the sentinel, and nothing else is left behind but a report. The report
is that the host failed unless the fault could be one of the arguments: it blames the script for a
fault about a period, and it is left out for a fault about a call. -/
theorem host_fault_warned_iff (l : Library σ) (s : Session σ) (hf : f ≠ .alert)
    (hfit : ¬Unfit f args) (hread : ∀ cause, ¬Refuses f args cause)
    (hclock : f.isTemporal = true → ∃ now s', (readClock l.clock).run.run s = (.ok now, s')) :
    ∃ c s', Asks l s f args c s' ∧
      ∀ fault w, (l.host.answer c).run.run s'.world = (.error fault, w) →
        ∃ added, (l.call f args).run.run s =
            (.ok (sentinel f), { s' with world := { w with log := w.log ++ added } }) ∧
          (added = [hostReport f args] ↔ fault.isBadCall = false ∧ fault.isPeriod = false) ∧
          (fault.isBadCall = true → added = []) ∧
          (fault.isBadCall = false → fault.isPeriod = true →
            added = [scriptReport f args fault]) := by
  obtain ⟨c, s', hasks⟩ := exists_asks l s hf hfit hread hclock
  refine ⟨c, s', hasks, fun fault w hfault => ?_⟩
  refine ⟨reports f args fault, hasks.call_run_of_error hf hfault, reports_eq_hostReport_iff,
    fun hbad => ?_, fun hbad hperiod => ?_⟩
  · rw [reports, if_pos hbad]
  · rw [reports, hbad, hperiod]
    rfl

end Library

/-- A host that fails whatever it is asked. -/
def Host.failing (fault : Fault) : Host Unit := ⟨.standard, fun _ => throw fault⟩

/-- A session of a host without memory at the end of a February. -/
def Session.leapDay (log : List Record) : Session Unit :=
  ⟨{ World.ofSettings .standard () with log },
    ⟨[], .ok (Instant.ofParts ⟨2024, 2, 29⟩ 0 0 (some 0))⟩⟩

namespace Library

/-- A host that is down when it is asked about the days of a week. -/
theorem host_fault_warned_iff_week :
    let l : Library Unit := ⟨Host.failing (.foreign .general (some "down")), .live⟩
    Function.weekdayRange ≠ .alert ∧ ¬Unfit .weekdayRange [.text "MON", .text "FRI"] ∧
    (∀ cause, ¬Refuses .weekdayRange [.text "MON", .text "FRI"] cause) ∧
    (l.call .weekdayRange [.text "MON", .text "FRI"]).run.run (.leapDay []) = (.ok (.bool false),
      .leapDay [⟨.warning, .library, "Host provider failed in weekdayRange() ('MON', 'FRI')"⟩]) := by
  intro l
  have hf : Function.weekdayRange ≠ .alert := by decide
  have hfit : ¬Unfit .weekdayRange [.text "MON", .text "FRI"] := by
    rintro (hcount | ⟨htexts, -⟩)
    · exact hcount (by simp [Function.Takes, Function.isTemporal, Function.arity])
    · cases htexts
  have hread : ∀ cause, ¬Refuses .weekdayRange [.text "MON", .text "FRI"] cause := by
    rintro cause ⟨h⟩
    have hread : (WeekdayRange.ofArgs [.text "MON", .text "FRI"]).isOk = true := by decide +kernel
    rw [h] at hread
    cases hread
  obtain ⟨c, s', hasks, hfails⟩ := host_fault_warned_iff l (.leapDay []) hf hfit hread
    fun _ => ⟨_, _, rfl⟩
  obtain ⟨added, hcall, hadded, -, -⟩ := hfails _ _ rfl
  refine ⟨hf, hfit, hread, ?_⟩
  obtain rfl := hadded.2 ⟨rfl, rfl⟩
  rw [hcall]
  cases hasks with
  | weekdayRange _ _ hclock =>
    cases hclock
    rfl

/-- Nothing is reported of a host that fails as if it had been called in a wrong way, and the script
is blamed for a host that fails as if a period had been faulty. -/
theorem host_fault_silent :
    ¬Unfit .dnsResolve [.text "a"] ∧ (∀ cause, ¬Refuses .dnsResolve [.text "a"] cause) ∧
    ((Library.mk (Host.failing (.foreign .badCall (some "down"))) .live).call .dnsResolve
      [.text "a"]).run.run (.leapDay []) = (.ok (.text ""), .leapDay []) ∧
    ((Library.mk (Host.failing (.foreign .period (some "down"))) .live).call .dnsResolve
      [.text "a"]).run.run (.leapDay []) = (.ok (.text ""), .leapDay [⟨.warning, .library,
        "PAC script error: arguments passed to dnsResolve() ('a',) are faulty: down"⟩]) := by
  have hfit : ¬Unfit .dnsResolve [.text "a"] := by
    rintro (hcount | ⟨-, v, hv, hno⟩)
    · exact hcount rfl
    · exact hno "a" (List.mem_singleton.1 hv)
  exact ⟨hfit, fun _ h => (nomatch h), rfl, rfl⟩

end Library

end PacScript.Script
