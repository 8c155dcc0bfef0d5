import PacScript.Proofs.Script.Running
import Mathlib.Tactic.SplitIfs

/-!
# What a call of a script comes to

A call has a result of its function's type, or else lets a fault through to the script. It does the
latter in two cases only (`call_returns_iff`): a message is passed on with more than one argument,
or the host gives an answer that cannot be made a value of the function's type. Truth values can be
made of every answer, so no predicate ever lets a fault through.
-/

namespace PacScript.Script

/-- The values of a type. -/
inductive HasType : ResultType → Value → Prop
  | bool (b : Bool) : HasType .bool (.bool b)
  | int (n : Int) : HasType .int (.int n)
  | text (s : String) : HasType .text (.text s)
  | nothing : HasType .nothing .null

/-- Whether a host's answer can be made a value of a type. Where there is no answer, the sentinel
takes its place. -/
def Fits : ResultType → Value → Prop
  | _, .null => True
  | .bool, _ => True
  | .int, v => ∃ n, v.toInt = .ok n
  | .text, v => v.isWritable = true
  | .nothing, _ => True

theorem map_ok {α β : Type} {g : α → β} {r : Except Fault α} {b : β} (h : g <$> r = .ok b) :
    ∃ a, r = .ok a ∧ g a = b := by
  rcases r with fault | a
  · cases h
  · cases h
    exact ⟨a, rfl, rfl⟩

theorem written_ok_iff (v : Value) : (∃ s, v.written = .ok s) ↔ v.isWritable = true := by
  unfold Value.written Value.toText
  split_ifs with hw
  · exact ⟨fun _ => hw, fun _ => ⟨_, rfl⟩⟩
  · exact ⟨fun ⟨_, h⟩ => (nomatch h), fun h => absurd h hw⟩

theorem coerce_hasType {type : ResultType} {v w : Value} (h : Library.coerce type v = .ok w) :
    HasType type w := by
  rcases type with _ | _ | _ | _
  · cases h
    exact .bool _
  · obtain ⟨n, -, rfl⟩ := map_ok h
    exact .int n
  · obtain ⟨s, -, rfl⟩ := map_ok h
    exact .text s
  · cases h
    exact .nothing

theorem coerce_ok_iff (type : ResultType) {v : Value} (hv : v ≠ .null) :
    (∃ w, Library.coerce type v = .ok w) ↔ Fits type v := by
  rcases type with _ | _ | _ | _
  · cases v <;> simp [Library.coerce, Fits]
  · have hfits : Fits .int v ↔ ∃ n, v.toInt = .ok n := by
      cases v <;> first | rfl | exact absurd rfl hv
    rw [hfits]
    constructor
    · rintro ⟨w, h⟩
      obtain ⟨n, hn, -⟩ := map_ok h
      rcases hi : v.toInt with fault | m
      · rw [hi] at hn
        cases hn
      · exact ⟨m, rfl⟩
    · rintro ⟨n, hn⟩
      exact ⟨.int n, by simp only [Library.coerce, hn]; rfl⟩
  · have hfits : Fits .text v ↔ ∃ s, v.written = .ok s := by
      rw [written_ok_iff]
      cases v <;> first | rfl | exact absurd rfl hv
    rw [hfits]
    constructor
    · rintro ⟨w, h⟩
      obtain ⟨s, hs, -⟩ := map_ok h
      exact ⟨s, hs⟩
    · rintro ⟨s, hs⟩
      exact ⟨.text s, by simp only [Library.coerce, hs]; rfl⟩
  · cases v <;> simp [Library.coerce, Fits]

theorem sentinel_hasType (f : Function) : HasType f.resultType (Library.sentinel f) := by
  unfold Library.sentinel
  cases f.resultType <;> constructor

theorem delivered_of_ne_null (f : Function) {v : Value} (hv : v ≠ .null) :
    Library.delivered f v = Library.coerce f.resultType v := by
  cases v <;> first | rfl | exact absurd rfl hv

theorem delivered_hasType {f : Function} {answer v : Value}
    (h : Library.delivered f answer = .ok v) : HasType f.resultType v := by
  by_cases ha : answer = .null
  · subst ha
    cases h
    exact sentinel_hasType f
  · rw [delivered_of_ne_null f ha] at h
    exact coerce_hasType h

theorem delivered_ok_iff (f : Function) (answer : Value) :
    (∃ v, Library.delivered f answer = .ok v) ↔ Fits f.resultType answer := by
  by_cases ha : answer = .null
  · subst ha
    exact ⟨fun _ => by cases f.resultType <;> trivial, fun _ => ⟨_, rfl⟩⟩
  · rw [delivered_of_ne_null f ha]
    exact coerce_ok_iff _ ha

variable {σ : Type}

/-- Whatever a host does, a call that returns has a result of its function's type; and it returns
unless it is a message with more than one argument, or the host's answer does not fit. -/
theorem call_returns_iff (l : Library σ) (f : Function) (args : List Value) (s : Session σ) :
    (∀ v, ((l.call f args).run.run s).1 = .ok v → HasType f.resultType v) ∧
    ((∃ v, ((l.call f args).run.run s).1 = .ok v) ↔
      (f = .alert → args.length ≤ 1) ∧
      (f ≠ .alert → ∀ answer, ((l.invoke f args).run.run s).1 = .ok answer →
        Fits f.resultType answer)) := by
  by_cases hf : f = .alert
  · subst hf
    have hcall : (l.call .alert args).run.run s = (l.alert args).run.run s := rfl
    rw [hcall]
    rcases Nat.lt_or_ge 1 args.length with hargs | hargs
    · rw [l.alert_run_of_one_lt hargs s]
      refine ⟨fun v h => (nomatch h), fun ⟨_, h⟩ => (nomatch h), fun h => ?_⟩
      have := h.1 rfl
      omega
    · obtain ⟨s', h⟩ := l.alert_run_of_length_le hargs s
      rw [h]
      refine ⟨fun v hv => ?_, fun _ => ⟨fun _ => hargs, fun hne => absurd rfl hne⟩,
        fun _ => ⟨.null, rfl⟩⟩
      cases hv
      exact .nothing
  · rw [l.call_run hf]
    rcases (l.invoke f args).run.run s with ⟨fault | answer, s'⟩
    · refine ⟨fun v hv => ?_, fun _ => ⟨fun h => absurd h hf, fun _ _ ha => (nomatch ha)⟩,
        fun _ => ⟨_, rfl⟩⟩
      cases hv
      exact sentinel_hasType f
    · refine ⟨fun v hv => delivered_hasType hv, (delivered_ok_iff f answer).trans ?_⟩
      refine ⟨fun h => ⟨fun he => absurd he hf, fun _ a ha => ?_⟩, fun h => h.2 hf answer rfl⟩
      cases ha
      exact h

/-- A host that gives one answer to all questions. -/
def Host.answering (v : Value) : Host Unit := ⟨.standard, fun _ => pure v⟩

/-- The first session of a host without memory, with a clock that shows nothing. -/
def Session.first : Session Unit := ⟨World.ofSettings .standard (), ⟨[], .error .badCall⟩⟩

/-- A text that is no numeral, as the number of levels of a name, and a second argument of a message
come back to the script as faults. -/
theorem call_lets_fault_through :
    (((Library.mk (Host.answering (.text "abc")) .live).call .dnsDomainLevels
      [.text "a"]).run.run Session.first).1 = .error (.coercion .malformed) ∧
    (((Library.mk (Host.answering .null) .live).call .alert
      [.text "a", .text "b"]).run.run Session.first).1 = .error .badCall := by
  refine ⟨?_, ?_⟩
  · rfl
  · rfl

end PacScript.Script
