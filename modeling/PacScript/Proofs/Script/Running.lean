import PacScript.Script.Library

/-!
# Running calls of a script

A call of a script is run on a session: it has a result or a fault, and leaves a session behind.
`run_bind` and `run_tryCatch` say how such steps follow each other; from them `call_run` and
the two lemmas on `alert` say what a whole call comes to, given what the host answers.
-/

namespace PacScript.Script

section Steps

variable {ε τ α β : Type}

theorem run_bind (x : ExceptT ε (StateM τ) α) (k : α → ExceptT ε (StateM τ) β) (t : τ) :
    (x >>= k).run.run t = match x.run.run t with
      | (.ok a, t') => (k a).run.run t'
      | (.error e, t') => (.error e, t') := by
  show (ExceptT.bindCont k (x.run.run t).1).run (x.run.run t).2 = _
  rcases x.run.run t with ⟨_ | _, _⟩ <;> rfl

theorem run_tryCatch (x : ExceptT ε (StateM τ) α) (h : ε → ExceptT ε (StateM τ) α) (t : τ) :
    (tryCatch x h).run.run t = match x.run.run t with
      | (.ok a, t') => (.ok a, t')
      | (.error e, t') => (h e).run.run t' := by
  show StateT.run (match (x.run.run t).1 with
    | .ok a => pure (.ok a)
    | .error e => (h e).run : StateM τ (Except ε α)) (x.run.run t).2 = _
  rcases x.run.run t with ⟨_ | _, _⟩ <;> rfl

theorem run_ofExcept (r : Except ε α) (t : τ) :
    (MonadExcept.ofExcept r : ExceptT ε (StateM τ) α).run.run t = (r, t) := by
  cases r <;> rfl

theorem run_get (t : τ) : (get : ExceptT ε (StateM τ) τ).run.run t = (.ok t, t) := rfl

theorem run_liftM (x : StateM τ α) (t : τ) :
    (liftM x : ExceptT ε (StateM τ) α).run.run t = (.ok (x.run t).1, (x.run t).2) := rfl

end Steps

variable {σ : Type}

/-- The session with one more record in its log. -/
def Session.logging (s : Session σ) (r : Record) : Session σ :=
  { s with world := { s.world with log := s.world.log ++ [r] } }

namespace Library

variable (l : Library σ)

/-- What a fault of a call leaves of a session: a warning, if the fault deserves one. -/
def afterFault (f : Function) (args : List Value) (fault : Fault) (s : Session σ) : Session σ :=
  match warning? f args fault with
  | none => s
  | some message => s.logging ⟨.warning, .library, message⟩

theorem recover_run (f : Function) (args : List Value) (fault : Fault) (s : Session σ) :
    (recover f args fault : ScriptM σ Value).run.run s =
      (.ok .null, afterFault f args fault s) := by
  unfold recover afterFault
  rcases warning? f args fault with _ | message <;> rfl

theorem call_run {f : Function} (hf : f ≠ .alert) (args : List Value) (s : Session σ) :
    (l.call f args).run.run s = match (l.invoke f args).run.run s with
      | (.ok answer, s') => (delivered f answer, s')
      | (.error fault, s') => (.ok (sentinel f), afterFault f args fault s') := by
  unfold call
  split
  · exact absurd rfl hf
  · rw [run_bind, run_tryCatch]
    rcases (l.invoke _ args).run.run s with ⟨fault | answer, s'⟩
    · simp only [recover_run]
      rfl
    · exact run_ofExcept _ _

theorem send_run (message : Except Fault String) (s : Session σ) :
    ∃ s', (l.send message).run.run s = (.ok .null, s') := by
  rcases message with fault | text
  · exact ⟨s, rfl⟩
  · simp only [send, run_tryCatch, run_bind]
    rcases (l.ask (.alert (.text text))).run.run s with ⟨_ | _, s'⟩ <;> exact ⟨s', rfl⟩

/-- With at most one argument a message is passed on, and whatever comes of that is ignored. -/
theorem alert_run_of_length_le {args : List Value} (h : args.length ≤ 1) (s : Session σ) :
    ∃ s', (l.alert args).run.run s = (.ok .null, s') := by
  unfold alert
  split
  · exact l.send_run _ s
  · exact l.send_run _ s
  · exact l.send_run _ s
  · rename_i h0 _ h1
    rcases args with _ | ⟨v, _ | ⟨w, rest⟩⟩
    · exact absurd rfl h0
    · exact absurd rfl (h1 v)
    · simp at h

theorem alert_run_of_one_lt {args : List Value} (h : 1 < args.length) (s : Session σ) :
    (l.alert args).run.run s = (.error .badCall, s) := by
  unfold alert
  split
  · simp at h
  · simp at h
  · simp at h
  · rfl

end Library

end PacScript.Script
