/-!
# Computations that may fail

What two computations, one after the other, come to: a result of both, or the fault of the first
that fails.
-/

namespace PacScript

variable {ε ε' α β : Type} {x : Except ε α} {f : α → Except ε β}

theorem pure_ok_iff {a b : α} : (pure a : Except ε α) = .ok b ↔ b = a := by
  simp [pure, Except.pure, eq_comm]

theorem bind_ok_iff {b : β} : x >>= f = .ok b ↔ ∃ a, x = .ok a ∧ f a = .ok b := by
  cases x <;> simp [bind, Except.bind]

theorem bind_error_iff {e : ε} :
    x >>= f = .error e ↔ x = .error e ∨ ∃ a, x = .ok a ∧ f a = .error e := by
  cases x <;> simp [bind, Except.bind]

theorem map_bind_eq {γ : Type} {g : β → γ} : (x >>= f).map g = x >>= fun a => (f a).map g := by
  cases x <;> rfl

theorem map_error_eq {g : α → β} {e : ε} : (Except.error e : Except ε α).map g = .error e := rfl

theorem ite_ok_iff {c : Prop} [Decidable c] {a b : α} {e : ε} :
    (if c then .ok a else .error e : Except ε α) = .ok b ↔ c ∧ b = a := by
  by_cases hc : c <;> simp [hc, eq_comm]

theorem mapError_ok {g : ε → ε'} {a : α} : (Except.ok a : Except ε α).mapError g = .ok a := rfl

theorem mapError_ok_iff {g : ε → ε'} {a : α} : x.mapError g = .ok a ↔ x = .ok a := by
  rcases x with e | b
  · constructor <;> intro h <;> cases h
  · rw [mapError_ok]
    simp

theorem mapError_error_iff {g : ε → ε'} {e' : ε'} :
    x.mapError g = .error e' ↔ ∃ e, x = .error e ∧ g e = e' := by
  rcases x with e | a
  · have herror : (Except.error e : Except ε α).mapError g = .error (g e) := rfl
    rw [herror]
    simp
  · rw [mapError_ok]
    simp

end PacScript
