import Mathlib
import Scaffold.Traced

/-!
# Outcomes of traced computations

The outcome of a computation that is made of others is decided by their outcomes alone.
-/

theorem Except.mapError_eq_ok_iff {ε ε' α : Type} {f : ε → ε'} {x : Except ε α} {a : α} :
    x.mapError f = .ok a ↔ x = .ok a := by
  cases x <;> simp [Except.mapError]

theorem Except.mapError_eq_error_iff {ε ε' α : Type} {f : ε → ε'} {x : Except ε α} {e' : ε'} :
    x.mapError f = .error e' ↔ ∃ e, x = .error e ∧ f e = e' := by
  cases x <;> simp [Except.mapError]

theorem Except.map_eq_ok_iff {ε α β : Type} {f : α → β} {x : Except ε α} {b : β} :
    x.map f = .ok b ↔ ∃ a, x = .ok a ∧ f a = b := by
  cases x <;> simp [Except.map]

theorem Except.map_eq_error_iff {ε α β : Type} {f : α → β} {x : Except ε α} {e : ε} :
    x.map f = .error e ↔ x = .error e := by
  cases x <;> simp [Except.map]

namespace Scaffold.Traced

variable {ω ε α β : Type} {x : Traced ω ε α} {f : α → Traced ω ε β}

theorem outcome_andThen : (x.andThen f).outcome = x.outcome.bind fun a ↦ (f a).outcome := by
  rw [andThen]
  cases x.outcome <;> rfl

theorem outcome_bind_eq_ok_iff {b : β} :
    (x >>= f).outcome = .ok b ↔ ∃ a, x.outcome = .ok a ∧ (f a).outcome = .ok b := by
  change (x.andThen f).outcome = _ ↔ _
  rw [andThen]
  cases x.outcome <;> simp

theorem outcome_bind_eq_error_iff {e : ε} :
    (x >>= f).outcome = .error e ↔
      x.outcome = .error e ∨ ∃ a, x.outcome = .ok a ∧ (f a).outcome = .error e := by
  change (x.andThen f).outcome = _ ↔ _
  rw [andThen]
  cases x.outcome <;> simp

end Scaffold.Traced
