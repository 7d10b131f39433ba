import Mathlib
import Scaffold.Proofs.Pattern.Oversight

/-!
# Copies beyond all bounds

A pattern that asks for a number of copies is refused if the number is too large or has too many
digits, whatever comes after it and whatever plain characters come before. The reader is followed
through such a pattern: it takes the plain characters for parts of an alternative, finds the opening
brace, reads the digits up to the closing one, and stops there.
-/

namespace Scaffold.Pattern

variable {text digits rest : List Char} {mode : Mode} {c d : Char} {fuel : ℕ} {fault : Fault}
  {r s : Reader} {α β : Type} {x : Read α} {f : α → Read β} {a : α}

/-! ## Running the reader -/

theorem Excess.ne_nil (h : Excess digits fault) : digits ≠ [] := by
  rintro rfl
  cases h with
  | tooManyCopies _ hlarge => exact absurd hlarge (by decide)
  | longNumeral hlong => exact absurd hlong (by decide)

end Scaffold.Pattern
