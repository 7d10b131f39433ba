import Mathlib
import Scaffold.Proofs.Pattern.Reading
import Scaffold.Proofs.Text.Numeral

/-!
# Why a pattern is refused

Each part of the reader goes on in the text and refuses it only for what is in it. Most parts can
merely find that the text is no pattern. The numbers of copies are read after an opening brace, so
digits that are refused stand in braces; and settings for the whole pattern are noted after they
have been read from their parenthesis on, so they are in the text when they turn out not to agree.
The parts that call each other are treated together, by induction on the fuel that they are given.
-/

namespace Scaffold.Pattern

variable {text before : List Char} {mode : Mode} {c : Char} {fuel : ℕ}
  {α : Type}

/-! ## Escapes and classes -/

/-- The number that digits stand for is their code, but it is not read if they are too many. -/
theorem unsigned_ten (hne : text ≠ []) (h : ∀ c ∈ text, Text.isAsciiDigit c = true) :
    Text.Numeral.unsigned 10 text =
      if text.length ≤ Text.Numeral.digitLimit then .ok (codeOf 10 text)
      else .error (.tooLong text.length) := by
  rw [Text.Numeral.unsigned_ten hne h, ← Text.Numeral.ofDigits_ten, codeOf,
    List.filterMap_congr fun c hc ↦ Text.Numeral.digit?_ten (h c hc), List.filterMap_eq_map']

/-- The number of copies that digits stand for, as it is read between braces. -/
def bound (digits : List Char) : Read ℕ :=
  match Text.Numeral.unsigned 10 digits with
  | .error .malformed => Read.fail
  | .error (.tooLong count) => throw (.longNumeral count)
  | .ok n => if 4294967295 ≤ n then throw .tooManyCopies else return n

end Scaffold.Pattern
