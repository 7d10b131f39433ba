import Scaffold.Placeholder.Wrapper
import Scaffold.Text.Caseless
import Scaffold.Text.Rule

/-!
# Finding placeholders

A placeholder is an opening delimiter, a name of letters, digits and hyphens, and a closing
delimiter. Letters agree without regard to case, those of the delimiters as well as those that may
stand in a name. A name is as long as it can be with a closing delimiter after it.
-/

namespace Scaffold.Placeholder

/-- A character that may stand in the name of a placeholder: one that agrees with an ASCII letter or
digit or with the hyphen. -/
def isNameChar (c : Char) : Bool :=
  let n := Text.lowerCode c.toNat
  (97 ≤ n && n ≤ 122) || (48 ≤ n && n ≤ 57) || n == 45 || n == 0x131 || n == 0x17F

/-- The longest name, of at most `n` characters, that the closing delimiter follows. -/
def longestName? (closing text : List Char) : (n : Nat) → Option (List Char)
  | 0 => none
  | n + 1 =>
    if (Text.dropCaseless? closing (text.drop (n + 1))).isSome then some (text.take (n + 1))
    else longestName? closing text n

/-- The placeholder at the beginning of a text, which is worth its name. -/
def rule (w : Wrapper) : Text.Rule (List Char) := fun text ↦ do
  let after ← Text.dropCaseless? w.opening.toList text
  let name ← longestName? w.closing.toList after (after.takeWhile isNameChar).length
  return ⟨name, w.opening.length + name.length + w.closing.length - 1⟩

/-- The names of the placeholders in a text, from left to right. -/
def names (w : Wrapper) (text : String) : List String :=
  ((rule w).finds text.toList).map String.ofList

end Scaffold.Placeholder
