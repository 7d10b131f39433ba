/-!
# Finding and replacing from left to right

A rule looks at what lies ahead in a text and may find something there: how many characters it
covers, and what it is worth. The finds of a rule are those met on the way from left to right, none
overlapping another; replacing puts something in the place of each.
-/

namespace Scaffold.Text

/-- What a rule finds at the beginning of a text. -/
structure Find (α : Type) where
  /-- What it is worth. -/
  value : α
  /-- How many characters it covers, beyond the first. -/
  more : Nat
deriving Repr

/-- A rule for finding things in a text. -/
abbrev Rule (α : Type) := List Char → Option (Find α)

namespace Rule

variable {α : Type}

/-- The finds from left to right, after passing over `skip` characters. -/
def findsFrom (rule : Rule α) : (skip : Nat) → List Char → List α
  | _, [] => []
  | skip + 1, _ :: rest => rule.findsFrom skip rest
  | 0, c :: rest =>
    match rule (c :: rest) with
    | some find => find.value :: rule.findsFrom find.more rest
    | none => rule.findsFrom 0 rest

/-- The finds from left to right. -/
def finds (rule : Rule α) (text : List Char) : List α := rule.findsFrom 0 text

/-- The text with each find replaced, after passing over `skip` characters. -/
def replaceFrom (rule : Rule α) (render : α → List Char) : (skip : Nat) → List Char → List Char
  | _, [] => []
  | skip + 1, _ :: rest => rule.replaceFrom render skip rest
  | 0, c :: rest =>
    match rule (c :: rest) with
    | some find => render find.value ++ rule.replaceFrom render find.more rest
    | none => c :: rule.replaceFrom render 0 rest

/-- The text with each find replaced. -/
def replace (rule : Rule α) (render : α → List Char) (text : List Char) : List Char :=
  rule.replaceFrom render 0 text

end Rule

end Scaffold.Text
