/-!
# Sets of characters

A set of characters is stored as the increasing sequence of code points at which membership
changes: the first entry is the first member, the second the first non-member after it, and so on.
A character belongs to the set when an odd number of changes lies at or below its code point, and
that number is found by halving.
-/

namespace Scaffold.Text

/-- A set of characters, given by the code points at which membership changes. -/
structure CharSet where
  /-- The changes in increasing order. -/
  changes : Array Nat

namespace CharSet

/-- The number of changes at or below `n`, between the bounds `lo` and `hi`. The fuel `k` limits
the number of halvings. -/
def rank (changes : Array Nat) (n : Nat) : (k lo hi : Nat) → Nat
  | 0, lo, _ => lo
  | k + 1, lo, hi =>
    if lo < hi then
      let mid := (lo + hi) / 2
      if changes[mid]?.any (· ≤ n) then rank changes n k (mid + 1) hi
      else rank changes n k lo mid
    else lo

/-- Membership of a code point. -/
def containsCode (s : CharSet) (n : Nat) : Bool :=
  rank s.changes n 32 0 s.changes.size % 2 == 1

/-- Membership of a character. -/
def contains (s : CharSet) (c : Char) : Bool :=
  s.containsCode c.toNat

end CharSet

end Scaffold.Text
