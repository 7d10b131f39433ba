import Scaffold.Text.Case

/-!
# Caseless comparison

Two characters agree without regard to case when their small forms are equal, or are two small
letters with the same capital. The pairs and triples of the second kind are few and are listed. A
comparison may also be restricted to ASCII, where only the twenty-six letters have two forms.
-/

namespace Scaffold.Text

/-- The small letters that share their capital with another small letter, in groups. -/
def lowerSiblings : List (List Nat) := [
  [0x69, 0x131], [0x73, 0x17F], [0xB5, 0x3BC], [0x345, 0x3B9, 0x1FBE], [0x390, 0x1FD3],
  [0x3B0, 0x1FE3], [0x3B2, 0x3D0], [0x3B5, 0x3F5], [0x3B8, 0x3D1], [0x3BA, 0x3F0], [0x3C0, 0x3D6],
  [0x3C1, 0x3F1], [0x3C2, 0x3C3], [0x3C6, 0x3D5], [0x432, 0x1C80], [0x434, 0x1C81],
  [0x43E, 0x1C82], [0x441, 0x1C83], [0x442, 0x1C84, 0x1C85], [0x44A, 0x1C86], [0x463, 0x1C87],
  [0x1C88, 0xA64B], [0x1E61, 0x1E9B], [0xFB05, 0xFB06]]

/-- The small letters that agree with the small letter `n`, itself included. -/
def siblings (n : Nat) : List Nat :=
  (lowerSiblings.find? (·.contains n)).getD [n]

/-- How characters are compared. -/
inductive Fold where
  /-- Only equal characters agree. -/
  | exact
  /-- The two forms of an ASCII letter agree. -/
  | ascii
  /-- All forms of a letter agree. -/
  | full
deriving DecidableEq, Repr

namespace Fold

/-- The form of a code point that is compared. -/
def key : Fold → Nat → Nat
  | exact, n => n
  | ascii, n => asciiLowerCode n
  | full, n => lowerCode n

/-- The code point has a form other than itself. -/
def isCased : Fold → Nat → Bool
  | exact, _ => false
  | ascii, n => asciiLowerCode n != n || asciiUpperCode n != n
  | full, n => lowerCode n != n || upperCode n != n

/-- The compared forms that agree with that of `n`. -/
def keys : Fold → Nat → List Nat
  | exact, n => [n]
  | ascii, n => [asciiLowerCode n]
  | full, n => siblings (lowerCode n)

/-- The code point `n` agrees with the expected code point. -/
def agrees (fold : Fold) (expected n : Nat) : Bool :=
  if fold.isCased expected then (fold.keys expected).contains (fold.key n) else expected == n

end Fold

/-- A character agrees with the expected one without regard to case. -/
def agreesCaseless (expected c : Char) : Bool :=
  Fold.full.agrees expected.toNat c.toNat

/-- The text begins with `expected` without regard to case; what follows is returned. -/
def dropCaseless? : (expected text : List Char) → Option (List Char)
  | [], text => some text
  | _ :: _, [] => none
  | e :: expected, c :: text => if agreesCaseless e c then dropCaseless? expected text else none

end Scaffold.Text
