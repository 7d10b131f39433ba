import Scaffold.Text.Caseless

/-!
# Tests of single characters

The part of a pattern that looks at one character: a given character, any character, or a member of
a class in brackets. Code points stand for characters, because a class may name code points that no
text holds.

A class compared without regard to case is first closed under the forms of its letters and then
asked about the small form of a character. Beyond the basic plane, single members are not closed,
and ranges are asked about the capital form besides.
-/

namespace Scaffold

namespace Pattern

/-- A kind of characters. -/
inductive Category where
  | digit
  | space
  | word
deriving DecidableEq, Repr

/-- Membership in a category, over ASCII or all of Unicode. -/
def Category.contains (asciiOnly : Bool) (n : Nat) : Category → Bool
  | digit =>
    if asciiOnly then n < 128 && Text.isAsciiDigit (Char.ofNat n) else Text.isDigit (Char.ofNat n)
  | space =>
    if asciiOnly then n < 128 && Text.isAsciiBlank (Char.ofNat n) else Text.isBlank (Char.ofNat n)
  | word => (!asciiOnly || n < 128) && Text.isWord (Char.ofNat n)

/-- A member of a class in brackets. -/
inductive ClassItem where
  /-- One code point. -/
  | code (n : Nat)
  /-- The code points from `lo` to `hi`. -/
  | range (lo hi : Nat)
  /-- The characters of a category, or those outside it. -/
  | category (kind : Category) (negated : Bool)
deriving DecidableEq, Repr

/-- A test of one character. -/
inductive CharTest where
  /-- The character is, or is not, the given one. -/
  | code (n : Nat) (negated : Bool)
  /-- Any character; a line break only if `breaks` is set. -/
  | any (breaks : Bool)
  /-- A member of a class, or a character outside it. -/
  | oneOf (items : List ClassItem) (negated : Bool)
deriving DecidableEq, Repr

/-- The first code point outside the basic plane. -/
def planeSize : Nat := 0x10000

/-- Some member of the run of a case map lies between `lo` and `hi`. -/
def meetsRun (row : Text.Data.CaseRow) (lo hi : Nat) : Bool :=
  let gap := (lo - row.first) % row.step
  let least :=
    if lo ≤ row.first then row.first
    else if gap = 0 then lo
    else lo + (row.step - gap)
  least ≤ row.last && least ≤ hi

/-- Some ASCII letter lies between `lo` and `hi`. -/
def meetsLetters (lo hi : Nat) : Bool :=
  (lo ≤ 90 && 65 ≤ hi) || (lo ≤ 122 && 97 ≤ hi)

/-- Some code point between `lo` and `hi` has several forms. -/
def rangeIsCased (lo hi : Nat) : Text.Fold → Bool
  | .exact => false
  | .ascii => meetsLetters lo hi
  | .full =>
    meetsLetters lo hi
      || (lo ≤ 0x130 && 0x130 ≤ hi)
      || Text.Data.lowerRows.any (meetsRun · lo hi)
      || Text.Data.upperRows.any (meetsRun · lo hi)
      || Text.Data.upperSequences.any fun (n, _) ↦
          lo ≤ n && n ≤ hi && Text.upperCode n != n

/-- The member makes a class depend on case. -/
def ClassItem.isCased (fold : Text.Fold) : ClassItem → Bool
  | code n => fold.isCased n || (fold != .exact && planeSize ≤ n)
  | range lo hi => rangeIsCased lo hi fold || (fold != .exact && planeSize ≤ hi)
  | category _ _ => false

/-- The code points whose small form is `n`. -/
def lowerOrigins (fold : Text.Fold) (n : Nat) : List Nat :=
  let itself := if fold.key n = n then [n] else []
  let capitals :=
    match fold with
    | .exact => []
    | .ascii => if 97 ≤ n && n ≤ 122 then [n - 32] else []
    | .full =>
      (if 97 ≤ n && n ≤ 122 then [n - 32] else [])
        ++ (if n = 0x69 then [0x130] else [])
        ++ Text.Data.lowerRows.toList.filterMap fun row ↦
            let origin := ((n : Int) - row.shift).toNat
            if row.covers origin then some origin else none
  itself ++ capitals

/-- The code points that a class must hold for the small form `n` to be a member. -/
def spellings (fold : Text.Fold) (n : Nat) : List Nat :=
  match fold with
  | .full => (Text.siblings n).flatMap (lowerOrigins .full)
  | _ => lowerOrigins fold n

namespace ClassItem

/-- Membership of a code point as it is. -/
def contains (asciiOnly : Bool) (n : Nat) : ClassItem → Bool
  | code m => m == n
  | range lo hi => lo ≤ n && n ≤ hi
  | category kind negated => kind.contains asciiOnly n != negated

/-- Membership of the small form `n` in the closure of a member under the forms of its letters. -/
def containsFolded (fold : Text.Fold) (asciiOnly : Bool) (n : Nat) : ClassItem → Bool
  | code m => if planeSize ≤ m then m == n else (fold.keys m).contains n
  | range lo hi =>
    ((spellings fold n).any fun m ↦ lo ≤ m && m ≤ hi && m < planeSize)
      || (planeSize ≤ hi
        && ((lo ≤ n && n ≤ hi) || (lo ≤ Text.upperCode n && Text.upperCode n ≤ hi)))
  | category kind negated => kind.contains asciiOnly n != negated

end ClassItem

/-- The character with code point `n` passes the test. -/
def CharTest.accepts (fold : Text.Fold) (asciiOnly : Bool) (n : Nat) : CharTest → Bool
  | code m negated => fold.agrees m n != negated
  | any breaks => breaks || n != 10
  | oneOf items negated =>
    if items.any (·.isCased fold) then
      items.any (·.containsFolded fold asciiOnly (fold.key n)) != negated
    else
      items.any (·.contains asciiOnly n) != negated

end Pattern

end Scaffold
