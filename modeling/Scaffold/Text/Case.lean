import Scaffold.Text.Classes
import Scaffold.Text.Data.CaseMap
import Scaffold.Text.Data.Cased

/-!
# Case

Lower case and upper case of whole texts, over all of Unicode. A letter may become several
characters, and a capital sigma lowers to its final form at the end of a word, so that lowering
looks at the text around a letter. The maps of single letters are given beside those of texts: they
are what caseless comparison uses.
-/

namespace Scaffold.Text

/-- Membership of a code point in a run. -/
def Data.CaseRow.covers (row : Data.CaseRow) (n : Nat) : Bool :=
  row.first ≤ n && n ≤ row.last && (n - row.first) % row.step == 0

/-- The image of a code point under a table of runs; code points outside every run stay. -/
def Data.CaseRow.move (rows : Array Data.CaseRow) (n : Nat) : Nat :=
  match rows.find? (·.covers n) with
  | some row => ((n : Int) + row.shift).toNat
  | none => n

/-- The small form of a code point among the ASCII letters; others stay. -/
def asciiLowerCode (n : Nat) : Nat :=
  if 65 ≤ n && n ≤ 90 then n + 32 else n

/-- The capital form of a code point among the ASCII letters; others stay. -/
def asciiUpperCode (n : Nat) : Nat :=
  if 97 ≤ n && n ≤ 122 then n - 32 else n

/-- The small form of a code point. -/
def lowerCode (n : Nat) : Nat :=
  if n < 128 then asciiLowerCode n
  else if n = 0x130 then 0x69
  else Data.CaseRow.move Data.lowerRows n

/-- The small form of an ASCII capital; other characters stay. -/
def asciiLower (c : Char) : Char :=
  Char.ofNat (asciiLowerCode c.toNat)

/-- The capital form of an ASCII small letter; other characters stay. -/
def asciiUpper (c : Char) : Char :=
  Char.ofNat (asciiUpperCode c.toNat)

/-- The small form of a single character. -/
def lowerChar (c : Char) : Char :=
  Char.ofNat (lowerCode c.toNat)

/-- The small form of a character away from its neighbours. Only the dotted capital I needs two
characters. -/
def lowerSequence (c : Char) : List Char :=
  if c.toNat = 0x130 then ['i', Char.ofNat 0x307] else [lowerChar c]

/-- The capital form of a code point, which may be several letters. -/
def upperCodes (n : Nat) : List Nat :=
  if n < 128 then [asciiUpperCode n]
  else match Data.upperSequences.find? (·.1 == n) with
    | some (_, codes) => codes
    | none => [Data.CaseRow.move Data.upperRows n]

/-- The first letter of the capital form of a code point. -/
def upperCode (n : Nat) : Nat :=
  (upperCodes n).headD n

/-- The capital form of a character, which may be several letters. -/
def upperSequence (c : Char) : List Char :=
  (upperCodes c.toNat).map Char.ofNat

/-- The first character that is not case-ignorable is cased. -/
def startsCased (text : List Char) : Bool :=
  (text.dropWhile Data.caseIgnorable.contains).head?.any Data.cased.contains

/-- Lower case of a text that follows `before`, whose characters stand nearest first. A capital
sigma takes its final form when a cased letter precedes it and none follows, case-ignorable
characters aside. -/
def lowerAfter : (before text : List Char) → List Char
  | _, [] => []
  | before, c :: rest =>
    (if c.toNat = 0x3A3 then
      [if startsCased before && !startsCased rest then Char.ofNat 0x3C2 else Char.ofNat 0x3C3]
    else lowerSequence c) ++ lowerAfter (c :: before) rest

/-- Lower case of a text. -/
def lower (text : List Char) : List Char :=
  lowerAfter [] text

/-- Upper case of a text. -/
def upper (text : List Char) : List Char :=
  text.flatMap upperSequence

end Scaffold.Text
