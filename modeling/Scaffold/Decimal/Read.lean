import Scaffold.Text.Numeral

/-!
# Reading decimal numbers

A decimal number is read to the nearest floating-point number: a sign, digits with a point among or
beside them, and an exponent. Single underscores may stand between digits, digits may be of any
script, and there are words for infinity and for what is no number. A number beyond the largest is
infinite.
-/

namespace Scaffold.Decimal

open Text

/-- Digits with single underscores between them, at the front of a text; none if an underscore stands
elsewhere. What follows is returned too. -/
def takeDigits (text : List Char) : Option (List Nat × List Char) :=
  let run := text.takeWhile fun c ↦ isAsciiDigit c || c = '_'
  let rest := text.dropWhile fun c ↦ isAsciiDigit c || c = '_'
  if run.isEmpty then some ([], rest) else (Numeral.digits? 10 run).map (·, rest)

/-- The floating-point number nearest to `digits * 10 ^ power`. -/
def ofScaled (digits : List Nat) (power : Int) : Float :=
  let significant := digits.dropWhile (· = 0)
  let size := significant.length + power
  if significant.isEmpty || size < -400 then 0
  else if 400 < size then 1 / 0
  else
    let n := Numeral.ofDigits 10 significant
    if 0 ≤ power then Float.ofScientific (n * Nat.pow 10 power.toNat) false 0
    else Float.ofScientific n true (-power).toNat

/-- The exponent at the end of a number. -/
def exponent? : List Char → Option Int
  | [] => some 0
  | c :: rest =>
    if c != 'e' && c != 'E' then none
    else
      let (negative, digits) := match rest with
        | '-' :: ds => (true, ds)
        | '+' :: ds => (false, ds)
        | ds => (false, ds)
      match takeDigits digits with
      | some (d :: ds, []) =>
        let n := Numeral.ofDigits 10 (d :: ds)
        some (if negative then -n else n)
      | _ => none

/-- A number without sign. -/
def unsigned? (text : List Char) : Option Float := do
  let word := text.map fun c ↦ if isAsciiUpper c then Char.ofNat (c.toNat + 32) else c
  if word = "inf".toList || word = "infinity".toList then return 1 / 0
  if word = "nan".toList then return 0 / 0
  let (whole, rest) ← takeDigits text
  match rest with
  | '.' :: rest =>
    let (fraction, rest) ← takeDigits rest
    let power ← exponent? rest
    if whole.isEmpty && fraction.isEmpty then none
    else return ofScaled (whole ++ fraction) (power - fraction.length)
  | rest =>
    let power ← exponent? rest
    if whole.isEmpty then none else return ofScaled whole power

/-- A decimal number. -/
def ofText? (text : List Char) : Option Float :=
  match Numeral.trimBlanks (text.map Numeral.simplify) with
  | '-' :: rest => (unsigned? rest).map (- ·)
  | '+' :: rest => unsigned? rest
  | rest => unsigned? rest

end Scaffold.Decimal
