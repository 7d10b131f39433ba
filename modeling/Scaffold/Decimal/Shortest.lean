/-!
# Shortest decimal text of floating-point numbers

A floating-point number stands for all the reals that round to it. It is written with the fewest
decimal digits that name one of these, and of the numbers with so few digits the one nearest to it.

The search looks at grids of decimal numbers with one, two, and up to seventeen significant digits.
If a point of a grid lies among the reals that round to the number, so does one of the number's two
neighbours on that grid; hence only these two are looked at. All arithmetic is exact.
-/

namespace Scaffold.Decimal

/-- A decimal number: its digits as a whole number, and the power of ten they are multiplied by. -/
structure Scaled where
  /-- The digits. -/
  digits : Nat
  /-- The power of ten. -/
  power : Int
deriving DecidableEq, Repr

/-- The reals that round to a number, in quarters of the unit of its last binary place. -/
structure Interval where
  /-- The number itself. -/
  value : Nat
  /-- The lower end. -/
  low : Nat
  /-- The upper end. -/
  high : Nat
  /-- The ends belong to it. -/
  closed : Bool
  /-- The power of two of a quarter of the unit. -/
  power : Int
deriving Repr

/-- The reals that round to `mantissa * 2 ^ exponent`. Below the least mantissa of a binary order the
numbers lie closer together. -/
def interval (mantissa : Nat) (exponent : Int) : Interval where
  value := 4 * mantissa
  low := if mantissa = Nat.pow 2 52 ∧ -1074 < exponent then 4 * mantissa - 1 else 4 * mantissa - 2
  high := 4 * mantissa + 2
  closed := mantissa % 2 == 0
  power := exponent - 2

/-- `base ^ n` for the positive part of an exponent. -/
def powPart (base : Nat) (n : Int) : Nat := Nat.pow base n.toNat

/-- The factor of a decimal number with the power of ten `k`, when it is compared with a multiple of
the power of two `e`. -/
def decimalFactor (k e : Int) : Nat := powPart 10 k * powPart 2 (-e)

/-- The factor of a multiple of the power of two `e`, when it is compared with a decimal number with
the power of ten `k`. -/
def binaryFactor (k e : Int) : Nat := powPart 2 e * powPart 10 (-k)

/-- The decimal number lies in the interval. -/
def Interval.contains (i : Interval) (d : Scaled) : Bool :=
  let x := d.digits * decimalFactor d.power i.power
  let factor := binaryFactor d.power i.power
  if i.closed then i.low * factor ≤ x && x ≤ i.high * factor
  else i.low * factor < x && x < i.high * factor

/-- The distance of the decimal number from the value, in a unit of its power of ten. -/
def Interval.distance (i : Interval) (d : Scaled) : Nat :=
  let x := d.digits * decimalFactor d.power i.power
  let y := i.value * binaryFactor d.power i.power
  (x - y) + (y - x)

/-- The better of two neighbours on a grid: one in the interval, the nearer of two, the even one of
two equally near. -/
def Interval.choose (i : Interval) (below above : Scaled) : Option Scaled :=
  match i.contains below, i.contains above with
  | false, false => none
  | true, false => some below
  | false, true => some above
  | true, true =>
    if i.distance below < i.distance above then some below
    else if i.distance above < i.distance below then some above
    else if below.digits % 2 = 0 then some below
    else some above

/-- The largest power of ten that is at most the value, near the estimate `k`. -/
def Interval.leadingPower (i : Interval) (k : Int) : Int :=
  let reaches (k : Int) : Bool := decimalFactor k i.power ≤ i.value * binaryFactor k i.power
  if reaches (k + 1) then k + 1 else if reaches k then k else k - 1

/-- The first hit on the grids with `n`, `n + 1`, … significant digits. -/
def Interval.search (i : Interval) (lead : Int) : (fuel n : Nat) → Scaled
  | 0, _ => ⟨0, 0⟩
  | fuel + 1, n =>
    let k := lead - n + 1
    let below := i.value * binaryFactor k i.power / decimalFactor k i.power
    match i.choose ⟨below, k⟩ ⟨below + 1, k⟩ with
    | some d => d
    | none => i.search lead fuel (n + 1)

/-- The shortest decimal number that rounds to `mantissa * 2 ^ exponent`. -/
def shortest (mantissa : Nat) (exponent : Int) : Scaled :=
  let i := interval mantissa exponent
  let estimate := ((Nat.log2 mantissa + exponent) * 30103).fdiv 100000
  i.search (i.leadingPower estimate) 17 1

/-- A floating-point number. -/
inductive Parts where
  /-- Not a number. -/
  | nan
  /-- An infinity. -/
  | infinite (negative : Bool)
  /-- `mantissa * 2 ^ exponent`, with a sign. -/
  | finite (negative : Bool) (mantissa : Nat) (exponent : Int)
deriving DecidableEq, Repr

/-- The parts of a floating-point number. -/
def parts (x : Float) : Parts :=
  let bits := x.toBits.toNat
  let negative := Nat.pow 2 63 ≤ bits
  let order : Nat := bits / Nat.pow 2 52 % Nat.pow 2 11
  let fraction := bits % Nat.pow 2 52
  if order = 2047 then if fraction = 0 then .infinite negative else .nan
  else if order = 0 then .finite negative fraction (-1074)
  else .finite negative (Nat.pow 2 52 + fraction) ((order : Int) - 1075)

/-- Digits without the zeros at their end, which raise the power of ten. -/
def Scaled.trim : (fuel : Nat) → Scaled → Scaled
  | 0, d => d
  | fuel + 1, d =>
    if d.digits % 10 = 0 && d.digits != 0 then Scaled.trim fuel ⟨d.digits / 10, d.power + 1⟩ else d

/-- A decimal number as text: with a point among the digits if its leading power of ten is from -4
to 15, else with an exponent of at least two digits. A whole number written with a point has one zero
after it. -/
def Scaled.text (d : Scaled) : String :=
  let digits := toString d.digits
  let n := digits.length
  let lead := d.power + n - 1
  let zeros (k : Int) := String.ofList (List.replicate k.toNat '0')
  let firstDigits (k : Nat) := String.ofList (digits.toList.take k)
  let lastDigits (k : Nat) := String.ofList (digits.toList.drop k)
  if -4 ≤ lead && lead < 16 then
    if lead < 0 then "0." ++ zeros (-lead - 1) ++ digits
    else if n ≤ lead.toNat + 1 then digits ++ zeros d.power ++ ".0"
    else firstDigits (lead.toNat + 1) ++ "." ++ lastDigits (lead.toNat + 1)
  else
    let mantissa := if n = 1 then digits else firstDigits 1 ++ "." ++ lastDigits 1
    let size := toString lead.natAbs
    mantissa ++ (if lead < 0 then "e-" else "e+") ++ (if size.length < 2 then "0" else "") ++ size

/-- A floating-point number as text. -/
def text (x : Float) : String :=
  match parts x with
  | .nan => "nan"
  | .infinite negative => if negative then "-inf" else "inf"
  | .finite negative mantissa exponent =>
    let body :=
      if mantissa = 0 then "0.0" else ((shortest mantissa exponent).trim 20).text
    if negative then "-" ++ body else body

end Scaffold.Decimal
