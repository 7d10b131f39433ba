import Scaffold.Text.Quoted

/-!
# Numerals

Reading whole numbers as people and programs write them: blanks around the number, one sign, digits
of any script, and single underscores between digits. In base two, eight and sixteen the usual
mark of the base may stand in front. Numbers in other bases have at most 4300 digits, so that
reading stays cheap.
-/

namespace Scaffold.Text.Numeral

/-- Why a text is no number. -/
inductive Fault where
  /-- The text does not have the form of a number. -/
  | malformed
  /-- The number has more digits than are read. -/
  | tooLong (digits : Nat)
deriving DecidableEq, Repr

/-- The greatest number of digits that is read or written in base ten. -/
def digitLimit : Nat := 4300

/-- Blanks and digits outside ASCII are read as their ASCII counterparts; an ASCII text is left as
it is, so that its separator controls are no blanks. -/
def simplify (c : Char) : Char :=
  if c.toNat < 127 then c
  else if isBlank c then ' '
  else match digitValue? c with
    | some d => Char.ofNat (48 + d)
    | none => '?'

/-- The value of a digit in a base of at most thirty-six. -/
def digit? (base : Nat) (c : Char) : Option Nat :=
  let value :=
    if isAsciiDigit c then c.toNat - 48
    else if isAsciiLower c then c.toNat - 87
    else if isAsciiUpper c then c.toNat - 55
    else base
  if value < base then some value else none

/-- The digits of a number, single underscores between them removed. -/
def digits? (base : Nat) : List Char → Option (List Nat)
  | [] => none
  | [c] => (digit? base c).map ([·])
  | c :: '_' :: rest => do
    let d ← digit? base c
    let ds ← digits? base rest
    return d :: ds
  | c :: rest => do
    let d ← digit? base c
    let ds ← digits? base rest
    return d :: ds

/-- The number that digits stand for, the highest first. -/
def ofDigits (base : Nat) (digits : List Nat) : Nat :=
  digits.foldl (fun n d ↦ n * base + d) 0

/-- The digits without the mark of their base. -/
def dropMark (base : Nat) : List Char → List Char
  | '0' :: c :: rest =>
    if (base = 16 && (c = 'x' || c = 'X')) || (base = 8 && (c = 'o' || c = 'O'))
        || (base = 2 && (c = 'b' || c = 'B')) then
      match rest with
      | '_' :: rest' => rest'
      | _ => rest
    else '0' :: c :: rest
  | text => text

/-- The text without blanks at its ends. -/
def trimBlanks (text : List Char) : List Char :=
  ((text.dropWhile isAsciiBlank).reverse.dropWhile isAsciiBlank).reverse

/-- The bases in which reading and writing take time linear in the number of digits. -/
def isPowerBase (base : Nat) : Bool :=
  base = 2 || base = 4 || base = 8 || base = 16 || base = 32

/-- A number without sign. -/
def unsigned (base : Nat) (text : List Char) : Except Fault Nat :=
  match digits? base (dropMark base text) with
  | none => .error .malformed
  | some digits =>
    if isPowerBase base || digits.length ≤ digitLimit then .ok (ofDigits base digits)
    else .error (.tooLong digits.length)

/-- A whole number in the given base. -/
def integer (base : Nat) (text : List Char) : Except Fault Int :=
  match trimBlanks (text.map simplify) with
  | '-' :: rest => (unsigned base rest).map fun n ↦ -(n : Int)
  | '+' :: rest => (unsigned base rest).map Int.ofNat
  | rest => (unsigned base rest).map Int.ofNat

/-- What is wrong with a text that is no number in the given base, in words. -/
def Fault.message (base : Nat) (text : String) : Fault → String
  | .malformed =>
    let shown := String.ofList ((Quoted.string text).toList.take 200)
    s!"invalid literal for int() with base {base}: {shown}"
  | .tooLong digits =>
    s!"Exceeds the limit ({digitLimit} digits) for integer string conversion: " ++
      s!"value has {digits} digits; use sys.set_int_max_str_digits() to increase the limit"

end Scaffold.Text.Numeral
