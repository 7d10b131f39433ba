import Scaffold.Decimal.Read
import Scaffold.Document.Tag
import Scaffold.Document.Token.Basic
import Scaffold.Document.Value
import Scaffold.Text.Case

/-!
# The values of scalars

What a scalar of each kind says. The kind may have been asked for by a tag, so the text of a scalar
need not have a form that its kind allows.
-/

namespace Scaffold.Document

/-- Why a text is no document with a value. -/
inductive ReadFault where
  /-- The text does not have the form of a document, or a node does not fit its kind. -/
  | malformed
  /-- An escape names a code point that does not exist. -/
  | noCodePoint (code : Nat)
  /-- A text is no truth value. -/
  | noTruth (text : String)
  /-- A number has no digits. -/
  | noDigits
  /-- A text is no whole number in a base. -/
  | noInteger (base : Nat) (text : String) (fault : Text.Numeral.Fault)
  /-- A text is no floating-point number. -/
  | noReal (text : String)
  /-- A text is no date or time. -/
  | noMoment
  /-- A mapping is no date or time. -/
  | mappingMoment
  /-- There is no such date or time. -/
  | badMoment (fault : MomentFault)
deriving DecidableEq, Repr

/-- The fault of a text that has no tokens. -/
def ReadFault.ofScan (fault : ScanFault) : ReadFault :=
  match fault with
  | .malformed => malformed
  | .noCodePoint code => noCodePoint code

/-- Why a text has no value, in words. -/
def ReadFault.message : ReadFault → String
  | malformed => ""
  | noCodePoint code =>
    if code ≤ 0x7FFFFFFF then "chr() arg not in range(0x110000)"
    else "Python int too large to convert to C int"
  | noTruth text => Text.Quoted.string text
  | noDigits => "string index out of range"
  | noInteger base text fault => fault.message base text
  | noReal text => s!"could not convert string to float: {Text.Quoted.string text}"
  | noMoment => "'NoneType' object has no attribute 'groupdict'"
  | mappingMoment => "expected string or bytes-like object, got 'list'"
  | badMoment fault => fault.message

namespace Scalar

/-- A truth value. -/
def truth (text : String) : Except ReadFault Bool :=
  let word := String.ofList (Text.lower text.toList)
  if ["yes", "true", "on"].contains word then .ok true
  else if ["no", "false", "off"].contains word then .ok false
  else .error (.noTruth word)

/-- A number without the underscores in it. -/
def dropGaps (text : String) : List Char := text.toList.filter (· != '_')

/-- A whole number, in a base. -/
def integerIn (base : Nat) (digits : List Char) : Except ReadFault Int :=
  (Text.Numeral.integer base digits).mapError (.noInteger base (String.ofList digits))

/-- The number that groups of sixty make. -/
def ofSixties (groups : List Int) : Int := groups.foldl (fun n d ↦ n * 60 + d) 0

/-- A whole number without sign, in the base that its beginning shows. -/
def unsigned (digits : List Char) : Except ReadFault Int :=
  match digits with
  | [] => .error .noDigits
  | ['0'] => .ok 0
  | '0' :: 'b' :: rest => integerIn 2 rest
  | '0' :: 'x' :: rest => integerIn 16 rest
  | '0' :: _ => integerIn 8 digits
  | _ =>
    if digits.contains ':' then
      ofSixties <$> (digits.splitOn ':').mapM (integerIn 10)
    else integerIn 10 digits

/-- A whole number. -/
def integer (text : String) : Except ReadFault Int :=
  match dropGaps text with
  | [] => .error .noDigits
  | '-' :: digits => (- ·) <$> unsigned digits
  | '+' :: digits => unsigned digits
  | digits => unsigned digits

/-- A floating-point number in decimals. -/
def decimal (digits : List Char) : Except ReadFault Float :=
  match Decimal.ofText? digits with
  | some x => .ok x
  | none => .error (.noReal (String.ofList digits))

/-- The floating-point number that groups of sixty make, the last one first. -/
def realOfSixties (groups : List Float) : Float :=
  (groups.foldl (fun (sum, base) d ↦ (sum + d * Float.ofNat base, base * 60)) (0, 1)).1

/-- A floating-point number without sign. -/
def unsignedReal (digits : List Char) : Except ReadFault Float :=
  if digits = ".inf".toList then .ok (1 / 0)
  else if digits = ".nan".toList then .ok (0 / 0)
  else if digits.contains ':' then
    (fun groups ↦ realOfSixties groups.reverse) <$> (digits.splitOn ':').mapM decimal
  else decimal digits

/-- A floating-point number. -/
def real (text : String) : Except ReadFault Float :=
  match Text.lower (dropGaps text) with
  | [] => .error .noDigits
  | '-' :: digits => (- ·) <$> unsignedReal digits
  | '+' :: digits => unsignedReal digits
  | digits => unsignedReal digits

/-- The value of a digit in base 64. -/
def sextet? (c : Char) : Option Nat :=
  if Text.isAsciiUpper c then some (c.toNat - 65)
  else if Text.isAsciiLower c then some (c.toNat - 71)
  else if Text.isAsciiDigit c then some (c.toNat + 4)
  else if c = '+' then some 62
  else if c = '/' then some 63
  else none

/-- The bytes that up to four digits in base 64 hold in full. -/
def bytesOf : List Nat → List UInt8
  | [a, b] => [UInt8.ofNat (a * 4 + b / 16)]
  | [a, b, c] => [UInt8.ofNat (a * 4 + b / 16), UInt8.ofNat (b % 16 * 16 + c / 4)]
  | [a, b, c, d] =>
    [UInt8.ofNat (a * 4 + b / 16), UInt8.ofNat (b % 16 * 16 + c / 4), UInt8.ofNat (c % 4 * 64 + d)]
  | _ => []

/-- Bytes in base 64, after some digits of a group of four and some signs that fill it up. Other
characters do not count. -/
def base64 (group : List Nat) (filled : Nat) : List Char → Option (List UInt8)
  | [] => if group.isEmpty then some [] else none
  | c :: rest =>
    if c = '=' then
      if 2 ≤ group.length then
        if 4 ≤ group.length + filled + 1 then some (bytesOf group)
        else base64 group (filled + 1) rest
      else base64 group filled rest
    else
      match sextet? c with
      | none => base64 group filled rest
      | some d =>
        if group.length = 3 then (base64 [] 0 rest).map (bytesOf (group ++ [d]) ++ ·)
        else base64 (group ++ [d]) 0 rest

/-- Bytes in base 64, written in ASCII. -/
def bytes (text : String) : Except ReadFault (List UInt8) :=
  if text.toList.all fun c ↦ c.toNat < 128 then
    match base64 [] 0 text.toList with
    | some bs => .ok bs
    | none => .error .malformed
  else .error .malformed

/-- A date, or a moment if the time of day is written. -/
def moment (text : String) : Except ReadFault Value :=
  match MomentText.ofText? (Tag.dropFinalBreak text.toList) with
  | none => .error .noMoment
  | some ⟨year, month, day, none⟩ =>
    (.date <$> Date.make year month day).mapError .badMoment
  | some ⟨year, month, day, some t⟩ =>
    (.moment <$> Moment.make (year, month, day) t.hour t.minute t.second
      (MomentText.micro t.fraction) t.offset).mapError .badMoment

end Scalar

namespace Value

/-- The value of a scalar of a kind. Other kinds have no scalars. -/
def ofScalar (tag : Tag) (text : String) : Except ReadFault Value :=
  match tag with
  | .null => .ok .null
  | .truth => .truth <$> Scalar.truth text
  | .integer => .integer <$> Scalar.integer text
  | .real => .real <$> Scalar.real text
  | .bytes => .bytes <$> Scalar.bytes text
  | .moment => Scalar.moment text
  | .text => .ok (.text text)
  | _ => .error .malformed

end Value

end Scaffold.Document
