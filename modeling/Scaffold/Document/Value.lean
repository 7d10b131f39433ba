import Scaffold.Decimal.Shortest
import Scaffold.Document.Moment
import Scaffold.Text.Numeral

/-!
# Values of documents

What a document says: texts, numbers, truth values, dates, bytes, and lists, mappings and sets of
these. A mapping lists its entries in the order in which their keys first appear, and no two of its
keys are the same; a truth value is the same key as the number one or zero.

Every value can be shown. A text is shown as it is, but in quotes inside other values.
-/

namespace Scaffold.Document

/-- A value. -/
inductive Value where
  /-- Nothing. -/
  | null
  /-- A truth value. -/
  | truth (b : Bool)
  /-- A whole number. -/
  | integer (n : Int)
  /-- A floating-point number. -/
  | real (x : Float)
  /-- A text. -/
  | text (s : String)
  /-- Bytes. -/
  | bytes (bs : List UInt8)
  /-- A date. -/
  | date (d : Date)
  /-- A date and time. -/
  | moment (m : Moment)
  /-- A list. -/
  | list (items : List Value)
  /-- A list of pairs. -/
  | pairs (items : List (Value × Value))
  /-- A mapping. -/
  | mapping (entries : List (Value × Value))
  /-- A set. -/
  | set (members : List Value)
  /-- A list or mapping inside itself. -/
  | inside (isMapping : Bool)
deriving Inhabited

namespace Value

/-- The name of the type of a value. -/
def typeName : Value → String
  | null => "NoneType"
  | truth _ => "bool"
  | integer _ => "int"
  | real _ => "float"
  | text _ => "str"
  | bytes _ => "bytes"
  | date _ => "date"
  | moment _ => "datetime"
  | list _ => "list"
  | pairs _ => "list"
  | mapping _ => "dict"
  | set _ => "set"
  | inside isMapping => if isMapping then "dict" else "list"

/-- The whole number that a floating-point number is, if it is one. -/
def wholeOf? (x : Float) : Option Int :=
  match Decimal.parts x with
  | .finite negative mantissa exponent =>
    let size : Option Nat :=
      if 0 ≤ exponent then some (mantissa * Nat.pow 2 exponent.toNat)
      else if mantissa % Nat.pow 2 (-exponent).toNat = 0 then some (mantissa / Nat.pow 2 (-exponent).toNat)
      else none
    size.map fun n ↦ if negative then -(n : Int) else n
  | _ => none

/-- The number that a truth value or a whole number counts as. -/
def whole? : Value → Option Int
  | truth b => some (if b then 1 else 0)
  | integer n => some n
  | real x => wholeOf? x
  | _ => none

/-- The values are the same as keys. -/
def sameKey : Value → Value → Bool
  | null, null => true
  | text a, text b => a == b
  | bytes a, bytes b => a == b
  | date a, date b => a == b
  | moment a, moment b => a.same b
  | real a, real b => a == b || (a.isNaN && b.isNaN)
  | a, b =>
    match a.whole?, b.whole? with
    | some m, some n => m == n
    | _, _ => false

/-- The entries with the value of a key replaced, or added at the end. -/
def setEntry (key value : Value) : List (Value × Value) → List (Value × Value)
  | [] => [(key, value)]
  | (other, old) :: rest =>
    if other.sameKey key then (other, value) :: rest else (other, old) :: setEntry key value rest

/-- The mapping of a list of entries, later ones winning over earlier ones with the same key. -/
def ofEntries (entries : List (Value × Value)) : Value :=
  mapping (entries.foldl (fun entries (key, value) ↦ setEntry key value entries) [])

/-- The members, each once. -/
def distinct (members : List Value) : List Value :=
  members.foldl (fun seen v ↦ if seen.any (·.sameKey v) then seen else seen ++ [v]) []

/-- The value of the field with the given name. -/
def field? (name : String) : List (Value × Value) → Option Value
  | [] => none
  | (text key, value) :: rest => if key = name then some value else field? name rest
  | _ :: rest => field? name rest

/-- One of some bytes, between quotes. -/
def byteText (quote : Char) (b : UInt8) : String :=
  let c := Char.ofNat b.toNat
  if c = quote || c = '\\' then String.ofList ['\\', c]
  else if c = '\t' then "\\t"
  else if c = '\n' then "\\n"
  else if c = '\r' then "\\r"
  else if 32 ≤ b.toNat && b.toNat < 127 then String.ofList [c]
  else "\\x" ++ String.ofList (Text.Quoted.hex 2 b.toNat)

/-- Bytes in quotes. -/
def bytesText (bs : List UInt8) : String :=
  let quote := Text.Quoted.quoteFor (bs.map fun b ↦ Char.ofNat b.toNat)
  "b" ++ String.ofList [quote] ++ String.join (bs.map (byteText quote)) ++ String.ofList [quote]

mutual

/-- The form of a value inside other values. -/
def detailed : Value → String
  | null => "None"
  | truth b => if b then "True" else "False"
  | integer n => toString n
  | real x => Decimal.text x
  | text s => Text.Quoted.string s
  | bytes bs => bytesText bs
  | date d => d.detailed
  | moment m => m.detailed
  | list items => "[" ++ String.intercalate ", " (detailedAll items) ++ "]"
  | pairs items => "[" ++ String.intercalate ", " (detailedPairs items) ++ "]"
  | mapping entries => "\x7b" ++ String.intercalate ", " (detailedEntries entries) ++ "\x7d"
  | set members =>
    if members.isEmpty then "set()"
    else "\x7b" ++ String.intercalate ", " (detailedAll members) ++ "\x7d"
  | inside isMapping => if isMapping then "\x7b...\x7d" else "[...]"

/-- The forms of values inside other values. -/
def detailedAll : List Value → List String
  | [] => []
  | v :: vs => detailed v :: detailedAll vs

/-- The forms of pairs inside other values. -/
def detailedPairs : List (Value × Value) → List String
  | [] => []
  | (a, b) :: rest => ("(" ++ detailed a ++ ", " ++ detailed b ++ ")") :: detailedPairs rest

/-- The forms of the entries of a mapping. -/
def detailedEntries : List (Value × Value) → List String
  | [] => []
  | (a, b) :: rest => (detailed a ++ ": " ++ detailed b) :: detailedEntries rest

end

/-- The form in which a value is shown. -/
def shown : Value → String
  | text s => s
  | date d => d.text
  | moment m => m.text
  | v => v.detailed

mutual

/-- The value holds a number with more digits than are written. -/
def isUnwritable : Value → Bool
  | integer n => Nat.pow 10 Text.Numeral.digitLimit ≤ n.natAbs
  | list items => anyUnwritable items
  | pairs items => anyUnwritablePair items
  | mapping entries => anyUnwritablePair entries
  | set members => anyUnwritable members
  | _ => false

/-- One of the values holds such a number. -/
def anyUnwritable : List Value → Bool
  | [] => false
  | v :: vs => isUnwritable v || anyUnwritable vs

/-- One of the pairs holds such a number. -/
def anyUnwritablePair : List (Value × Value) → Bool
  | [] => false
  | (a, b) :: rest => isUnwritable a || isUnwritable b || anyUnwritablePair rest

end

/-- Why a value cannot be shown, in words. -/
def unwritableMessage : String :=
  s!"Exceeds the limit ({Text.Numeral.digitLimit} digits) for integer string conversion; " ++
    "use sys.set_int_max_str_digits() to increase the limit"

end Value

end Scaffold.Document
