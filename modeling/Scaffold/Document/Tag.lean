import Scaffold.Document.MomentText
import Scaffold.Text.Classes

/-!
# Kinds of nodes

Every node of a document has a kind, which is written as its tag. A scalar without quotes and without
tag has the first of these kinds that its form allows: truth value, floating-point number, whole
number, nothing, date or time; else it is a text. Two marks that may stand in the place of a key have
kinds of their own: the one that merges other mappings in, and the one for a value that stands for its
mapping.
-/

namespace Scaffold.Document

/-- The kind of a node. -/
inductive Tag where
  /-- Nothing. -/
  | null
  /-- A truth value. -/
  | truth
  /-- A whole number. -/
  | integer
  /-- A floating-point number. -/
  | real
  /-- Bytes in base 64. -/
  | bytes
  /-- A date or time. -/
  | moment
  /-- A text. -/
  | text
  /-- A list. -/
  | list
  /-- A mapping. -/
  | mapping
  /-- A list of pairs. -/
  | pairs
  /-- A set. -/
  | set
  /-- The mark that merges other mappings in. -/
  | merge
  /-- The mark of the value that stands for its mapping. -/
  | default
  /-- A kind that is not known. -/
  | unknown
deriving DecidableEq, Repr

namespace Tag

open Text (isAsciiDigit)

/-- The beginning of the tags of the usual kinds. -/
def usual : String := "tag:yaml.org,2002:"

/-- The kinds that can be asked for, by the ends of their tags. -/
def names : List (String × Tag) :=
  [("null", null), ("bool", truth), ("int", integer), ("float", real), ("binary", bytes),
    ("timestamp", moment), ("str", text), ("seq", list), ("map", mapping), ("omap", pairs),
    ("pairs", pairs), ("set", set), ("merge", merge), ("value", default)]

/-- The kind that a tag names. -/
def ofText (tag : String) : Tag :=
  match names.find? fun (name, _) ↦ usual ++ name = tag with
  | some (_, kind) => kind
  | none => unknown

/-- The words for truth values in their three spellings. -/
def truthWords : List String :=
  ["yes", "Yes", "YES", "no", "No", "NO", "true", "True", "TRUE", "false", "False", "FALSE", "on",
    "On", "ON", "off", "Off", "OFF"]

/-- The words for nothing. -/
def nullWords : List String := ["~", "null", "Null", "NULL"]

/-- A digit or an underscore. -/
def isDigitOrGap (c : Char) : Bool := isAsciiDigit c || c == '_'

/-- A digit below a base of at most ten, or an underscore. -/
def isLowDigitOrGap (base : Nat) (c : Char) : Bool :=
  c == '_' || (isAsciiDigit c && c.toNat < 48 + base)

/-- A hexadecimal digit or an underscore. -/
def isHexDigitOrGap (c : Char) : Bool := (Text.Numeral.digit? 16 c).isSome || c == '_'

/-- The number without its sign. -/
def dropSign : List Char → List Char
  | '+' :: rest => rest
  | '-' :: rest => rest
  | unsigned => unsigned

/-- What stands after groups of sixty, each a colon and one or two digits; none if a colon has no such
digits after it. -/
def dropSixties : List Char → Option (List Char)
  | ':' :: d :: e :: rest =>
    if isLowDigitOrGap 6 d && d != '_' && isAsciiDigit e then dropSixties rest
    else if isAsciiDigit d then dropSixties (e :: rest)
    else none
  | [':', d] => if isAsciiDigit d then some [] else none
  | [':'] => none
  | rest => some rest

/-- A whole number in any of its forms: in base two, eight, ten and sixteen, or in groups of
sixty. -/
def isInteger (chars : List Char) : Bool :=
  match dropSign chars with
  | ['0'] => true
  | '0' :: 'b' :: digits => !digits.isEmpty && digits.all (isLowDigitOrGap 2)
  | '0' :: 'x' :: digits => !digits.isEmpty && digits.all isHexDigitOrGap
  | '0' :: digits => digits.all (isLowDigitOrGap 8)
  | c :: rest => isAsciiDigit c && dropSixties (rest.dropWhile isDigitOrGap) == some []
  | [] => false

/-- An exponent with its sign, or nothing. -/
def isExponent : List Char → Bool
  | [] => true
  | e :: sign :: digits =>
    (e == 'e' || e == 'E') && (sign == '+' || sign == '-') && !digits.isEmpty
      && digits.all isAsciiDigit
  | _ => false

/-- Digits with a point after or among them, and perhaps an exponent. -/
def isPointed : List Char → Bool
  | c :: rest =>
    isAsciiDigit c &&
      match rest.dropWhile isDigitOrGap with
      | '.' :: rest => isExponent (rest.dropWhile isDigitOrGap)
      | _ => false
  | [] => false

/-- A number in groups of sixty with a point at its end or in its last group. -/
def isPointedSixties : List Char → Bool
  | c :: rest =>
    isAsciiDigit c &&
      match rest.dropWhile isDigitOrGap with
      | ':' :: rest =>
        match dropSixties (':' :: rest) with
        | some ('.' :: rest) => rest.all isDigitOrGap
        | _ => false
      | _ => false
  | [] => false

/-- A number that begins with its point. -/
def isFraction : List Char → Bool
  | '.' :: c :: rest => isAsciiDigit c && isExponent (rest.dropWhile isDigitOrGap)
  | _ => false

/-- A floating-point number in any of its forms. -/
def isReal (chars : List Char) : Bool :=
  let size := dropSign chars
  isPointed size || isPointedSixties size || isFraction chars
    || [".inf", ".Inf", ".INF"].contains (String.ofList size)
    || [".nan", ".NaN", ".NAN"].contains (String.ofList chars)

/-- The text without a line break at its end. -/
def dropFinalBreak (chars : List Char) : List Char :=
  if chars.getLast? = some '\n' then chars.dropLast else chars

/-- The kind of a scalar by its form. A line break at its end does not count. -/
def ofPlain (scalar : String) : Tag :=
  let chars := dropFinalBreak scalar.toList
  let word := String.ofList chars
  if scalar.isEmpty || nullWords.contains word then null
  else if truthWords.contains word then truth
  else if isReal chars then real
  else if isInteger chars then integer
  else if MomentText.isUsual chars then moment
  else if word = "<<" then merge
  else if word = "=" then default
  else if ["!", "&", "*"].contains word then unknown
  else text

end Tag

end Scaffold.Document
