import Scaffold.Text.Case
import Scaffold.Text.Data.Names
import Scaffold.Text.Numeral
import Scaffold.Text.Split

/-!
# Characters by name

A character can be found by its name, or by one of the further names that some characters have. Most
names stand in tables, where they are spelled with the words of the name before; they are found
whatever the case of their letters. Ideographs are named by their code points, and Hangul syllables
by the letters that they are made of, and these names are in capitals only.
-/

namespace Scaffold.Text

/-! ## Names in tables -/

/-- The number that a small letter in front of a text stands for, and what comes after it. -/
def takeCount : List Char → Nat × List Char
  | [] => (0, [])
  | c :: rest => if isAsciiLower c then (c.toNat - 96, rest) else (0, c :: rest)

/-- The words of a name as it stands in a row, after a name of the words `before`. -/
def nameAfter (before : List (List Char)) (entry : List Char) : List (List Char) :=
  -- after `LATIN CAPITAL LETTER A`, the entry `aSMALLb` is the name `LATIN SMALL LETTER A`
  let (front, rest) := takeCount entry
  let (back, middle) := takeCount rest.reverse
  before.take front ++ (if middle.isEmpty then [] else split [' '] middle.reverse) ++
    before.drop (before.length - back)

/-- The code point that the words name, if the entries are for the code points from `n` on and
follow a name of the words `before`. -/
def findName? (words : List (List Char)) :
    (n : Nat) → (before entries : List (List Char)) → Option Nat
  | _, _, [] => none
  | n, before, entry :: rest =>
    let name := nameAfter before entry
    if name = words then some n else findName? words (n + 1) name rest

/-- The code point of a row that the words name. -/
def Data.NameRow.find? (row : Data.NameRow) (words : List (List Char)) : Option Nat :=
  findName? words row.first [] (row.names.flatMap fun names ↦ split [','] names.toList)

/-- The number that four or five capital digits stand for in base sixteen. -/
def codeInName? (digits : List Char) : Option Nat :=
  if (digits.length = 4 || digits.length = 5)
      && digits.all fun c ↦ isAsciiDigit c || ('A' ≤ c && c ≤ 'F') then
    some (Numeral.ofDigits 16 (digits.filterMap (Numeral.digit? 16)))
  else none

/-- The code point of a row that is named by the stem and the code point, written without zeros in
front. -/
def Data.CodedRow.find? (row : Data.CodedRow) (name : List Char) : Option Nat := do
  let digits ← (row.stem.toList ++ ['-']).isPrefixOf? name
  let code ← codeInName? digits
  if digits.head? ≠ some '0' && row.first ≤ code && code ≤ row.last then some code else none

/-- The tables of names. -/
def nameTables : List (Array Data.NameRow) :=
  [Data.aliasRows, Data.scriptNames, Data.symbolNames, Data.laterScriptNames,
    Data.historicScriptNames, Data.notationNames]

/-- The code point with a name in capitals that stands in a table. -/
def listedName? (name : List Char) : Option Nat :=
  (Data.codedRows.findSome? (·.find? name)).orElse fun _ ↦
    nameTables.findSome? (·.findSome? (·.find? (split [' '] name)))

/-! ## Names by rule -/

/-- The consonants that begin a syllable, the silent one among them. -/
def firstLetters : List String :=
  ["G", "GG", "N", "D", "DD", "R", "M", "B", "BB", "S", "SS", "", "J", "JJ", "C", "K", "T", "P", "H"]

/-- The vowels of syllables. -/
def middleLetters : List String :=
  ["A", "AE", "YA", "YAE", "EO", "E", "YEO", "YE", "O", "WA", "WAE", "OE", "YO", "U", "WEO", "WE",
    "WI", "YU", "EU", "YI", "I"]

/-- What may end a syllable. -/
def lastLetters : List String :=
  ["", "G", "GG", "GS", "N", "NJ", "NH", "D", "L", "LG", "LM", "LB", "LS", "LT", "LP", "LH", "M",
    "B", "BS", "S", "SS", "NG", "J", "C", "K", "T", "P", "H"]

/-- The place of the longest part that the text begins with, and the text after it. -/
def takeLongest? (parts : List String) (text : List Char) : Option (Nat × List Char) :=
  let found := parts.zipIdx.filterMap fun (part, i) ↦
    (part.toList.isPrefixOf? text).map (i, ·)
  found.minOn? (·.2.length)

/-- The code point of the Hangul syllable that is made of the letters. Each of its three parts takes
as many of them as it can. -/
def syllable? (letters : List Char) : Option Nat := do
  let (first, rest) ← takeLongest? firstLetters letters
  let (middle, rest) ← takeLongest? middleLetters rest
  let (last, rest) ← takeLongest? lastLetters rest
  if rest.isEmpty then
    some (0xAC00 + (first * middleLetters.length + middle) * lastLetters.length + last)
  else none

/-- The code point of the character with a name. -/
def codeNamed? (name : List Char) : Option Nat :=
  -- what begins like a name by rule is in no table
  match "HANGUL SYLLABLE ".toList.isPrefixOf? name,
    "CJK UNIFIED IDEOGRAPH-".toList.isPrefixOf? name with
  | some letters, _ => syllable? letters
  | none, some digits => (codeInName? digits).filter Data.unifiedIdeographs.containsCode
  | none, none => listedName? (name.map asciiUpper)

end Scaffold.Text
