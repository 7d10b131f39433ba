/-!
# Tokens of documents

A document is written in YAML 1.1, of which JSON is a part as far as configurations go. Its tokens are
the marks that open, divide and close lists and mappings, in brackets or by indentation, and the
scalars, anchors, aliases and tags between them.
-/

namespace Scaffold.Document

/-- Why a text is no document, as far as single characters are concerned. -/
inductive ScanFault where
  /-- The text does not have the form of a document. -/
  | malformed
  /-- An escape names a code point that does not exist. -/
  | noCodePoint (code : Nat)
deriving DecidableEq, Repr

/-- A token. -/
inductive Token where
  /-- The version of the format, by its major number. -/
  | version (major : Nat)
  /-- An abbreviation for the beginnings of tags. -/
  | tagHandle (handle start : String)
  /-- Another directive. -/
  | directive
  /-- The mark that opens a document. -/
  | documentStart
  /-- The mark that closes a document. -/
  | documentEnd
  /-- The beginning of a list by indentation. -/
  | blockSequenceStart
  /-- The beginning of a mapping by indentation. -/
  | blockMappingStart
  /-- The end of a list or mapping by indentation. -/
  | blockEnd
  /-- The hyphen before an item. -/
  | blockEntry
  /-- An opening square bracket. -/
  | flowSequenceStart
  /-- A closing square bracket. -/
  | flowSequenceEnd
  /-- An opening curly bracket. -/
  | flowMappingStart
  /-- A closing curly bracket. -/
  | flowMappingEnd
  /-- A comma. -/
  | flowEntry
  /-- The beginning of a key. -/
  | key
  /-- The colon after a key. -/
  | value
  /-- A reference to a node. -/
  | alias (name : String)
  /-- The name of the node that follows. -/
  | anchor (name : String)
  /-- The tag of the node that follows: the handle, if there is one, and the rest. -/
  | tag (handle : Option String) (suffix : String)
  /-- A scalar, and whether it is written without quotes. -/
  | scalar (text : String) (plain : Bool)
  /-- The end of the text. -/
  | streamEnd
  /-- The place from which the text cannot be read. -/
  | fault (fault : ScanFault)
deriving DecidableEq, Repr

/-- A place at which a key might begin whose colon is still to come. -/
structure PossibleKey where
  /-- The number of tokens before it. -/
  number : Nat
  /-- It must turn out to be a key. -/
  required : Bool
  /-- The number of characters before it. -/
  index : Nat
  /-- The number of lines before it. -/
  line : Nat
  /-- The number of characters before it in its line. -/
  column : Nat

/-- How far a text has been read. -/
structure Scanner where
  /-- The characters to come. -/
  rest : List Char
  /-- The number of characters read. -/
  index : Nat
  /-- The number of lines read. -/
  line : Nat
  /-- The number of characters read of the current line. -/
  column : Nat
  /-- The number of brackets that are open. -/
  depth : Nat
  /-- The indentation of the current list or mapping; -1 outside all of them. -/
  indent : Int
  /-- The indentations around it, the innermost first. -/
  outer : List Int
  /-- A key without mark may begin here. -/
  keyAllowed : Bool
  /-- The places at which keys might have begun, by the number of open brackets. -/
  keys : List (Nat × PossibleKey)
  /-- The tokens read. -/
  tokens : Array Token

/-- A character that ends a line. -/
def isBreak (c : Char) : Bool :=
  c == '\n' || c == '\r' || c.toNat == 0x85 || c.toNat == 0x2028 || c.toNat == 0x2029

/-- The character that stands for the end of the text. -/
def endChar : Char := Char.ofNat 0

/-- The end of a line or of the text. -/
def isBreakOrEnd (c : Char) : Bool := c == endChar || isBreak c

/-- A space, or the end of a line or of the text. -/
def isSpaceOrEnd (c : Char) : Bool := c == ' ' || isBreakOrEnd c

/-- A space or tab, or the end of a line or of the text. -/
def isBlankOrEnd (c : Char) : Bool := c == '\t' || isSpaceOrEnd c

/-- A character that a document may hold. -/
def isAllowed (c : Char) : Bool :=
  let n := c.toNat
  n == 9 || n == 10 || n == 13 || (0x20 ≤ n && n ≤ 0x7E) || n == 0x85 || (0xA0 ≤ n && n ≤ 0xD7FF)
    || (0xE000 ≤ n && n ≤ 0xFFFD) || 0x10000 ≤ n

/-- Reading a text, which may fail. -/
abbrev Scan (α : Type) := StateT Scanner (Except ScanFault) α

namespace Scan

/-- The text is no document. -/
def fail {α : Type} : Scan α := throw .malformed

/-- The character `n` places ahead. -/
def peek (n : Nat) : Scan Char := do
  return (← get).rest.getD n endChar

/-- The next `n` characters, which stay unread. -/
def ahead (n : Nat) : Scan (List Char) := do
  return (← get).rest.take n

/-- The scanner after one more character. -/
def step (s : Scanner) : Scanner :=
  match s.rest with
  | [] => s
  | c :: rest =>
    let s := { s with rest := rest, index := s.index + 1 }
    if isBreak c && !(c == '\r' && rest.head? == some '\n') then
      { s with line := s.line + 1, column := 0 }
    else if c.toNat = 0xFEFF then s
    else { s with column := s.column + 1 }

/-- Moves past the next `n` characters. -/
def forward : Nat → Scan Unit
  | 0 => return ()
  | n + 1 => do
    modify step
    forward n

/-- Reads the characters of a kind that come next. -/
def takeWhile (kind : Char → Bool) : Scan (List Char) := do
  let taken := (← get).rest.takeWhile kind
  forward taken.length
  return taken

/-- Moves past the spaces that come next. -/
def skipSpaces : Scan Unit := do
  let _ ← takeWhile (· == ' ')

/-- Moves to the end of the line. -/
def skipLine : Scan Unit := do
  let _ ← takeWhile (!isBreak ·)

/-- Reads a line break if one comes next, as the text it stands for. -/
def lineBreak : Scan (List Char) := do
  let c ← peek 0
  if c == '\r' && (← peek 1) == '\n' then
    forward 2
    return ['\n']
  else if c == '\r' || c == '\n' || c.toNat == 0x85 then
    forward 1
    return ['\n']
  else if isBreak c then
    forward 1
    return [c]
  else return []

/-- Adds a token. -/
def emit (t : Token) : Scan Unit :=
  modify fun s ↦ { s with tokens := s.tokens.push t }

/-- A mark that opens or closes a document comes next. -/
def atSeparator : Scan Bool := do
  let mark ← ahead 3
  if mark = ['-', '-', '-'] || mark = ['.', '.', '.'] then return isBlankOrEnd (← peek 3)
  else return false

end Scan

end Scaffold.Document
