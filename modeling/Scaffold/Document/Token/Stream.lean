import Scaffold.Document.Token.Scalar

/-!
# The tokens of a text

A text is read from its beginning, one token at a time. By the indentation of what comes next, lists
and mappings end; by a colon it may turn out that a key began earlier, whose mark is then put before
it. So every place at which a key might have begun is kept until the line ends.

The text may stop to have the form of a document at some place. Then the tokens end with a fault, at
the first place at which it matters: before the first token that might still have turned out to begin
a key.
-/

namespace Scaffold.Document.Scan

/-- No key can begin where one might have begun in an earlier line, or too long ago. -/
def dropStaleKeys : Scan Unit := do
  let s ← get
  let isStale (key : PossibleKey) := key.line != s.line || s.index - key.index > 1024
  if s.keys.any fun (_, key) ↦ isStale key && key.required then fail
  set { s with keys := s.keys.filter fun (_, key) ↦ !isStale key }

/-- No key began inside the innermost brackets. -/
def removeKey : Scan Unit := do
  let s ← get
  if s.keys.any fun (depth, key) ↦ depth == s.depth && key.required then fail
  set { s with keys := s.keys.filter fun (depth, _) ↦ depth != s.depth }

/-- A key may begin here, if one is allowed to. -/
def saveKey : Scan Unit := do
  if (← get).keyAllowed then
    removeKey
    modify fun s ↦
      let required := s.depth == 0 && s.indent == s.column
      let key : PossibleKey := ⟨s.tokens.size, required, s.index, s.line, s.column⟩
      { s with keys := s.keys ++ [(s.depth, key)] }

/-- Says whether a key may begin without mark. -/
def allowKey (allowed : Bool) : Scan Unit :=
  modify fun s ↦ { s with keyAllowed := allowed }

/-- Ends the lists and mappings that are indented further than a column. -/
def unwind (column : Int) : Scan Unit :=
  modify fun s ↦
    if s.depth != 0 then s
    else
      let stack := s.indent :: s.outer
      let ended := (stack.takeWhile (column < ·)).length
      let left := stack.drop ended
      { s with
        indent := left.headD (-1)
        outer := left.tail
        tokens := s.tokens ++ List.replicate ended Token.blockEnd }

/-- Begins a list or mapping at a column, unless it is that of the current one or less. -/
def indentAt (column : Nat) : Scan Bool := do
  let s ← get
  if s.indent < column then
    set { s with indent := (column : Int), outer := s.indent :: s.outer }
    return true
  else return false

/-- Begins a list or mapping outside of brackets at the current column, if it is not there yet; it must
be allowed to begin here. -/
def openBlock (start : Token) : Scan Unit := do
  let s ← get
  if s.depth == 0 then
    if !s.keyAllowed then fail
    if ← indentAt s.column then emit start

/-- Moves past blanks, comments and line breaks. -/
def skipToToken : (fuel : Nat) → Scan Unit
  | 0 => return ()
  | fuel + 1 => do
    skipSpaces
    if (← peek 0) == '#' then skipLine
    if isBreak (← peek 0) then
      let _ ← lineBreak
      if (← get).depth == 0 then allowKey true
      skipToToken fuel

/-- A token of one character. -/
def mark (t : Token) : Scan Unit := do
  forward 1
  emit t

/-- An opening bracket. -/
def openBracket (t : Token) : Scan Unit := do
  saveKey
  modify fun s ↦ { s with depth := s.depth + 1 }
  allowKey true
  mark t

/-- A closing bracket. -/
def closeBracket (t : Token) : Scan Unit := do
  removeKey
  modify fun s ↦ { s with depth := s.depth - 1 }
  allowKey false
  mark t

/-- A comma. -/
def comma : Scan Unit := do
  allowKey true
  removeKey
  mark .flowEntry

/-- The hyphen before an item. -/
def hyphen : Scan Unit := do
  openBlock .blockSequenceStart
  allowKey true
  removeKey
  mark .blockEntry

/-- The question mark before a key. -/
def questionMark : Scan Unit := do
  openBlock .blockMappingStart
  allowKey ((← get).depth == 0)
  removeKey
  mark .key

/-- The colon after a key. If a key might have begun inside the same brackets, it did. -/
def colon : Scan Unit := do
  let s ← get
  match s.keys.find? fun (depth, _) ↦ depth == s.depth with
  | some (_, key) =>
    set { s with keys := s.keys.filter fun (depth, _) ↦ depth != s.depth }
    let starts ← if s.depth == 0 then indentAt key.column else pure false
    let marks := if starts then [Token.blockMappingStart, Token.key] else [Token.key]
    modify fun s ↦
      let tokens := s.tokens.toList
      { s with tokens := (tokens.take key.number ++ marks ++ tokens.drop key.number).toArray }
    allowKey false
  | none =>
    openBlock .blockMappingStart
    allowKey (s.depth == 0)
    removeKey
  mark .value

/-- A token that may be a key as a whole or begin one. -/
def keyLike (read : Scan Token) : Scan Unit := do
  saveKey
  allowKey false
  emit (← read)

/-- The name of an alias or anchor. -/
def named (token : String → Token) : Scan Token := do
  return token (← anchorName)

/-- A block of lines. -/
def block (folded : Bool) : Scan Unit := do
  allowKey true
  removeKey
  emit (← blockScalar folded)

/-- Ends everything that the end of a document ends. -/
def closeDocument : Scan Unit := do
  unwind (-1)
  removeKey
  allowKey false

/-- The end of the text. -/
def finish : Scan Unit := do
  closeDocument
  modify fun s ↦ { s with keys := [] }
  emit .streamEnd

/-- A character that may begin a scalar without quotes, with what follows it. -/
def beginsPlain (inFlow : Bool) (c next : Char) : Bool :=
  (!isBlankOrEnd c && !"-?:,[]\x7b\x7d#&*!|>'\"%@\x60".toList.contains c)
    || (!isBlankOrEnd next && (c == '-' || (!inFlow && (c == '?' || c == ':'))))

/-- Reads the next token, and those that come with it. -/
def next : Scan Unit := do
  if (← get).index == 0 && (← peek 0).toNat == 0xFEFF then forward 1
  skipToToken (← bound)
  dropStaleKeys
  let s ← get
  unwind s.column
  let c ← peek 0
  let after ← peek 1
  let inFlow := s.depth != 0
  let atMark := inFlow || isBlankOrEnd after
  if c == endChar then finish
  else if c == '%' && s.column == 0 then
    closeDocument
    emit (← directive)
  else if s.column == 0 && (c == '-' || c == '.') && (← atSeparator) then
    closeDocument
    forward 3
    emit (if c == '-' then .documentStart else .documentEnd)
  else if c == '[' then openBracket .flowSequenceStart
  else if c == '\x7b' then openBracket .flowMappingStart
  else if c == ']' then closeBracket .flowSequenceEnd
  else if c == '\x7d' then closeBracket .flowMappingEnd
  else if c == ',' then comma
  else if c == '-' && isBlankOrEnd after then hyphen
  else if c == '?' && atMark then questionMark
  else if c == ':' && atMark then colon
  else if c == '*' then keyLike (named .alias)
  else if c == '&' then keyLike (named .anchor)
  else if c == '!' then keyLike tag
  else if c == '|' && !inFlow then block false
  else if c == '>' && !inFlow then block true
  else if c == '\'' || c == '"' then keyLike quotedScalar
  else if beginsPlain inFlow c after then keyLike plainScalar
  else fail

/-- The tokens up to the first that might begin a key, which is when a fault further on matters. -/
def faultAt (s : Scanner) (fault : ScanFault) : Array Token :=
  let place := s.keys.foldl (fun least (_, key) ↦ min least key.number) s.tokens.size
  (s.tokens.take place).push (.fault fault)

/-- All tokens from here. -/
def all : (fuel : Nat) → (s : Scanner) → Array Token
  | 0, s => s.tokens.push (.fault .malformed)
  | fuel + 1, s =>
    match (next.run s : Except ScanFault (Unit × Scanner)) with
    | .error fault => faultAt s fault
    | .ok (_, s) => if s.tokens.back? = some .streamEnd then s.tokens else all fuel s

end Scaffold.Document.Scan

namespace Scaffold.Document.Token

/-- The tokens of a text. The last one is the end of the text or a fault. -/
def ofText (text : String) : Array Token :=
  let chars := text.toList
  if chars.all isAllowed then
    Scan.all (chars.length + 2)
      { rest := chars, index := 0, line := 0, column := 0, depth := 0, indent := -1, outer := [],
        keyAllowed := true, keys := [], tokens := #[] }
  else #[.fault .malformed]

end Scaffold.Document.Token
