import Scaffold.Document.Token.Basic
import Scaffold.Text.Numeral

/-!
# Reading scalars, names and tags

The tokens of a document that hold text: scalars in quotes, without quotes, or written as a block of
lines, the names of anchors and aliases, tags, and directives. In scalars, a single line break between
words is a space, and further ones stand for themselves; a literal block keeps them all.
-/

namespace Scaffold.Document.Scan

/-- The number of characters to come and one more, which bounds every loop. -/
def bound : Scan Nat := do
  return (← get).rest.length + 1

/-! ## Names, tags and directives -/

/-- A character of a name. -/
def isNameChar (c : Char) : Bool :=
  Text.isAsciiAlphanumeric c || c == '-' || c == '_'

/-- A character of the second part of a tag. -/
def isTagChar (c : Char) : Bool :=
  Text.isAsciiAlphanumeric c || "-;/?:@&=+$,_.!~*'()[]%".toList.contains c

/-- A name, which must not be empty. -/
def name : Scan String := do
  let chars ← takeWhile isNameChar
  if chars.isEmpty then fail
  return String.ofList chars

/-- The name of an anchor or alias, after its mark. -/
def anchorName : Scan String := do
  forward 1
  let text ← name
  let c ← peek 0
  if isBlankOrEnd c || "?:,]\x7d%@\x60".toList.contains c then return text else fail

/-- Escaped bytes of a tag. -/
def tagEscapes : (fuel : Nat) → (bytes : List UInt8) → Scan (List UInt8)
  | 0, bytes => return bytes
  | fuel + 1, bytes => do
    if (← peek 0) == '%' then
      match Text.Numeral.digit? 16 (← peek 1), Text.Numeral.digit? 16 (← peek 2) with
      | some a, some b =>
        forward 3
        tagEscapes fuel (bytes ++ [UInt8.ofNat (16 * a + b)])
      | _, _ => fail
    else return bytes

/-- The second part of a tag. -/
def tagRest : (fuel : Nat) → (taken : List Char) → Scan (List Char)
  | 0, taken => return taken
  | fuel + 1, taken => do
    let plain ← takeWhile fun c ↦ isTagChar c && c != '%'
    if (← peek 0) == '%' then
      let bytes ← tagEscapes (← bound) []
      match String.fromUTF8? ⟨bytes.toArray⟩ with
      | some text => tagRest fuel (taken ++ plain ++ text.toList)
      | none => fail
    else return taken ++ plain

/-- The second part of a tag, which must not be empty. -/
def tagSuffix : Scan String := do
  let chars ← tagRest (← bound) []
  if chars.isEmpty then fail
  return String.ofList chars

/-- The handle of a tag: one exclamation mark, or a name between two. -/
def tagHandle : Scan String := do
  if (← peek 0) != '!' then fail
  if (← peek 1) == ' ' then
    forward 1
    return "!"
  else
    forward 1
    let chars ← takeWhile isNameChar
    if (← peek 0) != '!' then fail
    forward 1
    return String.ofList ('!' :: chars ++ ['!'])

/-- A tag. -/
def tag : Scan Token := do
  let c ← peek 1
  let token ←
    if c == '<' then
      forward 2
      let suffix ← tagSuffix
      if (← peek 0) != '>' then fail
      forward 1
      pure (Token.tag none suffix)
    else if isBlankOrEnd c then
      forward 1
      pure (Token.tag none "!")
    else
      let word := ((← get).rest.drop 1).takeWhile fun c ↦ !isSpaceOrEnd c
      if word.contains '!' then
        let handle ← tagHandle
        pure (Token.tag (some handle) (← tagSuffix))
      else
        forward 1
        pure (Token.tag (some "!") (← tagSuffix))
  if isSpaceOrEnd (← peek 0) then return token else fail

/-- The rest of a line that may only hold a comment. -/
def ignoredLine : Scan Unit := do
  skipSpaces
  if (← peek 0) == '#' then skipLine
  if !isBreakOrEnd (← peek 0) then fail
  let _ ← lineBreak

/-- A number of a version. -/
def versionNumber : Scan Nat := do
  let digits ← takeWhile Text.isAsciiDigit
  if digits.isEmpty then fail
  return Text.Numeral.ofDigits 10 (digits.filterMap (Text.Numeral.digit? 10))

/-- The version of the format. -/
def version : Scan Token := do
  skipSpaces
  let major ← versionNumber
  if (← peek 0) != '.' then fail
  forward 1
  let _ ← versionNumber
  if !isSpaceOrEnd (← peek 0) then fail
  return .version major

/-- An abbreviation for the beginnings of tags. -/
def tagDirective : Scan Token := do
  skipSpaces
  let handle ← tagHandle
  if (← peek 0) != ' ' then fail
  skipSpaces
  let start ← tagSuffix
  if !isSpaceOrEnd (← peek 0) then fail
  return .tagHandle handle start

/-- A directive. -/
def directive : Scan Token := do
  forward 1
  let kind ← name
  if !isSpaceOrEnd (← peek 0) then fail
  let token ←
    if kind = "YAML" then version
    else if kind = "TAG" then tagDirective
    else do
      skipLine
      pure Token.directive
  ignoredLine
  return token

/-! ## Blocks of lines -/

/-- How the line breaks at the end of a block are treated. -/
inductive Chomping where
  /-- One is kept. -/
  | clip
  /-- None is kept. -/
  | strip
  /-- All are kept. -/
  | keep
deriving DecidableEq, Repr

/-- The mark for the end of a block, if one comes next. -/
def chomping? : Scan (Option Chomping) := do
  let c ← peek 0
  if c == '+' then
    forward 1
    return some .keep
  else if c == '-' then
    forward 1
    return some .strip
  else return none

/-- The additional indentation of a block, if it comes next. -/
def increment? : Scan (Option Nat) := do
  let c ← peek 0
  if Text.isAsciiDigit c then
    if c == '0' then fail
    forward 1
    return some (c.toNat - 48)
  else return none

/-- The marks of a block, in either order. -/
def blockMarks : Scan (Chomping × Option Nat) := do
  let before ← chomping?
  let increment ← increment?
  let after ← if before.isNone && increment.isSome then chomping? else pure none
  if !isSpaceOrEnd (← peek 0) then fail
  return ((before.or after).getD .clip, increment)

/-- The blank lines before a block, and the widest indentation among them and the line after. -/
def leadingBreaks : (fuel : Nat) → (breaks : List Char) → (widest : Nat) → Scan (List Char × Nat)
  | 0, breaks, widest => return (breaks, widest)
  | fuel + 1, breaks, widest => do
    let c ← peek 0
    if c == ' ' then
      forward 1
      leadingBreaks fuel breaks (max widest (← get).column)
    else if isBreak c then
      let text ← lineBreak
      leadingBreaks fuel (breaks ++ text) widest
    else return (breaks, widest)

/-- Moves past spaces up to a column. -/
def indentTo : (fuel : Nat) → (indent : Nat) → Scan Unit
  | 0, _ => return ()
  | fuel + 1, indent => do
    if (← get).column < indent && (← peek 0) == ' ' then
      forward 1
      indentTo fuel indent

/-- Blank lines in a block, and the indentation after them. -/
def blockBreaks (indent : Nat) : (fuel : Nat) → (breaks : List Char) → Scan (List Char)
  | 0, breaks => return breaks
  | fuel + 1, breaks => do
    indentTo (indent + 1) indent
    if isBreak (← peek 0) then
      let text ← lineBreak
      blockBreaks indent fuel (breaks ++ text)
    else return breaks

/-- The lines of a block. `text` has been read, after which `final` is the break of its last line and
`breaks` are those of blank lines. -/
def blockLines (folded : Bool) (indent : Nat) :
    (fuel : Nat) → (text final breaks : List Char) → Scan (List Char × List Char × List Char)
  | 0, text, final, breaks => return (text, final, breaks)
  | fuel + 1, text, final, breaks => do
    let c ← peek 0
    if (← get).column != indent || c == endChar then return (text, final, breaks)
    let leading := c == ' ' || c == '\t'
    let line ← takeWhile (!isBreak ·)
    let newFinal ← lineBreak
    let newBreaks ← blockBreaks indent (← bound) []
    let next ← peek 0
    let text := text ++ breaks ++ line
    if (← get).column == indent && next != endChar then
      let join :=
        if folded && newFinal = ['\n'] && !leading && next != ' ' && next != '\t' then
          (if newBreaks.isEmpty then [' '] else [])
        else newFinal
      blockLines folded indent fuel (text ++ join) newFinal newBreaks
    else return (text, newFinal, newBreaks)

/-- A block of lines. -/
def blockScalar (folded : Bool) : Scan Token := do
  forward 1
  let (chomping, increment) ← blockMarks
  ignoredLine
  let least := ((← get).indent + 1).toNat.max 1
  let (indent, breaks) ←
    match increment with
    | none => do
      let (breaks, widest) ← leadingBreaks (← bound) [] 0
      pure (max least widest, breaks)
    | some n => do
      let indent := least + n - 1
      pure (indent, ← blockBreaks indent (← bound) [])
  let (text, final, breaks) ← blockLines folded indent (← bound) [] [] breaks
  let tail := match chomping with
    | .strip => []
    | .clip => final
    | .keep => final ++ breaks
  return .scalar (String.ofList (text ++ tail)) false

/-! ## Scalars in quotes -/

/-- The character that an escape of one letter stands for. -/
def simpleEscape? : Char → Option Nat
  | '0' => some 0
  | 'a' => some 7
  | 'b' => some 8
  | 't' => some 9
  | '\t' => some 9
  | 'n' => some 10
  | 'v' => some 11
  | 'f' => some 12
  | 'r' => some 13
  | 'e' => some 27
  | ' ' => some 32
  | '"' => some 34
  | '\\' => some 92
  | '/' => some 47
  | 'N' => some 0x85
  | '_' => some 0xA0
  | 'L' => some 0x2028
  | 'P' => some 0x2029
  | _ => none

/-- The number of digits of an escape that gives a code point. -/
def codeEscape? : Char → Option Nat
  | 'x' => some 2
  | 'u' => some 4
  | 'U' => some 8
  | _ => none

/-- Blank lines inside quotes. -/
def quotedBreaks : (fuel : Nat) → (breaks : List Char) → Scan (List Char)
  | 0, breaks => return breaks
  | fuel + 1, breaks => do
    if ← atSeparator then fail
    let _ ← takeWhile fun c ↦ c == ' ' || c == '\t'
    if isBreak (← peek 0) then
      let text ← lineBreak
      quotedBreaks fuel (breaks ++ text)
    else return breaks

/-- The text of an escape, after its backslash. -/
def escape : Scan (List Char) := do
  let c ← peek 0
  match simpleEscape? c, codeEscape? c with
  | some n, _ =>
    forward 1
    return [Char.ofNat n]
  | none, some size =>
    forward 1
    let digits ← ahead size
    if digits.length ≠ size || !digits.all fun d ↦ (Text.Numeral.digit? 16 d).isSome then fail
    let code := Text.Numeral.ofDigits 16 (digits.filterMap (Text.Numeral.digit? 16))
    if 0x10FFFF < code then throw (.noCodePoint code)
    forward size
    return [Char.ofNat code]
  | none, none =>
    if isBreak c then
      let _ ← lineBreak
      quotedBreaks (← bound) []
    else fail

/-- Text inside quotes up to a blank, a line break or the closing quote. -/
def quotedWord (double : Bool) : (fuel : Nat) → (text : List Char) → Scan (List Char)
  | 0, text => return text
  | fuel + 1, text => do
    let plain ← takeWhile fun c ↦
      !(c == '\'' || c == '"' || c == '\\' || c == ' ' || c == '\t' || isBreak c)
    let text := text ++ plain
    let c ← peek 0
    if !double && c == '\'' && (← peek 1) == '\'' then
      forward 2
      quotedWord double fuel (text ++ ['\''])
    else if (double && c == '\'') || (!double && (c == '"' || c == '\\')) then
      forward 1
      quotedWord double fuel (text ++ [c])
    else if double && c == '\\' then
      forward 1
      let escaped ← escape
      quotedWord double fuel (text ++ escaped)
    else return text

/-- Blanks and line breaks inside quotes. -/
def quotedSpace : Scan (List Char) := do
  let blanks ← takeWhile fun c ↦ c == ' ' || c == '\t'
  let c ← peek 0
  if c == endChar then fail
  if isBreak c then
    let first ← lineBreak
    let breaks ← quotedBreaks (← bound) []
    return (if first ≠ ['\n'] then first else if breaks.isEmpty then [' '] else []) ++ breaks
  else return blanks

/-- The rest of a scalar in quotes. -/
def quotedRest (quote : Char) : (fuel : Nat) → (text : List Char) → Scan (List Char)
  | 0, _ => fail
  | fuel + 1, text => do
    if (← peek 0) == quote then
      forward 1
      return text
    else
      let space ← quotedSpace
      let word ← quotedWord (quote == '"') (← bound) []
      quotedRest quote fuel (text ++ space ++ word)

/-- A scalar in quotes. -/
def quotedScalar : Scan Token := do
  let quote ← peek 0
  forward 1
  let first ← quotedWord (quote == '"') (← bound) []
  return .scalar (String.ofList (← quotedRest quote (← bound) first)) false

/-! ## Scalars without quotes -/

/-- The number of characters of a text that belong to a scalar without quotes, up to the next blank or
line break. -/
def plainLength (inFlow : Bool) : List Char → Nat
  | [] => 0
  | c :: rest =>
    let next := rest.headD endChar
    if isBlankOrEnd c
        || (c == ':' && (isBlankOrEnd next || (inFlow && ",[]\x7b\x7d".toList.contains next)))
        || (inFlow && ",?[]\x7b\x7d".toList.contains c) then 0
    else plainLength inFlow rest + 1

/-- Blank lines after a line of a scalar without quotes; none if a mark ends the document. -/
def plainBreaks : (fuel : Nat) → (breaks : List Char) → Scan (Option (List Char))
  | 0, breaks => return some breaks
  | fuel + 1, breaks => do
    let c ← peek 0
    if c == ' ' then
      forward 1
      plainBreaks fuel breaks
    else if isBreak c then
      let text ← lineBreak
      if ← atSeparator then return none
      plainBreaks fuel (breaks ++ text)
    else return some breaks

/-- The blanks and line breaks after a word of a scalar without quotes, as the text they stand for. -/
def plainSpace : Scan (List Char) := do
  let blanks ← takeWhile (· == ' ')
  if isBreak (← peek 0) then
    let first ← lineBreak
    modify fun s ↦ { s with keyAllowed := true }
    if ← atSeparator then return []
    match ← plainBreaks (← bound) [] with
    | none => return []
    | some breaks =>
      return (if first ≠ ['\n'] then first else if breaks.isEmpty then [' '] else []) ++ breaks
  else return blanks

/-- The words of a scalar without quotes, with the spaces between them. -/
def plainWords (indent : Int) :
    (fuel : Nat) → (text space : List Char) → Scan (List Char)
  | 0, text, _ => return text
  | fuel + 1, text, space => do
    if (← peek 0) == '#' then return text
    let s ← get
    let length := plainLength (s.depth != 0) s.rest
    if length = 0 then return text
    modify fun s ↦ { s with keyAllowed := false }
    let word ← ahead length
    forward length
    let text := text ++ space ++ word
    let space ← plainSpace
    let s ← get
    if space.isEmpty || (← peek 0) == '#' || (s.depth == 0 && (s.column : Int) < indent) then
      return text
    else plainWords indent fuel text space

/-- A scalar without quotes. -/
def plainScalar : Scan Token := do
  let text ← plainWords ((← get).indent + 1) (← bound) [] []
  return .scalar (String.ofList text) true

end Scaffold.Document.Scan
