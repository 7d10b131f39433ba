import Scaffold.Pattern.Basic
import Scaffold.Pattern.Token
import Scaffold.Text.Name

/-!
# Reading patterns

Patterns are written in the common notation of search patterns: alternatives, repetitions that are
greedy, lazy or possessive, groups that are numbered, named, atomic, conditional or carry settings,
looking ahead and behind, references to groups, classes in brackets, and escapes.

The reader goes from left to right and keeps what it must know about the part already read: the
groups with their names and widths, and whether it stands inside a part that looks behind. Two rules
can be checked at the end only, and are noted as they come up: a part that looks behind has a single
width, and a condition speaks of a group that exists.
-/

namespace Scaffold.Pattern

/-- What is known while a pattern is read. -/
structure Reader where
  /-- What is still to be read. -/
  tokens : List Token
  /-- The widths of the groups by number, from zero on; none for a group that is open. -/
  widths : List (Option Width)
  /-- The numbers of the named groups. -/
  names : List (String × Nat)
  /-- Inside a part that looks behind, the number of groups before it. -/
  behindLimit : Option Nat
  /-- The groups that conditions speak of. -/
  conditions : List Nat
  /-- The settings of the whole pattern. -/
  mode : Mode
  /-- The whole pattern asks for the classes of Unicode. -/
  unicode : Bool
  /-- The whole pattern must do without repetitions. -/
  plainOnly : Bool
  /-- A rule that is checked at the end is broken. -/
  broken : Bool

/-- Reading, which may fail. -/
abbrev Read (α : Type) := StateT Reader (Except Fault) α

namespace Read

/-- The text is no pattern. -/
def fail {α : Type} : Read α := throw .malformed

/-- The next token, which stays unread. -/
def peek : Read (Option Token) := do
  return (← get).tokens.head?

/-- Moves past the next token, if there is one. -/
def advance : Read Unit := do
  match (← get).tokens with
  | _ :: .dangling :: _ => fail
  | _ :: rest => modify fun r ↦ { r with tokens := rest }
  | [] => pure ()

/-- Reads the next token. -/
def next : Read (Option Token) := do
  let token ← peek
  advance
  return token

/-- Reads the next token, which must be there. -/
def demand : Read Token := do
  match ← next with
  | some token => return token
  | none => fail

/-- Reads the character `c` if it comes next. -/
def accept (c : Char) : Read Bool := do
  if (← peek) = some (.char c) then
    advance
    return true
  else return false

/-- Reads at most `n` characters of a kind. -/
def takeChars (kind : Char → Bool) : Nat → Read (List Char)
  | 0 => return []
  | n + 1 => do
    match ← peek with
    | some (.char c) =>
      if kind c then
        advance
        return c :: (← takeChars kind n)
      else return []
    | _ => return []

/-- Reads up to a closing character, which must come and not at once. -/
def takeUntil (closing : Char) : (fuel : Nat) → (taken : List Char) → Read (List Char)
  | 0, _ => fail
  | fuel + 1, taken => do
    match ← next with
    | none => fail
    | some token =>
      if token = .char closing then
        if taken.isEmpty then fail else return taken
      else takeUntil closing fuel (taken ++ token.chars)

/-- Reads a text up to a closing character. -/
def word (closing : Char) : Read (List Char) := do
  takeUntil closing ((← get).tokens.length + 1) []

/-- The group can be referred to from here. -/
def checkReachable (number : Nat) : Read Unit := do
  let r ← get
  match r.behindLimit with
  | none => return ()
  | some limit =>
    if (r.widths[number]?.bind id).isNone || limit ≤ number then fail

/-- A reference to a group that has been closed. -/
def reference (mode : Mode) (number : Nat) : Read Pattern := do
  if ((← get).widths[number]?.bind id).isNone then fail
  checkReachable number
  return .backref mode number

end Read

open Read

/-- An octal digit. -/
def isOctal (c : Char) : Bool := '0' ≤ c && c ≤ '7'

/-- A digit in base sixteen. -/
def isHex (c : Char) : Bool := (Text.Numeral.digit? 16 c).isSome

/-- The number written by digits in a base. -/
def codeOf (base : Nat) (digits : List Char) : Nat :=
  Text.Numeral.ofDigits base (digits.filterMap (Text.Numeral.digit? base))

/-- The control characters with an escape of their own. -/
def controlEscape? : Char → Option Nat
  | 'a' => some 7
  | 'b' => some 8
  | 'f' => some 12
  | 'n' => some 10
  | 'r' => some 13
  | 't' => some 9
  | 'v' => some 11
  | '\\' => some 92
  | _ => none

/-- The escapes that stand for categories. -/
def categoryEscape? : Char → Option ClassItem
  | 'd' => some (.category .digit false)
  | 'D' => some (.category .digit true)
  | 's' => some (.category .space false)
  | 'S' => some (.category .space true)
  | 'w' => some (.category .word false)
  | 'W' => some (.category .word true)
  | _ => none

/-- The escapes that stand for places. -/
def anchorEscape? : Char → Option Anchor
  | 'A' => some .textStart
  | 'Z' => some .textEnd
  | 'b' => some (.boundary false)
  | 'B' => some (.boundary true)
  | _ => none

/-- A code point written with exactly `n` digits in base sixteen. -/
def hexEscape (n : Nat) : Read Nat := do
  let digits ← takeChars isHex n
  if digits.length ≠ n then fail
  let code := codeOf 16 digits
  if code ≤ 0x10FFFF then return code else fail

/-- The code point of a character whose name stands in braces. -/
def namedEscape : Read Nat := do
  if !(← accept '{') then fail
  match Text.codeNamed? (← word '}') with
  | some code => return code
  | none => fail

/-- The code point of an escape that is not followed by an octal number, nor stands for a category,
a place or a group. -/
def commonEscape (c : Char) : Read Nat := do
  match c with
  | 'x' => hexEscape 2
  | 'u' => hexEscape 4
  | 'U' => hexEscape 8
  | 'N' => namedEscape
  | _ => if Text.isAsciiAlphanumeric c then fail else return c.toNat

/-- An escape inside a class. -/
def classEscape (c : Char) : Read ClassItem := do
  match controlEscape? c, categoryEscape? c with
  | some n, _ => return .code n
  | _, some item => return item
  | none, none =>
    if isOctal c then
      let code := codeOf 8 (c :: (← takeChars isOctal 2))
      if code ≤ 0xFF then return .code code else fail
    else return .code (← commonEscape c)

/-- The character that a token of a class stands for, or the category. -/
def classToken : Token → Read ClassItem
  | .char c => return .code c.toNat
  | .escape c => classEscape c
  | .dangling => fail

/-- The members of a class up to its closing bracket; `items` are those read so far. -/
def classItems : (fuel : Nat) → (items : List ClassItem) → Read (List ClassItem)
  | 0, _ => fail
  | fuel + 1, items => do
    let token ← demand
    if token = .char ']' && !items.isEmpty then return items
    let item ← classToken token
    if ← accept '-' then
      let upper ← demand
      if upper = .char ']' then return items ++ [item, .code '-'.toNat]
      match item, ← classToken upper with
      | .code lo, .code hi =>
        if hi < lo then fail
        classItems fuel (items ++ [.range lo hi])
      | _, _ => fail
    else classItems fuel (items ++ [item])

/-- A class of the given members. -/
def ofClass (mode : Mode) (items : List ClassItem) (negated : Bool) : Pattern :=
  match items.eraseDups with
  | [.code n] => .char mode (.code n negated)
  | items => .char mode (.oneOf items negated)

/-- A class after its opening bracket. -/
def classPattern (mode : Mode) : Read Pattern := do
  let negated ← accept '^'
  let items ← classItems ((← get).tokens.length + 1) []
  return ofClass mode items negated

/-- A group by number, or an octal code, after the escape of a digit other than zero. -/
def digitEscape (mode : Mode) (c : Char) : Read Pattern := do
  let more ← takeChars Text.isAsciiDigit 1
  let digits := c :: more
  let octal ← if more.length = 1 && digits.all isOctal then takeChars isOctal 1 else pure []
  if octal.isEmpty then
    let number := codeOf 10 digits
    if number < (← get).widths.length then reference mode number else fail
  else
    let code := codeOf 8 (digits ++ octal)
    if code ≤ 0xFF then return .char mode (.code code false) else fail

/-- An escape outside classes. -/
def escapePattern (mode : Mode) (c : Char) : Read Pattern := do
  match anchorEscape? c, categoryEscape? c, controlEscape? c with
  | some place, _, _ => return .anchor mode place
  | _, some item, _ => return .char mode (.oneOf [item] false)
  | _, _, some n => return .char mode (.code n false)
  | none, none, none =>
    if c = '0' then return .char mode (.code (codeOf 8 (c :: (← takeChars isOctal 2))) false)
    else if Text.isAsciiDigit c then digitEscape mode c
    else return .char mode (.code (← commonEscape c) false)

/-- The number of copies in braces: none if the braces hold something else. -/
def bounds : Read (Option (Nat × Option Nat)) := do
  let before ← get
  if before.tokens.head? = some (.char '}') then return none
  let count := before.tokens.length + 1
  let lo ← takeChars Text.isAsciiDigit count
  let hi ← if ← accept ',' then takeChars Text.isAsciiDigit count else pure lo
  if !(← accept '}') then
    set before
    return none
  let bound (digits : List Char) : Read Nat := do
    match Text.Numeral.unsigned 10 digits with
    | .error .malformed => fail
    | .error (.tooLong count) => throw (.longNumeral count)
    | .ok n => if 4294967295 ≤ n then throw .tooManyCopies else return n
  let min ← if lo.isEmpty then pure 0 else bound lo
  if hi.isEmpty then return some (min, none)
  let max ← bound hi
  if max < min then fail
  return some (min, some max)

/-- The letters of settings. -/
def isSetting (c : Char) : Bool := ['i', 'L', 'm', 's', 'x', 'a', 't', 'u'].contains c

/-- The letters of settings that choose the kind of classes. -/
def isKind (c : Char) : Bool := c = 'a' || c = 'L' || c = 'u'

/-- Settings to be turned on, up to a character that ends them, which is returned too. -/
def settingsOn : (fuel : Nat) → (on : List Char) → (c : Char) → Read (List Char × Char)
  | 0, _, _ => fail
  | fuel + 1, on, c => do
    if c = 'L' then fail
    if isKind c && on.any fun d ↦ isKind d && d != c then fail
    match ← demand with
    | .char d =>
      if d = ')' || d = '-' || d = ':' then return (c :: on, d)
      else if isSetting d then settingsOn fuel (c :: on) d
      else fail
    | _ => fail

/-- Settings to be turned off, up to a colon. -/
def settingsOff : (fuel : Nat) → (off : List Char) → (c : Char) → Read (List Char)
  | 0, _, _ => fail
  | fuel + 1, off, c => do
    if isKind c then fail
    match ← demand with
    | .char ':' => return c :: off
    | .char d => if isSetting d then settingsOff fuel (c :: off) d else fail
    | _ => fail

/-- Settings in parentheses: those turned on and off, and whether they are for the whole pattern. -/
structure Settings where
  /-- Settings turned on. -/
  on : List Char
  /-- Settings turned off. -/
  off : List Char
  /-- They are for the whole pattern. -/
  whole : Bool

/-- Settings that begin with the character `c`. -/
def settings (c : Char) : Read Settings := do
  let fuel := (← get).tokens.length + 1
  let (on, closing) ← if c = '-' then pure ([], '-') else settingsOn fuel [] c
  if closing = ')' then return ⟨on, [], true⟩
  if on.contains 't' then fail
  if closing = ':' then return ⟨on, [], false⟩
  match ← demand with
  | .char d =>
    if !isSetting d then fail
    let off ← settingsOff fuel [] d
    if off.contains 't' || off.any on.contains then fail
    return ⟨on, off, false⟩
  | _ => fail

/-- A mode with settings turned on and off. -/
def Mode.apply (mode : Mode) (s : Settings) : Mode :=
  let choose (c : Char) (old : Bool) := (old || s.on.contains c) && !s.off.contains c
  { ignoreCase := choose 'i' mode.ignoreCase
    multiline := choose 'm' mode.multiline
    dotAll := choose 's' mode.dotAll
    verbose := choose 'x' mode.verbose
    asciiOnly := if s.on.any isKind then s.on.contains 'a' else mode.asciiOnly }

/-- A part of an alternative while the alternative is read. -/
inductive Piece where
  /-- A finished part. -/
  | item (p : Pattern)
  /-- A group without number or settings, whose parts count as those of the alternative. -/
  | plain (parts : List Pattern)

/-- The parts of an alternative. -/
def Piece.parts : Piece → List Pattern
  | item p => [p]
  | plain parts => parts

/-- The mark after the bounds of a repetition. -/
def greed : Read Greed := do
  if ← accept '?' then return .lazy
  if ← accept '+' then return .possessive
  return .greedy

/-- Puts copies in the place of the last part, which must be something that can be copied. The parts
are listed from the last to the first. -/
def repeatLast (min : Nat) (max : Option Nat) : List Piece → Read (List Piece)
  | [] => fail
  | .item (.anchor _ _) :: _ => fail
  | .item (.rep _ _ _ _) :: _ => fail
  | piece :: before => do
    let greed ← greed
    modify fun r ↦ { r with broken := r.broken || r.plainOnly }
    return .item (.rep greed min max (ofList piece.parts)) :: before

/-- A part that can be told equal to another by its form alone. -/
def isFlat : Pattern → Bool
  | .char _ _ => true
  | .anchor _ _ => true
  | .backref _ _ => true
  | _ => false

/-- The part that all alternatives begin with. -/
def commonHead? (alternatives : List (List Pattern)) : Option Pattern := do
  let first ← alternatives.head?
  let head ← first.head?
  if isFlat head && alternatives.all (·.head? == some head) then some head else none

/-- The parts that all alternatives begin with, and what is left of the alternatives. -/
def splitCommon : (fuel : Nat) → List (List Pattern) → List Pattern × List (List Pattern)
  | 0, alternatives => ([], alternatives)
  | fuel + 1, alternatives =>
    match commonHead? alternatives with
    | some head =>
      let (common, rest) := splitCommon fuel (alternatives.map List.tail)
      (head :: common, rest)
    | none => ([], alternatives)

/-- The members of a class that an alternative amounts to. -/
def asClass? : List Pattern → Option (List ClassItem)
  | [.char _ (.code n false)] => some [.code n]
  | [.char _ (.oneOf items false)] => some items
  | _ => none

/-- Alternatives as a list of parts: first what they have in common, then a class if each of them is
a single character, else the choice between them. -/
def joinAlternatives (mode : Mode) : List (List Pattern) → List Pattern
  | [parts] => parts
  | alternatives =>
    let (common, rest) := splitCommon ((alternatives.head?.getD []).length + 1) alternatives
    match rest.mapM asClass? with
    | some items => common ++ [.char mode (.oneOf items.flatten.eraseDups false)]
    | none => common ++ [oneOf (rest.map ofList)]

/-- A comment after its opening, up to the closing parenthesis. -/
def comment : (fuel : Nat) → Read Unit
  | 0 => fail
  | fuel + 1 => do
    if (← demand) = .char ')' then return () else comment fuel

/-- The rest of a line. -/
def restOfLine : (fuel : Nat) → Read Unit
  | 0 => return ()
  | fuel + 1 => do
    match ← next with
    | none => return ()
    | some token => if token = .char '\n' then return () else restOfLine fuel

/-- The closing parenthesis. -/
def close : Read Unit := do
  if !(← accept ')') then fail

/-- Opens a group and returns its number. -/
def openGroup (name : Option (List Char)) : Read Nat := do
  let r ← get
  let number := r.widths.length
  match name with
  | none => set { r with widths := r.widths ++ [none] }
  | some name =>
    let name := String.ofList name
    if (r.names.lookup name).isSome then fail
    set { r with widths := r.widths ++ [none], names := (name, number) :: r.names }
  return number

/-- The width of a list of parts. -/
def widthOf (parts : List Pattern) : Read Width := do
  let widths := (← get).widths
  return (ofList parts).width fun number ↦ (widths[number]?.bind id).getD (.exactly 0)

/-- The name of a group, up to a closing character. -/
def groupName (closing : Char) : Read (List Char) := do
  let name ← word closing
  if Text.isIdentifier name then return name else fail

/-- The group that a condition speaks of. -/
def conditionGroup : Read Nat := do
  let text ← word ')'
  let number ←
    if Text.isIdentifier text then
      match (← get).names.lookup (String.ofList text) with
      | some number => pure number
      | none => fail
    else
      match Text.Numeral.integer 10 text with
      | .ok (.ofNat (n + 1)) =>
        if 1073741823 ≤ n + 1 then fail
        modify fun r ↦ { r with conditions := (n + 1) :: r.conditions }
        pure (n + 1)
      | _ => fail
  checkReachable number
  return number

mutual

/-- Alternatives up to a closing parenthesis or the end, as a list of parts. -/
def alternatives : (fuel : Nat) → Mode → (top : Bool) → Read (List Pattern)
  | 0, _, _ => fail
  | fuel + 1, mode, top => do
    let first ← alternative fuel mode top []
    let rest ← moreAlternatives fuel mode top
    let whole := (← get).mode
    return joinAlternatives (if top then whole else mode) (first :: rest)

/-- Further alternatives, each after a bar. -/
def moreAlternatives : (fuel : Nat) → Mode → (top : Bool) → Read (List (List Pattern))
  | 0, _, _ => fail
  | fuel + 1, mode, top => do
    if ← accept '|' then
      let whole := (← get).mode
      let next ← alternative fuel (if top then whole else mode) false []
      return next :: (← moreAlternatives fuel mode top)
    else return []

/-- One alternative. `pieces` are its parts so far, the last one first; settings of the whole pattern
may be given if there are none and the alternative is the first one. -/
def alternative : (fuel : Nat) → Mode → (first : Bool) → (pieces : List Piece) →
    Read (List Pattern)
  | 0, _, _, _ => fail
  | fuel + 1, mode, first, pieces => do
    let finish := return pieces.reverse.flatMap Piece.parts
    match ← peek with
    | none => finish
    | some (.char '|') => finish
    | some (.char ')') => finish
    | some .dangling => fail
    | some (.escape c) =>
      advance
      alternative fuel mode first (.item (← escapePattern mode c) :: pieces)
    | some (.char c) =>
      advance
      if mode.verbose && Text.isAsciiBlank c then alternative fuel mode first pieces
      else if mode.verbose && c = '#' then
        restOfLine ((← get).tokens.length + 1)
        alternative fuel mode first pieces
      else match c with
        | '[' => alternative fuel mode first (.item (← classPattern mode) :: pieces)
        | '.' => alternative fuel mode first (.item (.char mode (.any mode.dotAll)) :: pieces)
        | '^' => alternative fuel mode first (.item (.anchor mode .lineStart) :: pieces)
        | '$' => alternative fuel mode first (.item (.anchor mode .lineEnd) :: pieces)
        | '?' => alternative fuel mode first (← repeatLast 0 (some 1) pieces)
        | '*' => alternative fuel mode first (← repeatLast 0 none pieces)
        | '+' => alternative fuel mode first (← repeatLast 1 none pieces)
        | '{' =>
          match ← bounds with
          | some (min, max) => alternative fuel mode first (← repeatLast min max pieces)
          | none =>
            alternative fuel mode first (.item (.char mode (.code c.toNat false)) :: pieces)
        | '(' =>
          if ← accept '?' then extension fuel mode first pieces
          else alternative fuel mode first (.item (← capture fuel mode none) :: pieces)
        | _ => alternative fuel mode first (.item (.char mode (.code c.toNat false)) :: pieces)

/-- A numbered group after its opening. -/
def capture : (fuel : Nat) → Mode → (name : Option (List Char)) → Read Pattern
  | 0, _, _ => fail
  | fuel + 1, mode, name => do
    let number ← openGroup name
    let parts ← alternatives fuel mode false
    close
    let width ← widthOf parts
    modify fun r ↦ { r with widths := r.widths.set number (some width) }
    return .group number (ofList parts)

/-- What begins with a parenthesis and a question mark, and the rest of the alternative. -/
def extension : (fuel : Nat) → Mode → (first : Bool) → (pieces : List Piece) → Read (List Pattern)
  | 0, _, _, _ => fail
  | fuel + 1, mode, first, pieces => do
    match ← demand with
    | .char 'P' =>
      match ← demand with
      | .char '<' =>
        let name ← groupName '>'
        alternative fuel mode first (.item (← capture fuel mode (some name)) :: pieces)
      | .char '=' =>
        let name ← groupName ')'
        match (← get).names.lookup (String.ofList name) with
        | some number => alternative fuel mode first (.item (← reference mode number) :: pieces)
        | none => fail
      | _ => fail
    | .char ':' =>
      let parts ← alternatives fuel mode false
      close
      alternative fuel mode first (.plain parts :: pieces)
    | .char '#' =>
      comment ((← get).tokens.length + 1)
      alternative fuel mode first pieces
    | .char '>' =>
      let parts ← alternatives fuel mode false
      close
      alternative fuel mode first (.item (.atomic (ofList parts)) :: pieces)
    | .char '=' => alternative fuel mode first (.item (← looking fuel mode false false) :: pieces)
    | .char '!' => alternative fuel mode first (.item (← looking fuel mode false true) :: pieces)
    | .char '<' =>
      match ← demand with
      | .char '=' => alternative fuel mode first (.item (← looking fuel mode true false) :: pieces)
      | .char '!' => alternative fuel mode first (.item (← looking fuel mode true true) :: pieces)
      | _ => fail
    | .char '(' =>
      let number ← conditionGroup
      let yes ← alternative fuel mode false []
      let no ← if ← accept '|' then alternative fuel mode false [] else pure []
      close
      alternative fuel mode first
        (.item (.conditional number (ofList yes) (ofList no)) :: pieces)
    | .char c =>
      if !isSetting c && c != '-' then fail
      let s ← settings c
      if s.whole then
        if !first || !pieces.isEmpty then fail
        modify fun r ↦
          { r with
            mode := { r.mode.apply s with asciiOnly := r.mode.asciiOnly || s.on.contains 'a' }
            unicode := r.unicode || s.on.contains 'u'
            plainOnly := r.plainOnly || s.on.contains 't' }
        alternative fuel (← get).mode first pieces
      else
        let parts ← alternatives fuel (mode.apply s) false
        close
        let piece := if s.on.isEmpty && s.off.isEmpty then Piece.plain parts
          else .item (.isolated (ofList parts))
        alternative fuel mode first (piece :: pieces)
    | _ => fail

/-- A part that looks ahead or behind, after its opening. -/
def looking : (fuel : Nat) → Mode → (behind negated : Bool) → Read Pattern
  | 0, _, _, _ => fail
  | fuel + 1, mode, behind, negated => do
    let limit := (← get).behindLimit
    if behind && limit.isNone then
      modify fun r ↦ { r with behindLimit := some r.widths.length }
    let parts ← alternatives fuel mode false
    if behind then modify fun r ↦ { r with behindLimit := limit }
    close
    if !behind then return .look 0 negated (ofList parts)
    match (← widthOf parts).fixed? with
    | some n =>
      if 4294967295 < n then modify fun r ↦ { r with broken := true }
      return .look n negated (ofList parts)
    | none =>
      modify fun r ↦ { r with broken := true }
      return .look 0 negated (ofList parts)

end

/-- The pattern that a text spells, read with the given settings. -/
def parse (text : List Char) (mode : Mode) : Except Fault Pattern := do
  let tokens := Token.ofChars text
  if tokens.head? = some .dangling then throw .malformed
  let start : Reader := ⟨tokens, [none], [], none, [], mode, false, false, false⟩
  let (parts, r) ← (alternatives (3 * tokens.length + 4) mode true).run start
  if r.mode.asciiOnly && r.unicode then throw .mixedClasses
  if !r.tokens.isEmpty || r.conditions.any (r.widths.length ≤ ·) || r.broken then throw .malformed
  return ofList parts

end Scaffold.Pattern
