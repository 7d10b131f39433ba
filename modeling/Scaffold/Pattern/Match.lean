import Scaffold.Pattern.Basic

/-!
# Matching

A pattern is matched by trying, at each place of the text in turn, the ways in which it can match,
in the order that its alternatives and repetitions prefer. The ways are explored by continuations:
what is to be matched afterwards is passed along, and a way counts only if the rest succeeds too. A
group that takes part in a failed way is forgotten with it.

A repetition takes a further copy beyond its least number only at a place other than the one at
which it took the last such copy, so that copies that consume nothing come to an end.
-/

namespace Scaffold.Pattern

/-- Where matching stands: the place in the text, and the ends of the groups so far. -/
structure Place where
  /-- The number of characters before the place. -/
  pos : Nat
  /-- Where groups were last entered, by number. -/
  starts : List (Nat × Nat)
  /-- Where groups were last left, by number. -/
  ends : List (Nat × Nat)
deriving Repr

namespace Place

/-- A place before anything has matched. -/
def startingAt (pos : Nat) : Place := ⟨pos, [], []⟩

/-- The place after consuming `n` more characters. -/
def forward (p : Place) (n : Nat) : Place := { p with pos := p.pos + n }

/-- The part of the text that a group has matched. -/
def span? (p : Place) (number : Nat) : Option (Nat × Nat) := do
  let first ← p.starts.lookup number
  let last ← p.ends.lookup number
  if first ≤ last then some (first, last) else none

/-- Entering a group. -/
def enter (p : Place) (number : Nat) : Place :=
  { p with starts := (number, p.pos) :: p.starts.filter (·.1 != number) }

/-- Leaving a group. -/
def leave (p : Place) (number : Nat) : Place :=
  { p with ends := (number, p.pos) :: p.ends.filter (·.1 != number) }

end Place

/-- What is left to be done at a place, and with which result. -/
abbrev Goal := Place → Option Place

/-- The character with number `i`. -/
def codeAt? (text : Array Char) (i : Nat) : Option Nat :=
  text[i]?.map Char.toNat

/-- A word character stands at number `i`. -/
def wordAt (text : Array Char) (asciiOnly : Bool) (i : Nat) : Bool :=
  (codeAt? text i).any fun n ↦ Category.contains asciiOnly n .word

/-- A line break stands at number `i`. -/
def breakAt (text : Array Char) (i : Nat) : Bool :=
  codeAt? text i == some 10

/-- The place is of the kind that an anchor asks for. An empty text has no boundaries of words, nor
places that are none. -/
def Anchor.holds (text : Array Char) (mode : Mode) (pos : Nat) : Anchor → Bool
  | lineStart => pos == 0 || (mode.multiline && breakAt text (pos - 1))
  | lineEnd =>
    pos == text.size
      || (if mode.multiline then breakAt text pos else pos + 1 == text.size && breakAt text pos)
  | textStart => pos == 0
  | textEnd => pos == text.size
  | boundary negated =>
    let before := pos != 0 && wordAt text mode.asciiOnly (pos - 1)
    let after := wordAt text mode.asciiOnly pos
    !text.isEmpty && ((before != after) != negated)

/-- The text from `i` repeats `n` characters from `j`. -/
def repeatsAt (text : Array Char) (fold : Text.Fold) : (n i j : Nat) → Bool
  | 0, _, _ => true
  | n + 1, i, j =>
    match codeAt? text i, codeAt? text j with
    | some a, some b => fold.key a == fold.key b && repeatsAt text fold n (i + 1) (j + 1)
    | _, _ => false

/-- Copies of `body` followed by `goal`, `count` copies having been taken. The place of the last
copy taken beyond the least number is `last`. -/
def copies (body : Goal → Goal) (lazy : Bool) (min : Nat) (max : Option Nat) (goal : Goal) :
    (fuel count : Nat) → (last : Option Nat) → Goal
  | 0, _, _, _ => none
  | fuel + 1, count, last, p =>
    if count < min then body (copies body lazy min max goal fuel (count + 1) last) p
    else if max.any (· ≤ count) || last == some p.pos then goal p
    else if lazy then
      goal p <|> body (copies body lazy min max goal fuel (count + 1) (some p.pos)) p
    else
      body (copies body lazy min max goal fuel (count + 1) (some p.pos)) p <|> goal p

/-- As many copies of `body` as possible, each matched for itself. -/
def keptCopies (body : Goal) (min : Nat) (max : Option Nat) :
    (fuel count : Nat) → (last : Option Nat) → Goal
  | 0, _, _, _ => none
  | fuel + 1, count, last, p =>
    if count < min then (body p).bind (keptCopies body min max fuel (count + 1) last)
    else if max.any (· ≤ count) || last == some p.pos then some p
    else
      match body p with
      | some q => keptCopies body min max fuel (count + 1) (some p.pos) q
      | none => some p

/-- Copies are taken at most this often from a place. -/
def copyBound (text : Array Char) (min : Nat) (p : Place) : Nat :=
  min + (text.size - p.pos) + 2

/-- The first way to match a pattern from a place and then to reach the goal. -/
def run (text : Array Char) : Pattern → Goal → Goal
  | empty, goal => goal
  | seq first rest, goal => first.run text (rest.run text goal)
  | alt left right, goal => fun p ↦ left.run text goal p <|> right.run text goal p
  | char mode test, goal => fun p ↦
    match codeAt? text p.pos with
    | some n => if test.accepts mode.fold mode.asciiOnly n then goal (p.forward 1) else none
    | none => none
  | anchor mode place, goal => fun p ↦ if place.holds text mode p.pos then goal p else none
  | group number body, goal => fun p ↦
    body.run text (fun q ↦ goal (q.leave number)) (p.enter number)
  | isolated body, goal => body.run text goal
  | atomic body, goal => fun p ↦ (body.run text some p).bind goal
  | rep .greedy min max body, goal => fun p ↦
    copies (body.run text) false min max goal (copyBound text min p) 0 none p
  | rep .lazy min max body, goal => fun p ↦
    copies (body.run text) true min max goal (copyBound text min p) 0 none p
  | rep .possessive min max body, goal => fun p ↦
    (keptCopies (body.run text some) min max (copyBound text min p) 0 none p).bind goal
  | look behind negated body, goal => fun p ↦
    let seen :=
      if behind ≤ p.pos then body.run text some { p with pos := p.pos - behind } else none
    if negated then (if seen.isNone then goal p else none)
    else seen.bind fun q ↦ goal { q with pos := p.pos }
  | backref mode number, goal => fun p ↦
    match p.span? number with
    | some (first, last) =>
      if repeatsAt text mode.fold (last - first) p.pos first then goal (p.forward (last - first))
      else none
    | none => none
  | conditional number yes no, goal => fun p ↦
    if (p.span? number).isSome then yes.run text goal p else no.run text goal p

/-- A match of a pattern in a text. -/
structure Match where
  /-- The number of characters before the match. -/
  start : Nat
  /-- Where the match ends, and what its groups have matched. -/
  stop : Place

/-- The match that starts at `start`, if there is one. It may be required to consume something. -/
def matchAt? (p : Pattern) (text : Array Char) (start : Nat) (nonempty : Bool) : Option Match :=
  (p.run text (fun q ↦ if nonempty && q.pos == start then none else some q) (.startingAt start)).map
    fun stop ↦ ⟨start, stop⟩

/-- The first match that starts at `start` or at one of the `n` places after it. -/
def searchFrom? (p : Pattern) (text : Array Char) :
    (n start : Nat) → (nonempty : Bool) → Option Match
  | 0, start, nonempty => p.matchAt? text start nonempty
  | n + 1, start, nonempty =>
    match p.matchAt? text start nonempty with
    | some m => some m
    | none => searchFrom? p text n (start + 1) false

/-- The first match at or after `start`. At `start` itself it may be required to consume
something. -/
def search? (p : Pattern) (text : Array Char) (start : Nat) (nonempty : Bool) : Option Match :=
  p.searchFrom? text (text.size - start) start nonempty

/-- At most `n` matches from `start` on, each beginning where the one before it ended or later. After
a match that consumed nothing the next one at its place has to consume something. -/
def matchesFrom (p : Pattern) (text : Array Char) :
    (n start : Nat) → (nonempty : Bool) → List Match
  | 0, _, _ => []
  | n + 1, start, nonempty =>
    match p.search? text start nonempty with
    | some m => m :: matchesFrom p text n m.stop.pos (m.stop.pos == m.start)
    | none => []

/-- The first match, or all matches from left to right. -/
def findMatches (p : Pattern) (text : Array Char) (all : Bool) : List Match :=
  p.matchesFrom text (if all then 2 * text.size + 2 else 1) 0 false

end Scaffold.Pattern
