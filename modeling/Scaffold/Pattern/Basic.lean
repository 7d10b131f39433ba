import Scaffold.Pattern.CharTest

/-!
# Patterns

The search patterns of the `replace` modifier, after reading: what each part looks for, with the
settings that were in force where it was written. The width of a pattern is the range of the numbers
of characters it can consume; a pattern that looks behind must have a single one.
-/

namespace Scaffold

/-- The settings in force at a place of a pattern. -/
structure Pattern.Mode where
  /-- Letters agree with their other forms. -/
  ignoreCase : Bool
  /-- `^` and `$` also stand at line breaks. -/
  multiline : Bool
  /-- `.` also stands for a line break. -/
  dotAll : Bool
  /-- Blanks and comments in the pattern mean nothing. -/
  verbose : Bool
  /-- Classes and cases are those of ASCII. -/
  asciiOnly : Bool
deriving DecidableEq, Repr

namespace Pattern

/-- No settings. -/
def Mode.plain : Mode := ⟨false, false, false, false, false⟩

/-- How a mode compares characters. -/
def Mode.fold (mode : Mode) : Text.Fold :=
  if mode.ignoreCase then (if mode.asciiOnly then .ascii else .full) else .exact

/-- A place in a text. -/
inductive Anchor where
  /-- The start of the text, or of a line in multiline mode. -/
  | lineStart
  /-- The end of the text or of a line break that ends it, or of any line in multiline mode. -/
  | lineEnd
  /-- The start of the text. -/
  | textStart
  /-- The end of the text. -/
  | textEnd
  /-- Between a word character and another, or not between the two. -/
  | boundary (negated : Bool)
deriving DecidableEq, Repr

/-- How many copies a repetition prefers, and whether it gives any back. -/
inductive Greed where
  /-- As many as possible, giving back. -/
  | greedy
  /-- As few as possible, taking more. -/
  | lazy
  /-- As many as possible, giving none back. -/
  | possessive
deriving DecidableEq, Repr

end Pattern

/-- A search pattern. -/
inductive Pattern where
  /-- Nothing. -/
  | empty
  /-- One pattern after the other. -/
  | seq (first rest : Pattern)
  /-- Either pattern, the left one preferred. -/
  | alt (left right : Pattern)
  /-- One character. -/
  | char (mode : Pattern.Mode) (test : Pattern.CharTest)
  /-- A place. -/
  | anchor (mode : Pattern.Mode) (place : Pattern.Anchor)
  /-- A pattern whose match is remembered under a number. -/
  | group (number : Nat) (body : Pattern)
  /-- A pattern with settings of its own. -/
  | isolated (body : Pattern)
  /-- A pattern that keeps its first way to match. -/
  | atomic (body : Pattern)
  /-- Copies of a pattern. -/
  | rep (greed : Pattern.Greed) (min : Nat) (max : Option Nat) (body : Pattern)
  /-- A pattern that must, or must not, match from here on, or so many characters before. -/
  | look (behind : Nat) (negated : Bool) (body : Pattern)
  /-- The text that a group has matched. -/
  | backref (mode : Pattern.Mode) (number : Nat)
  /-- One of two patterns, as a group has matched or not. -/
  | conditional (number : Nat) (yes no : Pattern)
deriving DecidableEq, Repr

namespace Pattern

/-- One pattern after the other, for a list of them. -/
def ofList (items : List Pattern) : Pattern :=
  items.foldr seq empty

/-- One of several patterns, earlier ones preferred. -/
def oneOf : List Pattern → Pattern
  | [] => empty
  | [p] => p
  | p :: ps => alt p (oneOf ps)

/-- The least and the greatest number of characters consumed; no greatest one if there is no bound. -/
structure Width where
  /-- The least number. -/
  least : Nat
  /-- The greatest number. -/
  most : Option Nat
deriving DecidableEq, Repr

namespace Width

/-- A fixed width. -/
def exactly (n : Nat) : Width := ⟨n, some n⟩

/-- The width of two patterns in a row. -/
def add (a b : Width) : Width :=
  ⟨a.least + b.least, do return (← a.most) + (← b.most)⟩

/-- The width of either of two patterns. -/
def join (a b : Width) : Width :=
  ⟨min a.least b.least, do return max (← a.most) (← b.most)⟩

/-- The width of repeated copies. -/
def times (w : Width) (min : Nat) (max : Option Nat) : Width :=
  ⟨w.least * min,
    match w.most, max with
    | some 0, _ => some 0
    | _, some 0 => some 0
    | some n, some m => some (n * m)
    | _, _ => none⟩

/-- The single width, if there is only one. -/
def fixed? (w : Width) : Option Nat :=
  if w.most = some w.least then some w.least else none

end Width

/-- The width of a pattern, given those of the groups before it. -/
def width (groups : Nat → Width) : Pattern → Width
  | empty => .exactly 0
  | seq first rest => (first.width groups).add (rest.width groups)
  | alt left right => (left.width groups).join (right.width groups)
  | char _ _ => .exactly 1
  | anchor _ _ => .exactly 0
  | group _ body => body.width groups
  | isolated body => body.width groups
  | atomic body => body.width groups
  | rep _ min max body => (body.width groups).times min max
  | look _ _ _ => .exactly 0
  | backref _ number => groups number
  | conditional _ yes no => (yes.width groups).join (no.width groups)

end Pattern

end Scaffold
