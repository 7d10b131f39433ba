import Scaffold.Pattern.Match

/-!
# Replacing matches

What is put in the place of a match may speak of it: `$&` is the text matched, `$1` to `$99` are the
texts that groups have matched, and `$$` is a dollar. Two digits name a group only if the pattern
has that many groups; else the first digit does and the second stands for itself. A reference to a
group that the pattern lacks stays as written, and a group that took no part is empty.
-/

namespace Scaffold.Pattern

/-- The number of groups. -/
def groupCount : Pattern → Nat
  | empty => 0
  | seq first rest => first.groupCount + rest.groupCount
  | alt left right => left.groupCount + right.groupCount
  | char _ _ => 0
  | anchor _ _ => 0
  | group _ body => body.groupCount + 1
  | isolated body => body.groupCount
  | atomic body => body.groupCount
  | rep _ _ _ body => body.groupCount
  | look _ _ body => body.groupCount
  | backref _ _ => 0
  | conditional _ yes no => yes.groupCount + no.groupCount

/-- The texts that a replacement can speak of. -/
structure Captured where
  /-- The text matched. -/
  whole : List Char
  /-- The text matched by the group with a given number, for the groups that the pattern has. -/
  group? : Nat → Option (List Char)

/-- The replacement with its references filled in. -/
def Captured.expand (m : Captured) : List Char → List Char
  | [] => []
  | '$' :: '$' :: rest => '$' :: m.expand rest
  | '$' :: '&' :: rest => m.whole ++ m.expand rest
  | '$' :: c :: rest =>
    match Text.digitValue? c with
    | none => '$' :: m.expand (c :: rest)
    | some d =>
      match rest with
      | e :: rest' =>
        match (Text.digitValue? e).bind fun k ↦ m.group? (10 * d + k), m.group? d with
        | some text, _ => text ++ m.expand rest'
        | none, some text => text ++ m.expand (e :: rest')
        | none, none => '$' :: c :: m.expand (e :: rest')
      | [] =>
        match m.group? d with
        | some text => text
        | none => ['$', c]
  | c :: rest => c :: m.expand rest

/-- The part of a text from one place to another. -/
def slice (text : Array Char) (first last : Nat) : List Char :=
  (text.extract first last).toList

/-- The texts that a replacement can speak of, for a match. -/
def Match.captured (m : Match) (text : Array Char) (groups : Nat) : Captured where
  whole := slice text m.start m.stop.pos
  group? number :=
    if 1 ≤ number && number ≤ groups then
      some (match m.stop.span? number with
        | some (first, last) => slice text first last
        | none => [])
    else none

/-- The text from `start` on with each match replaced. -/
def fill (text : Array Char) (render : Match → List Char) : (start : Nat) → List Match → List Char
  | start, [] => slice text start text.size
  | start, m :: ms => slice text start m.start ++ render m ++ fill text render m.stop.pos ms

/-- The text with its first match, or all its matches, replaced. -/
def replace (p : Pattern) (replacement : List Char) (all : Bool) (text : List Char) : List Char :=
  let chars := text.toArray
  fill chars (fun m ↦ (m.captured chars p.groupCount).expand replacement) 0
    (p.findMatches chars all)

end Scaffold.Pattern
