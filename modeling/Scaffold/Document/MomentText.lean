import Scaffold.Document.Moment
import Scaffold.Text.Numeral

/-!
# Reading dates and times

A date is written as year, month and day with hyphens between them. The time of day may follow, after
the letter T or blanks: hour, minute and second with colons between them, a fraction of the second, and
the letter Z or the distance from universal time.
-/

namespace Scaffold.Document

/-- A time of day as it is written. -/
structure TimeText where
  /-- The hour. -/
  hour : Nat
  /-- The minute. -/
  minute : Nat
  /-- The second. -/
  second : Nat
  /-- The digits of the fraction of the second. -/
  fraction : List Nat
  /-- The distance from universal time in minutes, if it is written. -/
  offset : Option Int

/-- A date as it is written, and the time of day if there is one. -/
structure MomentText where
  /-- The year. -/
  year : Nat
  /-- The month. -/
  month : Nat
  /-- The day. -/
  day : Nat
  /-- The time of day. -/
  time : Option TimeText

namespace MomentText

open Text (isAsciiDigit)

/-- At least `least` and at most `most` digits at the front of a text, and what follows them. -/
def digits (least most : Nat) (text : List Char) : Option (Nat × List Char) :=
  let run := (text.take most).takeWhile isAsciiDigit
  if run.length < least then none
  else some (Text.Numeral.ofDigits 10 (run.filterMap (Text.Numeral.digit? 10)), text.drop run.length)

/-- What follows a character at the front of a text. -/
def after (c : Char) : List Char → Option (List Char)
  | d :: rest => if c = d then some rest else none
  | [] => none

/-- A space or tab. -/
def isBlank (c : Char) : Bool := c == ' ' || c == '\t'

/-- The distance from universal time, at the end of a text. -/
def offset? (text : List Char) : Option (Option Int) :=
  match text, text.dropWhile isBlank with
  | [], _ => some none
  | _, ['Z'] => some (some 0)
  | _, sign :: rest => do
    if sign != '+' && sign != '-' then none
    let (hours, rest) ← digits 1 2 rest
    let minutes ←
      match rest with
      | [] => some 0
      | ':' :: rest =>
        match digits 2 2 rest with
        | some (minutes, []) => some minutes
        | _ => none
      | _ => none
    let size : Int := hours * 60 + minutes
    return some (if sign = '-' then -size else size)
  | _, [] => none

/-- A time of day at the end of a text. -/
def time? (text : List Char) : Option TimeText := do
  let (hour, rest) ← digits 1 2 text
  let (minute, rest) ← digits 2 2 (← after ':' rest)
  let (second, rest) ← digits 2 2 (← after ':' rest)
  let (fraction, rest) := match rest with
    | '.' :: rest => (rest.takeWhile isAsciiDigit, rest.dropWhile isAsciiDigit)
    | _ => ([], rest)
  return ⟨hour, minute, second, fraction.filterMap (Text.Numeral.digit? 10), ← offset? rest⟩

/-- A date and perhaps a time. -/
def ofText? (text : List Char) : Option MomentText := do
  let (year, rest) ← digits 4 4 text
  let (month, rest) ← digits 1 2 (← after '-' rest)
  let (day, rest) ← digits 1 2 (← after '-' rest)
  match rest with
  | [] => return ⟨year, month, day, none⟩
  | c :: rest' =>
    if c = 'T' || c = 't' then return ⟨year, month, day, some (← time? rest')⟩
    else if isBlank c then return ⟨year, month, day, some (← time? (rest'.dropWhile isBlank))⟩
    else none

/-- The usual form of a date or time: a date alone has two digits for its month and for its day. -/
def isUsual (text : List Char) : Bool :=
  match ofText? text with
  | some m => m.time.isSome || text.length == 10
  | none => false

/-- The millionths of a second that the digits of a fraction stand for; further digits are
dropped. -/
def micro (fraction : List Nat) : Nat :=
  let kept := fraction.take 6
  Text.Numeral.ofDigits 10 (kept ++ List.replicate (6 - kept.length) 0)

end MomentText

end Scaffold.Document
