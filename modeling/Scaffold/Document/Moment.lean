/-!
# Dates and times

A date of the Gregorian calendar, and a time of day on a date, with or without its distance from
universal time. Each has a plain form, in which it is shown, and a form that tells its parts, in which
it is shown inside other values.
-/

namespace Scaffold.Document

/-- Why numbers are no date or time. -/
inductive MomentFault where
  /-- There is no such year. -/
  | year (year : Nat)
  /-- There is no such month. -/
  | month
  /-- The month has no such day. -/
  | day
  /-- There is no such hour. -/
  | hour
  /-- There is no such minute. -/
  | minute
  /-- There is no such second. -/
  | second
  /-- The distance from universal time, in minutes, is a day or more. -/
  | offset (minutes : Int)
deriving DecidableEq, Repr

/-- A date. -/
structure Date where
  /-- The year. -/
  year : Nat
  /-- The month, from one. -/
  month : Nat
  /-- The day of the month, from one. -/
  day : Nat
deriving DecidableEq, Repr

/-- A time of day on a date. -/
structure Moment where
  /-- The date. -/
  date : Date
  /-- The hour. -/
  hour : Nat
  /-- The minute. -/
  minute : Nat
  /-- The second. -/
  second : Nat
  /-- The millionths of a second. -/
  micro : Nat
  /-- The distance from universal time in minutes, if it is known. -/
  offset : Option Int
deriving DecidableEq, Repr

/-- A number with zeros in front up to a width. -/
def padded (width n : Nat) : String :=
  let digits := toString n
  String.ofList (List.replicate (width - digits.length) '0') ++ digits

/-- A leap year. -/
def isLeap (year : Nat) : Bool :=
  year % 4 == 0 && (year % 100 != 0 || year % 400 == 0)

/-- The number of days of a month. -/
def daysInMonth (year month : Nat) : Nat :=
  if month = 2 then (if isLeap year then 29 else 28)
  else if month = 4 || month = 6 || month = 9 || month = 11 then 30
  else 31

namespace Date

/-- The date with the given numbers. -/
def make (year month day : Nat) : Except MomentFault Date :=
  if year = 0 then .error (.year year)
  else if month = 0 || 12 < month then .error .month
  else if day = 0 || daysInMonth year month < day then .error .day
  else .ok ⟨year, month, day⟩

/-- The number of days before a date. -/
def dayNumber (d : Date) : Nat :=
  let before := d.year - 1
  let months := (List.range (d.month - 1)).foldl (fun n m ↦ n + daysInMonth d.year (m + 1)) 0
  365 * before + before / 4 - before / 100 + before / 400 + months + d.day

/-- The plain form. -/
def text (d : Date) : String :=
  padded 4 d.year ++ "-" ++ padded 2 d.month ++ "-" ++ padded 2 d.day

/-- The numbers of a date, with commas. -/
def numbers (d : Date) : String := s!"{d.year}, {d.month}, {d.day}"

/-- The form that tells the parts. -/
def detailed (d : Date) : String := s!"datetime.date({d.numbers})"

end Date

/-- A span of minutes in the form that tells its parts: whole days rounded down, and seconds. -/
def spanText (minutes : Int) : String :=
  let days := minutes.fdiv 1440
  let seconds := (minutes - days * 1440) * 60
  let parts :=
    (if days = 0 then [] else [s!"days={days}"]) ++
      (if seconds = 0 then [] else [s!"seconds={seconds}"])
  let inside := if parts.isEmpty then "0" else String.intercalate ", " parts
  s!"datetime.timedelta({inside})"

namespace Moment

/-- The moment with the given numbers. -/
def make (date : Nat × Nat × Nat) (hour minute second micro : Nat) (offset : Option Int) :
    Except MomentFault Moment := do
  match offset with
  | some minutes => if 1440 ≤ minutes.natAbs then throw (.offset minutes)
  | none => pure ()
  let date ← Date.make date.1 date.2.1 date.2.2
  if 24 ≤ hour then throw .hour
  if 60 ≤ minute then throw .minute
  if 60 ≤ second then throw .second
  return ⟨date, hour, minute, second, micro, offset⟩

/-- The plain form. -/
def text (m : Moment) : String :=
  let fraction := if m.micro = 0 then "" else "." ++ padded 6 m.micro
  let zone := match m.offset with
    | none => ""
    | some minutes =>
      (if minutes < 0 then "-" else "+") ++ padded 2 (minutes.natAbs / 60) ++ ":" ++
        padded 2 (minutes.natAbs % 60)
  m.date.text ++ " " ++ padded 2 m.hour ++ ":" ++ padded 2 m.minute ++ ":" ++ padded 2 m.second ++
    fraction ++ zone

/-- The form that tells the parts. -/
def detailed (m : Moment) : String :=
  let small :=
    if m.micro ≠ 0 then s!", {m.second}, {m.micro}"
    else if m.second ≠ 0 then s!", {m.second}"
    else ""
  let zone := match m.offset with
    | none => ""
    | some minutes =>
      if minutes = 0 then ", tzinfo=datetime.timezone.utc"
      else s!", tzinfo=datetime.timezone({spanText minutes})"
  s!"datetime.datetime({m.date.numbers}, {m.hour}, {m.minute}{small}{zone})"

/-- The minutes up to the moment, in universal time if its distance from it is known. -/
def minutes (m : Moment) : Int :=
  ((m.date.dayNumber * 24 + m.hour) * 60 + m.minute : Nat) - m.offset.getD 0

/-- The moments are one, as far as can be told. -/
def same (a b : Moment) : Bool :=
  a.offset.isSome == b.offset.isSome && a.minutes == b.minutes && a.second == b.second
    && a.micro == b.micro

end Moment

/-- Why numbers are no date or time, in words. -/
def MomentFault.message : MomentFault → String
  | year n => s!"year {n} is out of range"
  | month => "month must be in 1..12"
  | day => "day is out of range for month"
  | hour => "hour must be in 0..23"
  | minute => "minute must be in 0..59"
  | second => "second must be in 0..59"
  | offset minutes =>
    "offset must be a timedelta strictly between -timedelta(hours=24) and timedelta(hours=24), not " ++
      spanText minutes ++ "."

end Scaffold.Document
