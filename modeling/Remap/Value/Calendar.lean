/-!
# Dates and times of day

Proleptic calendar dates of the years 1 to 9999, and times with microseconds and an optional
offset from universal time. The constructors with a check refuse what no calendar holds and say
which part is wrong.
-/

namespace Remap

structure Date where
  year : Nat
  month : Nat
  day : Nat
deriving Repr, DecidableEq

/-- A date with a time of day; `offset` counts minutes east of universal time. -/
structure Timestamp where
  date : Date
  hour : Nat
  minute : Nat
  second : Nat
  microsecond : Nat
  offset : Option Int
deriving Repr, DecidableEq

/-- The part of a date or time that is out of its range. -/
inductive CalendarError where
  | year (given : Nat)
  | month
  | day
  | hour
  | minute
  | second
  | offset (minutes : Int)
deriving Repr, DecidableEq

namespace Date

def isLeap (year : Nat) : Bool := year % 4 == 0 && (year % 100 != 0 || year % 400 == 0)

def daysIn (year : Nat) : Nat → Nat
  | 2 => if isLeap year then 29 else 28
  | 4 | 6 | 9 | 11 => 30
  | _ => 31

def make (year month day : Nat) : Except CalendarError Date :=
  if year < 1 || 9999 < year then .error (.year year)
  else if month < 1 || 12 < month then .error .month
  else if day < 1 || daysIn year month < day then .error .day
  else .ok ⟨year, month, day⟩

/-- How many days a date lies after the first day of year 1. -/
def dayNumber (d : Date) : Nat :=
  let years := d.year - 1
  let months := (List.range (d.month - 1)).map fun month => daysIn d.year (month + 1)
  365 * years + years / 4 - years / 100 + years / 400 + months.foldl (· + ·) 0 + (d.day - 1)

end Date

/-- Decimal digits, filled with zeros on the left. -/
def paddedDigits (width n : Nat) : String :=
  let digits := toString n
  String.ofList (List.replicate (width - digits.length) '0') ++ digits

namespace Timestamp

/-- A span of minutes, written as whole days and the seconds left of the last one. -/
def displaySpan (minutes : Int) : String :=
  let days := minutes.fdiv 1440
  let seconds := (minutes.fmod 1440) * 60
  let parts := (if days = 0 then [] else ["days=" ++ toString days]) ++
    (if seconds = 0 then [] else ["seconds=" ++ toString seconds])
  "datetime.timedelta(" ++ (if parts.isEmpty then "0" else ", ".intercalate parts) ++ ")"

/-- Of several parts out of range the offset counts first, then the date. -/
def make (year month day hour minute second microsecond : Nat) (offset : Option Int) :
    Except CalendarError Timestamp := do
  if let some minutes := offset then
    if minutes ≤ -1440 || 1440 ≤ minutes then throw (.offset minutes)
  let date ← Date.make year month day
  if 23 < hour then throw .hour
  if 59 < minute then throw .minute
  if 59 < second then throw .second
  return { date, hour, minute, second, microsecond, offset }

/-- The microseconds from the start of year 1 in universal time to a timestamp that says how far it
is from there. Timestamps with the same instant name the same point of time. -/
def instant? (t : Timestamp) : Option Int :=
  t.offset.map fun offset =>
    let minutes : Int := (t.date.dayNumber * 24 + t.hour : Nat) * 60 + t.minute - offset
    (minutes * 60 + t.second) * 1000000 + t.microsecond

/-- Date and time in the standard notation, with an offset if there is one. -/
def display (t : Timestamp) : String :=
  let date := s!"{paddedDigits 4 t.date.year}-{paddedDigits 2 t.date.month}-" ++
    paddedDigits 2 t.date.day
  let time := s!"{paddedDigits 2 t.hour}:{paddedDigits 2 t.minute}:{paddedDigits 2 t.second}"
  let fraction := if t.microsecond = 0 then "" else "." ++ paddedDigits 6 t.microsecond
  let offset := match t.offset with
    | none => ""
    | some m => (if m < 0 then "-" else "+") ++
      s!"{paddedDigits 2 (m.natAbs / 60)}:{paddedDigits 2 (m.natAbs % 60)}"
  date ++ " " ++ time ++ fraction ++ offset

/-- The form shown inside lists and tables: each component by name or place. -/
def quoted (t : Timestamp) : String :=
  let clock := if t.microsecond ≠ 0 then [t.hour, t.minute, t.second, t.microsecond]
    else if t.second ≠ 0 then [t.hour, t.minute, t.second]
    else [t.hour, t.minute]
  let numbers := [t.date.year, t.date.month, t.date.day] ++ clock
  let zone := match t.offset with
    | none => []
    | some 0 => ["tzinfo=datetime.timezone.utc"]
    | some m => ["tzinfo=datetime.timezone(" ++ displaySpan m ++ ")"]
  "datetime.datetime(" ++ ", ".intercalate (numbers.map toString ++ zone) ++ ")"

end Timestamp

namespace Date

def display (d : Date) : String :=
  s!"{paddedDigits 4 d.year}-{paddedDigits 2 d.month}-{paddedDigits 2 d.day}"

def quoted (d : Date) : String := s!"datetime.date({d.year}, {d.month}, {d.day})"

end Date

def CalendarError.message : CalendarError → String
  | .year given => s!"year {given} is out of range"
  | .month => "month must be in 1..12"
  | .day => "day is out of range for month"
  | .hour => "hour must be in 0..23"
  | .minute => "minute must be in 0..59"
  | .second => "second must be in 0..59"
  | .offset minutes =>
    "offset must be a timedelta strictly between -timedelta(hours=24) and timedelta(hours=24), not "
      ++ Timestamp.displaySpan minutes ++ "."

end Remap
