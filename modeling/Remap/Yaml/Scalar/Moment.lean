import Remap.Number.Digits
import Remap.Value.Basic
import Remap.Yaml.Error

/-!
# Dates and times in scalars

A date is written as year, month and day; a time of day with fractions and an offset from
universal time may follow.
-/

namespace Remap.Yaml

/-- A time of day as written. -/
structure Clock where
  hour : Nat
  minute : Nat
  second : Nat
  microsecond : Nat
  /-- Minutes east of universal time. -/
  offset : Option Int
deriving Repr, DecidableEq

/-- A date as written, and perhaps a time of day. -/
structure Moment where
  year : Nat
  month : List Char
  day : List Char
  clock : Option Clock
deriving Repr, DecidableEq

namespace Moment

/-- As many digits as there are, at least `least` and at most `most`. -/
def digits? (least most : Nat) (text : List Char) : Option (List Char × List Char) :=
  let found := (text.take most).takeWhile Char.isDigit
  if found.length < least then none else some (found, text.drop found.length)

def number? (least most : Nat) (text : List Char) : Option (Nat × List Char) :=
  (digits? least most text).map fun (digits, rest) => (Digits.toNat 10 digits, rest)

def sign? (c : Char) (text : List Char) : Option (List Char) :=
  match text with
  | d :: rest => if c = d then some rest else none
  | [] => none

def isBlank (c : Char) : Bool := c = ' ' || c = '\t'

/-- The end of a scalar, or the last line feed in it. -/
def ends (text : List Char) : Bool := text.isEmpty || text = ['\n']

/-- Digits of a fraction, as millionths. -/
def microseconds (digits : List Char) : Nat :=
  let six := digits.take 6
  Digits.toNat 10 (six ++ List.replicate (6 - six.length) '0')

/-- An offset after blanks; nothing at all is no offset. -/
def offset? (text : List Char) : Option (Option Int) :=
  if ends text then some none
  else match text.dropWhile isBlank with
    | 'Z' :: rest => if ends rest then some (some 0) else none
    | sign :: rest => do
      if sign ≠ '+' && sign ≠ '-' then none
      let (hours, rest) ← number? 1 2 rest
      let (minutes, rest) ← match rest with
        | ':' :: rest => number? 2 2 rest
        | _ => some (0, rest)
      if !ends rest then none
      let total : Int := 60 * hours + minutes
      return some (if sign = '-' then -total else total)
    | [] => none

def clock? (text : List Char) : Option Clock := do
  let (hour, text) ← number? 1 2 text
  let (minute, text) ← number? 2 2 (← sign? ':' text)
  let (second, text) ← number? 2 2 (← sign? ':' text)
  let (fraction, text) := match text with
    | '.' :: rest => (rest.takeWhile Char.isDigit, rest.dropWhile Char.isDigit)
    | _ => ([], text)
  return { hour, minute, second, microsecond := microseconds fraction, offset := ← offset? text }

def ofText? (text : List Char) : Option Moment := do
  let (year, text) ← number? 4 4 text
  let (month, text) ← digits? 1 2 (← sign? '-' text)
  let (day, text) ← digits? 1 2 (← sign? '-' text)
  let clock ←
    if ends text then some none
    else match text with
      | 'T' :: rest | 't' :: rest => (clock? rest).map some
      | c :: rest => if isBlank c then (clock? (rest.dropWhile isBlank)).map some else none
      | [] => none
  return { year, month, day, clock }

/-- Whether a moment is told from a text by its form: a date alone has two digits for month and
day. -/
def isExplicit (moment : Moment) : Bool :=
  moment.clock.isSome || (moment.month.length = 2 && moment.day.length = 2)

/-- The date or time, if there is one of that name. -/
def read (moment : Moment) : Except CalendarError Scalar :=
  let month := Digits.toNat 10 moment.month
  let day := Digits.toNat 10 moment.day
  match moment.clock with
  | none => (Date.make moment.year month day).map .date
  | some clock =>
    (Timestamp.make moment.year month day clock.hour clock.minute clock.second clock.microsecond
      clock.offset).map .timestamp

end Moment

end Remap.Yaml
