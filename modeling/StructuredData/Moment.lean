import StructuredData.Text.Basic

/-!
# Moments

A moment is a date of the calendar and a time of day with microseconds.  It is written in the form
in which reports, file names and JSON show it.
-/

namespace StructuredData

/-- A date and a time of day. -/
structure Moment where
  year : Nat
  month : Nat
  day : Nat
  hour : Nat := 0
  minute : Nat := 0
  second : Nat := 0
  microsecond : Nat := 0
deriving DecidableEq

namespace Moment

/-! ## The calendar -/

/-- Every fourth year is longer, of the full centuries only every fourth. -/
def isLeapYear (year : Nat) : Bool :=
  year % 4 = 0 && (year % 100 ≠ 0 || year % 400 = 0)

/-- The number of days of a month. -/
def daysInMonth (year month : Nat) : Nat :=
  if month = 2 then (if isLeapYear year then 29 else 28)
  else if month = 4 || month = 6 || month = 9 || month = 11 then 30
  else 31

/-- The days from the first of January of year one on. -/
def dayNumber (m : Moment) : Nat :=
  let y := m.year - 1
  365 * y + y / 4 - y / 100 + y / 400 +
    (List.range (m.month - 1)).foldl (fun days i => days + daysInMonth m.year (i + 1)) 0 +
    (m.day - 1)

/-- The microseconds from the start of year one on. -/
def instant (m : Moment) : Nat :=
  (((m.dayNumber * 24 + m.hour) * 60 + m.minute) * 60 + m.second) * 1000000 + m.microsecond

/-- What no calendar or clock has. -/
inductive CalendarFault
  | year (year : Nat)
  | month
  | day
  | hour
  | minute
  | second
deriving DecidableEq

/-- The wording of a fault. -/
def CalendarFault.message : CalendarFault → Text
  | .year n => "year " ++ Text.ofNat n ++ " is out of range"
  | .month => "month must be in 1..12"
  | .day => "day is out of range for month"
  | .hour => "hour must be in 0..23"
  | .minute => "minute must be in 0..59"
  | .second => "second must be in 0..59"

/-- The first part of a moment that no calendar or clock has. -/
def fault? (m : Moment) : Option CalendarFault :=
  if m.year = 0 || 9999 < m.year then some (.year m.year)
  else if m.month = 0 || 12 < m.month then some .month
  else if m.day = 0 || daysInMonth m.year m.month < m.day then some .day
  else if 23 < m.hour then some .hour
  else if 59 < m.minute then some .minute
  else if 59 < m.second then some .second
  else none

/-! ## Written forms -/

/-- A number with two digits. -/
def two (n : Nat) : Text := Text.padLeft '0' 2 (Text.ofNat n)

/-- The date, with the year as it is. -/
def dateText (m : Moment) : Text := Text.ofNat m.year ++ "-" ++ two m.month ++ "-" ++ two m.day

/-- Date and time as reports show them. -/
def shown (m : Moment) : Text :=
  m.dateText ++ " " ++ two m.hour ++ ":" ++ two m.minute ++ ":" ++ two m.second

/-- Date and time as part of a file name. -/
def stamp (m : Moment) : Text :=
  m.dateText ++ "_" ++ two m.hour ++ two m.minute ++ two m.second

/-- The date, with a year of four digits. -/
def isoDate (m : Moment) : Text :=
  Text.padLeft '0' 4 (Text.ofNat m.year) ++ "-" ++ two m.month ++ "-" ++ two m.day

/-- The time, with the microseconds where there are any. -/
def isoTime (m : Moment) : Text :=
  let whole := two m.hour ++ ":" ++ two m.minute ++ ":" ++ two m.second
  if m.microsecond = 0 then whole
  else whole ++ "." ++ Text.padLeft '0' 6 (Text.ofNat m.microsecond)

/-- Date and time with a T between them. -/
def iso (m : Moment) : Text := m.isoDate ++ "T" ++ m.isoTime

/-! ## Reading -/

/-- Reads a row of digits, at least `least` and at most `most` of them. -/
def takeNumber (least most : Nat) (t : Text) : Option (Nat × Text) :=
  let digits := (t.take most).takeWhile CodePoint.isAsciiDigit
  if digits.length < least then none
  else some (digits.foldl (fun n c => 10 * n + (c.val - 48)) 0, t.drop digits.length)

/-- Reads one code point of the given class. -/
def takePoint (p : CodePoint → Bool) : Text → Option Text
  | [] => none
  | c :: rest => if p c then some rest else none

/-- The microseconds that the digits after a point write; digits beyond the sixth are dropped. -/
def fractionValue (digits : Text) : Nat :=
  ((digits ++ List.replicate 6 ('0' : CodePoint)).take 6).foldl
    (fun n c => 10 * n + (c.val - 48)) 0

/-- Reads a fraction of a second, if there is one. -/
def takeFraction (t : Text) : Nat × Text :=
  match t with
  | [] => (0, [])
  | c :: rest =>
    if c = '.' then
      (fractionValue (rest.takeWhile CodePoint.isAsciiDigit),
        rest.dropWhile CodePoint.isAsciiDigit)
    else (0, t)

/-- Reads a date of which month and day have at least the given number of digits. -/
def takeDate (least : Nat) (t : Text) : Option (Moment × Text) := do
  let (year, t) ← takeNumber 4 4 t
  let (month, t) ← takeNumber least 2 (← takePoint (· = '-') t)
  let (day, t) ← takeNumber least 2 (← takePoint (· = '-') t)
  return ({ year, month, day }, t)

/-- Reads a time of which the hour has at least the given number of digits, and gives it to a
date. -/
def takeTime (least : Nat) (m : Moment) (t : Text) : Option (Moment × Text) := do
  let (hour, t) ← takeNumber least 2 t
  let (minute, t) ← takeNumber 2 2 (← takePoint (· = ':') t)
  let (second, t) ← takeNumber 2 2 (← takePoint (· = ':') t)
  let (microsecond, t) := takeFraction t
  return ({ m with hour, minute, second, microsecond }, t)

/-- The moment that a text writes: a date, a T or a blank, and a time. -/
def ofText? (t : Text) : Option Moment := do
  let (date, t) ← takeDate 2 t
  let (m, t) ← takeTime 2 date (← takePoint (fun c => c = 'T' || c = ' ') t)
  if t.isEmpty then return m else none

end Moment

end StructuredData
