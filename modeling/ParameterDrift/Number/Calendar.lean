import ParameterDrift.Number.Shortest
/-! # Dates and times

A document may hold dates, and moments with a time of day. Both follow the Gregorian calendar of
the years 1 to 9999; a moment may lie at a fixed distance from universal time.
-/

namespace ParameterDrift

/-- A day of the calendar. -/
structure Date where
  year : Nat
  month : Nat
  day : Nat
  deriving DecidableEq, Repr

/-- A time of a day. `offset` is the distance from universal time in minutes, if it is known. -/
structure Moment where
  date : Date
  hour : Nat
  minute : Nat
  second : Nat
  microsecond : Nat
  offset : Option Int
  deriving DecidableEq, Repr

namespace Date

/-- Whether February has a twenty-ninth day. -/
def isLeap (year : Nat) : Bool :=
  year % 4 = 0 && (year % 100 ≠ 0 || year % 400 = 0)

/-- The number of days of a month. -/
def monthLength (year month : Nat) : Nat :=
  if month = 2 then (if isLeap year then 29 else 28)
  else if month = 4 || month = 6 || month = 9 || month = 11 then 30 else 31

/-- Whether the calendar has this day. -/
def isOnCalendar (d : Date) : Bool :=
  1 ≤ d.year && d.year ≤ 9999 && 1 ≤ d.month && d.month ≤ 12 && 1 ≤ d.day &&
    d.day ≤ monthLength d.year d.month

/-- A day as year, month and day of the month with hyphens between. -/
def text (d : Date) : String :=
  String.ofList (Double.paddedDigits 4 d.year ++ '-' :: Double.paddedDigits 2 d.month ++
    '-' :: Double.paddedDigits 2 d.day)

end Date

namespace Moment

/-- Whether the calendar has this moment, at a distance from universal time of less than a day. -/
def isOnCalendar (m : Moment) : Bool :=
  m.date.isOnCalendar && m.hour < 24 && m.minute < 60 && m.second < 60 &&
    (match m.offset with
      | some minutes => minutes.natAbs < 24 * 60
      | none => true)

/-- A distance from universal time, with a sign, in hours and minutes. -/
def offsetText (minutes : Int) : List Char :=
  (if minutes < 0 then '-' else '+') :: Double.paddedDigits 2 (minutes.natAbs / 60) ++
    ':' :: Double.paddedDigits 2 (minutes.natAbs % 60)

/-- A moment as day and time, with `separator` between them; the fraction of a second stands only
when there is one. `universal`, when given, stands for a distance of zero. -/
def textWith (separator : Char) (universal : Option String) (m : Moment) : String :=
  let time := Double.paddedDigits 2 m.hour ++ ':' :: Double.paddedDigits 2 m.minute ++
    ':' :: Double.paddedDigits 2 m.second ++
    (if m.microsecond = 0 then [] else '.' :: Double.paddedDigits 6 m.microsecond)
  let offset := match m.offset, universal with
    | none, _ => []
    | some 0, some mark => mark.toList
    | some minutes, _ => offsetText minutes
  m.date.text ++ String.ofList (separator :: time ++ offset)

/-- A moment for readers, with a space between day and time. -/
def text (m : Moment) : String :=
  m.textWith ' ' none

/-- A moment for interchange, with a `T` between day and time and `Z` for universal time. -/
def interchangeText (m : Moment) : String :=
  m.textWith 'T' (some "Z")

end Moment

end ParameterDrift
