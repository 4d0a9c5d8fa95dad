import SqlPrep.Text.Digit

/-!
# Calendar days and moments

Days of the proleptic Gregorian calendar from year 1 to 9999, and moments of a day to the
microsecond, with or without an offset from universal time. Building one names the first field that
is out of range.
-/

namespace SqlPrep

/-- Why fields do not make up a day or a moment. -/
inductive CalendarError where
  | year (value : Nat)
  | month
  | day
  | hour
  | minute
  | second
  | offset (minutes : Int)
  deriving DecidableEq

/-- A day of the calendar. -/
structure Day where
  year : Nat
  month : Nat
  day : Nat
  deriving DecidableEq, Inhabited

/-- A moment. `offset` is in minutes east of universal time; without it the moment is local. -/
structure Moment where
  date : Day
  hour : Nat
  minute : Nat
  second : Nat
  micro : Nat
  offset : Option Int
  deriving DecidableEq, Inhabited

namespace Day

/-- Whether a year has a leap day. -/
def isLeap (year : Nat) : Bool :=
  year % 4 == 0 && (year % 100 != 0 || year % 400 == 0)

/-- The number of days of a month. -/
def monthLength (year month : Nat) : Nat :=
  if month = 2 then (if isLeap year then 29 else 28)
  else if month = 4 ∨ month = 6 ∨ month = 9 ∨ month = 11 then 30
  else 31

/-- The day with these fields, or the first field out of range. -/
def ofFields (year month day : Nat) : Except CalendarError Day :=
  if year = 0 ∨ 9999 < year then .error (.year year)
  else if month = 0 ∨ 12 < month then .error .month
  else if day = 0 ∨ monthLength year month < day then .error .day
  else .ok ⟨year, month, day⟩

/-- The number of days since the day before 1 January of year 1. -/
def ordinal (d : Day) : Nat :=
  let before := d.year - 1
  let months := (List.range (d.month - 1)).map fun m => monthLength d.year (m + 1)
  before * 365 + before / 4 - before / 100 + before / 400 + months.foldl (· + ·) 0 + d.day

/-- Year, month and day between hyphens. -/
def text (d : Day) : String :=
  String.ofList (Text.paddedDigits 10 4 d.year ++ ['-'] ++ Text.paddedDigits 10 2 d.month ++
    ['-'] ++ Text.paddedDigits 10 2 d.day)

end Day

namespace Moment

/-- Whether an offset lies less than a day from universal time. -/
def offsetInRange (minutes : Int) : Bool :=
  decide (-1440 < minutes) && decide (minutes < 1440)

/-- The moment with these fields, or the first one out of range. The offset is checked first. -/
def ofFields (year month day hour minute second micro : Nat) (offset : Option Int) :
    Except CalendarError Moment := do
  if let some minutes := offset then
    if !offsetInRange minutes then throw (.offset minutes)
  let date ← Day.ofFields year month day
  if 24 ≤ hour then throw .hour
  if 60 ≤ minute then throw .minute
  if 60 ≤ second then throw .second
  return ⟨date, hour, minute, second, micro, offset⟩

/-- Microseconds since the start of the calendar, by the clock that the fields show. -/
def ticks (m : Moment) : Int :=
  ((((m.date.ordinal * 24 + m.hour) * 60 + m.minute) * 60 + m.second) * 1000000 + m.micro : Nat)

/-- Two moments are the same when both are local and show the same fields, or when both have an
offset and denote the same instant. -/
def same (a b : Moment) : Bool :=
  match a.offset, b.offset with
  | none, none => a.ticks == b.ticks
  | some x, some y => a.ticks - x * 60000000 == b.ticks - y * 60000000
  | _, _ => false

/-- An offset as a signed number of hours and minutes. -/
def offsetText (minutes : Int) : List Char :=
  (if minutes < 0 then '-' else '+') :: Text.paddedDigits 10 2 (minutes.natAbs / 60) ++ [':'] ++
    Text.paddedDigits 10 2 (minutes.natAbs % 60)

/-- Date and time with a separator between them. Microseconds are left out when there are none. -/
def text (separator : Char) (m : Moment) : String :=
  let fraction := if m.micro = 0 then [] else '.' :: Text.paddedDigits 10 6 m.micro
  let offset := match m.offset with
    | some minutes => offsetText minutes
    | none => []
  String.ofList (m.date.text.toList ++ [separator] ++ Text.paddedDigits 10 2 m.hour ++ [':'] ++
    Text.paddedDigits 10 2 m.minute ++ [':'] ++ Text.paddedDigits 10 2 m.second ++ fraction ++
    offset)

end Moment

namespace CalendarError

/-- A span of minutes in days and seconds, the seconds never negative. -/
def spanText (minutes : Int) : String :=
  let days := Int.fdiv minutes 1440
  let seconds := Int.fmod minutes 1440 * 60
  let dayPart := if days = 0 then [] else [s!"days={days}"]
  let secondPart := if seconds = 0 then [] else [s!"seconds={seconds}"]
  let fields := if minutes = 0 then ["0"] else dayPart ++ secondPart
  "datetime.timedelta(" ++ String.intercalate ", " fields ++ ")"

/-- The wording of each cause. -/
def message : CalendarError → String
  | .year value => s!"year {value} is out of range"
  | .month => "month must be in 1..12"
  | .day => "day is out of range for month"
  | .hour => "hour must be in 0..23"
  | .minute => "minute must be in 0..59"
  | .second => "second must be in 0..59"
  | .offset minutes =>
    "offset must be a timedelta strictly between -timedelta(hours=24) and timedelta(hours=24), not "
      ++ spanText minutes ++ "."

end CalendarError
end SqlPrep
