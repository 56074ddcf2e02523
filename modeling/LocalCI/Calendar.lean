/-! Dates and moments of the Gregorian calendar, years 1 to 9999. -/
namespace LocalCI

structure Date where
  year : Nat
  month : Nat
  day : Nat
deriving DecidableEq, Repr

/-- A time of day on a date, with its distance from universal time in minutes if that is known. -/
structure Moment where
  date : Date
  hour : Nat
  minute : Nat
  second : Nat
  micro : Nat
  offset : Option Int
deriving DecidableEq, Repr

/-- Why numbers make no date or no time of day. -/
inductive DateError where
  | year (n : Nat)
  | month
  | day
  | hour
  | minute
  | second
  | offset (minutes : Int)
deriving DecidableEq, Repr

/-- A span of minutes in whole days, rounded down, and the seconds left over. -/
def spanText (minutes : Int) : String :=
  let days := (minutes * 60).fdiv 86400
  let seconds := (minutes * 60).fmod 86400
  let parts := (if days = 0 then [] else [s!"days={days}"]) ++
    (if seconds = 0 then [] else [s!"seconds={seconds}"])
  "datetime.timedelta(" ++ (if parts.isEmpty then "0" else ", ".intercalate parts) ++ ")"

def DateError.message : DateError → String
  | .year n => s!"year {n} is out of range"
  | .month => "month must be in 1..12"
  | .day => "day is out of range for month"
  | .hour => "hour must be in 0..23"
  | .minute => "minute must be in 0..59"
  | .second => "second must be in 0..59"
  | .offset minutes =>
    "offset must be a timedelta strictly between -timedelta(hours=24) and timedelta(hours=24), not " ++
    spanText minutes ++ "."

namespace Date

def isLeap (year : Nat) : Bool := year % 4 == 0 && (year % 100 != 0 || year % 400 == 0)

def daysIn (year month : Nat) : Nat :=
  if month = 2 then (if isLeap year then 29 else 28)
  else if month = 4 || month = 6 || month = 9 || month = 11 then 30
  else 31

/-- What is wrong with a date, if anything. -/
def error? (d : Date) : Option DateError :=
  if d.year < 1 || 9999 < d.year then some (.year d.year)
  else if d.month < 1 || 12 < d.month then some .month
  else if d.day < 1 || daysIn d.year d.month < d.day then some .day
  else none

/-- Days before the date, counted from the start of year 1. -/
def ordinal (d : Date) : Nat :=
  let y := d.year - 1
  y * 365 + y / 4 - y / 100 + y / 400 +
    (List.range (d.month - 1)).foldl (fun days m => days + daysIn d.year (m + 1)) 0 + d.day

/-- A number with at least `width` digits. -/
def padded (width n : Nat) : String :=
  let ds := Nat.toDigits 10 n
  String.ofList (List.replicate (width - ds.length) '0' ++ ds)

def text (d : Date) : String :=
  padded 4 d.year ++ "-" ++ padded 2 d.month ++ "-" ++ padded 2 d.day

/-- The form in which a date stands among the items of a collection. -/
def itemText (d : Date) : String := s!"datetime.date({d.year}, {d.month}, {d.day})"

end Date

namespace Moment

/-- The offset that is a day or more, if it is. -/
def offsetError? (m : Moment) : Option DateError :=
  m.offset.bind fun o => if -1440 < o && o < 1440 then none else some (.offset o)

def timeError? (m : Moment) : Option DateError :=
  if 24 ≤ m.hour then some .hour
  else if 60 ≤ m.minute then some .minute
  else if 60 ≤ m.second then some .second
  else none

/-- What is wrong with a moment, if anything: the offset first, then the date, then the time. -/
def error? (m : Moment) : Option DateError :=
  m.offsetError?.or (m.date.error?.or m.timeError?)

/-- Microseconds of universal time, if the offset is known. -/
def instant? (m : Moment) : Option Int :=
  m.offset.map fun o =>
    let minutes : Int := (m.date.ordinal * 24 + m.hour) * 60 + m.minute - o
    (minutes * 60 + m.second) * 1000000 + m.micro

def offsetText (o : Int) : String :=
  (if o < 0 then "-" else "+") ++ Date.padded 2 (o.natAbs / 60) ++ ":" ++
    Date.padded 2 (o.natAbs % 60)

def text (m : Moment) : String :=
  m.date.text ++ " " ++ Date.padded 2 m.hour ++ ":" ++ Date.padded 2 m.minute ++ ":" ++
    Date.padded 2 m.second ++ (if m.micro = 0 then "" else "." ++ Date.padded 6 m.micro) ++
    (m.offset.map offsetText).getD ""

def offsetItemText (o : Int) : String :=
  if o = 0 then "datetime.timezone.utc"
  else "datetime.timezone(" ++ spanText o ++ ")"

def itemText (m : Moment) : String :=
  let d := m.date
  let fields := [d.year, d.month, d.day, m.hour, m.minute] ++
    (if m.micro ≠ 0 then [m.second, m.micro] else if m.second ≠ 0 then [m.second] else [])
  let parts := fields.map toString ++
    (m.offset.map fun o => ["tzinfo=" ++ offsetItemText o]).getD []
  "datetime.datetime(" ++ ", ".intercalate parts ++ ")"

end Moment
end LocalCI
