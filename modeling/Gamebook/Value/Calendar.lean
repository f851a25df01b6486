import Gamebook.Number.Decimal

/-!
# Dates and moments

A definitions block may hold calendar dates and moments in time. A moment may carry
its distance from universal time; two moments that both carry one are equal when
they name the same instant, and a moment with a distance never equals one without.
-/

namespace Gamebook

/-- A day of the calendar. -/
structure Date where
  year : Nat
  month : Nat
  day : Nat
deriving DecidableEq

/-- A day and a time on it, which may tell how far it is from universal time. -/
structure Moment where
  date : Date
  hour : Nat
  minute : Nat
  second : Nat
  microsecond : Nat
  /-- Seconds east of universal time. -/
  offset : Option Int
deriving DecidableEq

/-- A number in decimal with zeros in front up to a width. -/
def zeroPadded (width n : Nat) : Text :=
  let ds := Number.writeNat n
  List.replicate (width - ds.length) '0' ++ ds

namespace Date

/-- Whether a year has a leap day. -/
def isLeapYear (year : Nat) : Bool := year % 4 == 0 && (year % 100 != 0 || year % 400 == 0)

/-- How many days a month has. -/
def daysInMonth (year month : Nat) : Nat :=
  if month == 2 then if isLeapYear year then 29 else 28
  else if month == 4 || month == 6 || month == 9 || month == 11 then 30
  else 31

/-- Days from the first day of year one. -/
def dayNumber (d : Date) : Nat :=
  let before := d.year - 1
  let months := (List.range (d.month - 1)).map fun m => daysInMonth d.year (m + 1)
  before * 365 + before / 4 - before / 100 + before / 400 + months.foldr (· + ·) 0 + (d.day - 1)

/-- Year, month and day with dashes. -/
def write (d : Date) : Text :=
  zeroPadded 4 d.year ++ ['-'] ++ zeroPadded 2 d.month ++ ['-'] ++ zeroPadded 2 d.day

/-- The fields of the date, as they stand between the brackets of its inspected form. -/
def fields (d : Date) : Text :=
  Text.joinWith ", ".toList [Number.writeNat d.year, Number.writeNat d.month, Number.writeNat d.day]

/-- A date as it stands inside of a list or a map. -/
def inspect (d : Date) : Text := "datetime.date(".toList ++ d.fields ++ [')']

end Date

namespace Moment

/-- Microseconds from the first day of year one, as the clock on the spot shows them. -/
def localMicroseconds (m : Moment) : Int :=
  (((m.date.dayNumber * 24 + m.hour) * 60 + m.minute) * 60 + m.second) * 1000000 + m.microsecond

/-- Whether two moments are the same instant. -/
def equals (a b : Moment) : Bool :=
  match a.offset, b.offset with
  | none, none => a.localMicroseconds == b.localMicroseconds
  | some x, some y =>
    a.localMicroseconds - x * 1000000 == b.localMicroseconds - y * 1000000
  | _, _ => false

/-- Hours and minutes of a distance from universal time, and seconds where there are any. -/
def writeOffset (z : Int) : Text :=
  let n := z.natAbs
  let seconds := if n % 60 == 0 then [] else ':' :: zeroPadded 2 (n % 60)
  (if z < 0 then '-' else '+') :: zeroPadded 2 (n / 3600) ++ [':'] ++
    zeroPadded 2 (n / 60 % 60) ++ seconds

/-- A time as it stands in a text. -/
def write (m : Moment) : Text :=
  m.date.write ++ [' '] ++ zeroPadded 2 m.hour ++ [':'] ++ zeroPadded 2 m.minute ++ [':'] ++
    zeroPadded 2 m.second ++
    (if m.microsecond == 0 then [] else '.' :: zeroPadded 6 m.microsecond) ++
    (match m.offset with
      | none => []
      | some z => writeOffset z)

/-- The inspected form of a distance: days, which may be negative, and seconds of a day. -/
def inspectOffset (z : Int) : Text :=
  if z == 0 then "datetime.timezone.utc".toList
  else
    let days := z.fdiv 86400
    let seconds := z.fmod 86400
    let parts := (if days == 0 then [] else ["days=".toList ++ Number.writeInt days]) ++
      (if seconds == 0 then [] else ["seconds=".toList ++ Number.writeInt seconds])
    "datetime.timezone(datetime.timedelta(".toList ++ Text.joinWith ", ".toList parts ++
      "))".toList

/-- The inspected form; seconds and microseconds are left out when nothing after the minute is
set. -/
def inspect (m : Moment) : Text :=
  let seconds :=
    if m.microsecond == 0 then if m.second == 0 then [] else [Number.writeNat m.second]
    else [Number.writeNat m.second, Number.writeNat m.microsecond]
  let offset := match m.offset with
    | none => []
    | some z => ["tzinfo=".toList ++ inspectOffset z]
  "datetime.datetime(".toList ++
    Text.joinWith ", ".toList
      ([m.date.fields, Number.writeNat m.hour, Number.writeNat m.minute] ++ seconds ++ offset) ++
    [')']

end Moment

end Gamebook
