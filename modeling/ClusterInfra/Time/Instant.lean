import ClusterInfra.Text.Blank
/-!
Points in time, as a date and a time of day in UTC.

An instant is kept by its calendar fields, down to the nanosecond; second 60 is a leap second. Times
with an offset from UTC are moved by it when they are read, which changes the date by at most a day
since an offset stays below 24 hours.
-/

namespace ClusterInfra

/-- Whether a year of the Gregorian calendar has a 29th of February. -/
def isLeapYear (year : Int) : Bool :=
  year % 4 = 0 && (year % 100 ≠ 0 || year % 400 = 0)

/-- The number of days of a month. -/
def daysInMonth (year : Int) (month : Nat) : Nat :=
  if month = 2 then (if isLeapYear year then 29 else 28)
  else if month = 4 ∨ month = 6 ∨ month = 9 ∨ month = 11 then 30
  else 31

/-- Years from `-262143` to `262142` can be represented. -/
def yearInRange (year : Int) : Bool := -262143 ≤ year && year ≤ 262142

/-- The fields make a date of the calendar. -/
def IsDate (year : Int) (month day : Nat) : Prop :=
  yearInRange year = true ∧ (1 ≤ month ∧ month ≤ 12) ∧ (1 ≤ day ∧ day ≤ daysInMonth year month)

instance (year : Int) (month day : Nat) : Decidable (IsDate year month day) :=
  inferInstanceAs (Decidable (_ ∧ _))

/-- A day of the Gregorian calendar. -/
structure Date where
  year : Int
  month : Nat
  day : Nat
  isDate : IsDate year month day
  deriving DecidableEq

namespace Date

/-- The date with these fields, if they make one. -/
def of? (year : Int) (month day : Nat) : Option Date :=
  if h : IsDate year month day then some ⟨year, month, day, h⟩ else none

/-- The day after, unless the calendar ends. -/
def next? (date : Date) : Option Date :=
  if date.day < daysInMonth date.year date.month then of? date.year date.month (date.day + 1)
  else if date.month < 12 then of? date.year (date.month + 1) 1
  else of? (date.year + 1) 1 1

/-- The day before, unless the calendar begins. -/
def previous? (date : Date) : Option Date :=
  if 1 < date.day then of? date.year date.month (date.day - 1)
  else if 1 < date.month then
    of? date.year (date.month - 1) (daysInMonth date.year (date.month - 1))
  else of? (date.year - 1) 12 31

end Date

/-- The fields make a time of day; second 60 is a leap second. -/
def IsTimeOfDay (hour minute second nano : Nat) : Prop :=
  hour < 24 ∧ minute < 60 ∧ second ≤ 60 ∧ nano < 1000000000

instance (hour minute second nano : Nat) : Decidable (IsTimeOfDay hour minute second nano) :=
  inferInstanceAs (Decidable (_ ∧ _))

/-- A point in time, in UTC. -/
structure Instant where
  date : Date
  hour : Nat
  minute : Nat
  second : Nat
  nano : Nat
  isTimeOfDay : IsTimeOfDay hour minute second nano
  deriving DecidableEq

namespace Instant

/-- The instant with these fields, if they make a time of day. -/
def of? (date : Date) (hour minute second nano : Nat) : Option Instant :=
  if h : IsTimeOfDay hour minute second nano then some ⟨date, hour, minute, second, nano, h⟩
  else none

/-- Moves a local time to UTC, given the minutes by which it is ahead of UTC: less than a day. -/
def toUtc? (t : Instant) (ahead : Int) : Option Instant :=
  let minutes : Int := t.hour * 60 + t.minute - ahead
  let date? : Option Date :=
    if minutes < 0 then t.date.previous?
    else if minutes < 1440 then some t.date
    else t.date.next?
  date?.bind fun date =>
    let ofDay := (minutes % 1440).toNat
    of? date (ofDay / 60) (ofDay % 60) t.second t.nano

end Instant

/-- An instant without a fraction of a second. -/
abbrev WholeSecond := { t : Instant // t.nano = 0 }

/-- The instant with its fraction of a second dropped. -/
def Instant.wholeSecond (t : Instant) : WholeSecond :=
  ⟨⟨t.date, t.hour, t.minute, t.second, 0, by
    obtain ⟨h, m, s, _⟩ := t.isTimeOfDay
    exact ⟨h, m, s, by decide⟩⟩, rfl⟩

end ClusterInfra
