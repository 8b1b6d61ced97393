/-! # Dates

Dates of the proleptic Gregorian calendar, year zero and negative years included. Only days that exist
are dates, so arithmetic never meets an impossible one.
-/

namespace Observatory.Calendar

def isLeapYear (year : Int) : Bool :=
  year % 4 == 0 && (year % 100 != 0 || year % 400 == 0)

/-- The number of days in a month, zero for a number that is no month. -/
def daysInMonth (year : Int) : Nat → Nat
  | 1 => 31
  | 2 => if isLeapYear year then 29 else 28
  | 3 => 31
  | 4 => 30
  | 5 => 31
  | 6 => 30
  | 7 => 31
  | 8 => 31
  | 9 => 30
  | 10 => 31
  | 11 => 30
  | 12 => 31
  | _ => 0

/-- The first year that can be represented. -/
def firstYear : Int := -262143

/-- A day that exists. -/
structure Date where
  year : Int
  month : Nat
  day : Nat
  year_bound : firstYear ≤ year
  day_pos : 1 ≤ day
  day_bound : day ≤ daysInMonth year month
deriving DecidableEq, Repr

/-- The date with these numbers, if there is one. -/
def Date.ofNumbers? (year : Int) (month day : Nat) : Option Date :=
  if yearBound : firstYear ≤ year then
    if dayPos : 1 ≤ day then
      if dayBound : day ≤ daysInMonth year month then some ⟨year, month, day, yearBound, dayPos, dayBound⟩
      else none
    else none
  else none

/-- Days before the first of a month in its year. -/
def daysBeforeMonth (year : Int) (month : Nat) : Nat :=
  ((List.range month).map (daysInMonth year)).foldl (· + ·) 0

/-- Days from the first of January of year zero to the first of January of a year. -/
def daysBeforeYear (year : Int) : Int :=
  let before := year - 1
  year * 365 + before / 4 - before / 100 + before / 400

/-- Consecutive days have consecutive numbers. -/
def Date.number (date : Date) : Int :=
  daysBeforeYear date.year + daysBeforeMonth date.year date.month + date.day

end Observatory.Calendar
