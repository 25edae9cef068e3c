/-!
Dates of the Gregorian calendar, which runs backwards and forwards without an end, and days counted
from the first of January 1970. Counting goes by eras of 400 years, and years that begin in March,
so that a leap day comes last.
-/

namespace SyntheticRows

structure Date where
  year : Int
  month : Int
  day : Int
  deriving DecidableEq, Repr

namespace Date

def isLeapYear (year : Int) : Bool :=
  year % 4 == 0 && (year % 100 != 0 || year % 400 == 0)

def daysInMonth (year month : Int) : Int :=
  if month == 2 then if isLeapYear year then 29 else 28
  else if month == 4 || month == 6 || month == 9 || month == 11 then 30
  else 31

def isValid (date : Date) : Bool :=
  1 ≤ date.month && date.month ≤ 12 && 1 ≤ date.day &&
    date.day ≤ daysInMonth date.year date.month

/-- The day that days are counted from. -/
def epoch : Date :=
  { year := 1970, month := 1, day := 1 }

/-- The epoch stands in for a date that the calendar does not have. -/
def orEpoch (date : Date) : Date :=
  if date.isValid then date else epoch

/-- The days of an era. -/
def eraDays : Int :=
  146097

/-- The days from the first of March of the year zero to the first of January 1970. -/
def epochShift : Int :=
  719468

/-- The days of the months in front of a month, counted from March. -/
def daysBeforeMonth (month : Int) : Int :=
  (153 * month + 2) / 5

/-- The days of the years in front of a year of an era. -/
def daysBeforeYear (year : Int) : Int :=
  365 * year + year / 4 - year / 100

def toDays (date : Date) : Int :=
  let year := if date.month ≤ 2 then date.year - 1 else date.year
  let month := (date.month + 9) % 12
  year / 400 * eraDays + daysBeforeYear (year % 400) + daysBeforeMonth month + date.day - 1 -
    epochShift

def ofDays (days : Int) : Date :=
  let shifted := days + epochShift
  let day := shifted % eraDays
  let year := (day - day / 1460 + day / 36524 - day / 146096) / 365
  let dayOfYear := day - daysBeforeYear year
  let month := (5 * dayOfYear + 2) / 153
  let late := 10 ≤ month
  { year := shifted / eraDays * 400 + year + if late then 1 else 0
    month := if late then month - 9 else month + 3
    day := dayOfYear - daysBeforeMonth month + 1 }

end Date

end SyntheticRows
