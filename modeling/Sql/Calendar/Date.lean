/-
Days of the Gregorian calendar, extended to all years, the year 0 and negative ones included.
-/
namespace Sql.Calendar

structure Date where
  year : Int
  month : Nat
  day : Nat
deriving DecidableEq, Repr

def isLeapYear (year : Int) : Bool :=
  year % 4 == 0 && (year % 100 != 0 || year % 400 == 0)

def daysInMonth (year : Int) : Nat → Nat
  | 2 => if isLeapYear year then 29 else 28
  | 4 | 6 | 9 | 11 => 30
  | _ => 31

namespace Date

/-- The first and the last year of the calendar. -/
def minYear : Int := -262143

def maxYear : Int := 262142

/-- Whether the fields name a day of a year that the calendar holds. -/
def isValid (d : Date) : Bool :=
  minYear ≤ d.year && d.year ≤ maxYear && 1 ≤ d.month && d.month ≤ 12 && 1 ≤ d.day &&
    d.day ≤ daysInMonth d.year d.month

/-- The days of the first months of a year. -/
def daysInMonths (year : Int) : Nat → Nat
  | 0 => 0
  | m + 1 => daysInMonths year m + daysInMonth year (m + 1)

/-- The place of a day in its year, from 1. -/
def dayOfYear (d : Date) : Nat :=
  daysInMonths d.year (d.month - 1) + d.day

/-- Days since 1970-01-01. Years are counted from March, so that the leap day is a year's last. -/
def toDays (d : Date) : Int :=
  let year := if d.month ≤ 2 then d.year - 1 else d.year
  let era := year.fdiv 400
  let yearOfEra := year - era * 400
  let monthFromMarch : Int := ((d.month + 9) % 12 : Nat)
  let dayOfYear := (153 * monthFromMarch + 2) / 5 + d.day - 1
  era * 146097 + yearOfEra * 365 + yearOfEra / 4 - yearOfEra / 100 + dayOfYear - 719468

/-- The day that lies this many days after 1970-01-01. -/
def ofDays (days : Int) : Date :=
  let shifted := days + 719468
  let era := shifted.fdiv 146097
  let dayOfEra := shifted - era * 146097
  let yearOfEra := (dayOfEra - dayOfEra / 1460 + dayOfEra / 36524 - dayOfEra / 146096) / 365
  let dayOfYear := dayOfEra - (365 * yearOfEra + yearOfEra / 4 - yearOfEra / 100)
  let monthFromMarch := (5 * dayOfYear + 2) / 153
  let day := dayOfYear - (153 * monthFromMarch + 2) / 5 + 1
  let month := if monthFromMarch < 10 then monthFromMarch + 3 else monthFromMarch - 9
  let year := yearOfEra + era * 400
  ⟨if month ≤ 2 then year + 1 else year, month.toNat, day.toNat⟩

/-- Days since Monday, from 0 to 6. -/
def weekday (d : Date) : Nat :=
  ((d.toDays + 3) % 7).toNat

/-- The number of the day's week if weeks begin on the given weekday (0 is Monday), counted from the first such
day of the year. -/
def weekFrom (first : Nat) (d : Date) : Nat :=
  (d.dayOfYear + 6 - (d.weekday + 7 - first) % 7) / 7

/-- Weeks of a year in the ISO calendar: 53 if the year begins on a Thursday, or on a Wednesday and is leap. -/
def isoWeeks (year : Int) : Nat :=
  let first := weekday ⟨year, 1, 1⟩
  if first = 3 ∨ (first = 2 ∧ isLeapYear year) then 53 else 52

/-- The ISO week of a day and the year it counts to: a week belongs to the year that holds its Thursday. -/
def isoWeek (d : Date) : Int × Nat :=
  let week := (d.dayOfYear + 9 - d.weekday) / 7
  if week = 0 then (d.year - 1, isoWeeks (d.year - 1))
  else if isoWeeks d.year < week then (d.year + 1, 1)
  else (d.year, week)

end Date

end Sql.Calendar
