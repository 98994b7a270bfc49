/-
Instants of a day without a time zone, to the nanosecond. A leap second is written as more than a full
second of nanoseconds after the second before it.
-/
import Sql.Calendar.Date
import Sql.Number.Digits

namespace Sql.Calendar

open Sql.Number

structure Timestamp where
  date : Date
  hour : Nat
  minute : Nat
  second : Nat
  nanos : Nat
deriving DecidableEq, Repr

namespace Timestamp

def billion : Nat := 1000000000

/-- The instant with these fields, if there is one; only the last second of a minute can be leap. -/
def ofFields? (year : Int) (month day hour minute second nanos : Nat) : Option Timestamp :=
  let date : Date := ⟨year, month, day⟩
  if date.isValid && hour < 24 && minute < 60 && second < 60 &&
      (nanos < billion || nanos < 2 * billion && second == 59) then
    some ⟨date, hour, minute, second, nanos⟩
  else none

def secondOfDay (t : Timestamp) : Nat :=
  t.hour * 3600 + t.minute * 60 + t.second

/-- Seconds since 1970-01-01 00:00:00, leap seconds not counted. -/
def toSeconds (t : Timestamp) : Int :=
  t.date.toDays * 86400 + t.secondOfDay

/-- The instant this many seconds earlier; the part of the second stays. -/
def earlier (t : Timestamp) (seconds : Int) : Timestamp :=
  let total := t.toSeconds - seconds
  let rest := (total % 86400).toNat
  ⟨.ofDays (total / 86400), rest / 3600, rest / 60 % 60, rest % 60, t.nanos⟩

/-- The second as a clock shows it: 60 within a leap second. -/
def shownSecond (t : Timestamp) : Nat :=
  t.second + t.nanos / billion

/-- Nanoseconds since the second that the clock shows. -/
def shownNanos (t : Timestamp) : Nat :=
  t.nanos % billion

/-- A part of a second with three, six or nine digits, as few as lose nothing; nothing at all for zero. -/
def fractionText (nanos : Nat) : String :=
  if nanos = 0 then ""
  else if nanos % 1000000 = 0 then "." ++ zeroPadded 3 (nanos / 1000000)
  else if nanos % 1000 = 0 then "." ++ zeroPadded 6 (nanos / 1000)
  else "." ++ zeroPadded 9 nanos

/-- Four digits for the years 0 to 9999, and a sign before at least four digits for all others. -/
def yearText (year : Int) : String :=
  if 0 ≤ year ∧ year ≤ 9999 then zeroPadded 4 year.toNat
  else (if year < 0 then "-" else "+") ++ zeroPadded 4 year.natAbs

/-- The ISO text, as in `2024-02-29T23:59:59.123`. -/
def isoText (t : Timestamp) : String :=
  yearText t.date.year ++ "-" ++ zeroPadded 2 t.date.month ++ "-" ++ zeroPadded 2 t.date.day ++ "T" ++
    zeroPadded 2 t.hour ++ ":" ++ zeroPadded 2 t.minute ++ ":" ++ zeroPadded 2 t.shownSecond ++
    fractionText t.shownNanos

end Timestamp

end Sql.Calendar
