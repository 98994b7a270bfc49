/-
Date patterns: text with directives such as `%Y` and `%-d`, each of which writes one part of a timestamp.

A directive may name a padding between the percent sign and its letter if it writes a number. A pattern with
an unknown directive, or with one that needs a time zone, is no pattern.
-/
import Sql.Calendar.Timestamp

namespace Sql.Calendar

open Sql.Number

/-- A number that a directive writes. -/
inductive Part where
  | year | century | yearOfCentury
  | isoYear | isoYearOfCentury | isoWeek
  | quarter | month | day | dayOfYear
  | weekFromSunday | weekFromMonday
  | daysFromSunday | dayFromMonday
  | hour | hourOfTwelve | minute | second | nanosecond
  | epochSecond

/-- What fills a number up to its width. -/
inductive Padding where
  | bare
  | zeros
  | spaces

/-- A word that a directive writes. -/
inductive Word where
  | month | shortMonth | weekday | shortWeekday | halfOfDay | lowerHalfOfDay

/-- One element of a pattern. -/
inductive PatternItem where
  | literal (c : Char)
  | number (part : Part) (padding : Padding)
  | word (w : Word)
  /-- Digits of the second after a point; all that are needed if `places` is absent. -/
  | fraction (places : Option Nat) (point : Bool)

/-- Two columns. The first counts up from the character 0 and does not stop at 9. -/
def twoColumns (padding : Padding) (n : Int) : List Char :=
  let n := (n % 256).toNat
  let ones := Char.ofNat (0x30 + n % 10)
  match n / 10, padding with
  | 0, .bare => [ones]
  | 0, .spaces => [' ', ones]
  | tens, _ => [Char.ofNat (0x30 + tens), ones]

/-- A signed number filled up to a width that counts the sign; zeros go behind the sign. -/
def columns (padding : Padding) (width : Nat) (sign : List Char) (magnitude : Nat) : List Char :=
  let digits := natDigits magnitude
  match padding with
  | .bare => sign ++ digits
  | .zeros => sign ++ padLeft '0' (width - sign.length) digits
  | .spaces => padLeft ' ' width (sign ++ digits)

/-- Years with more or less than four digits have a sign. -/
def yearColumns (padding : Padding) (year : Int) : List Char :=
  if 0 ≤ year ∧ year ≤ 9999 then columns padding 4 [] year.toNat
  else columns padding 5 [if year < 0 then '-' else '+'] year.natAbs

def Part.write (t : Timestamp) (padding : Padding) : Part → List Char
  | .year => yearColumns padding t.date.year
  | .century => twoColumns padding (t.date.year.fdiv 100)
  | .yearOfCentury => twoColumns padding (t.date.year % 100)
  | .isoYear => yearColumns padding t.date.isoWeek.1
  | .isoYearOfCentury => twoColumns padding (t.date.isoWeek.1 % 100)
  | .isoWeek => twoColumns padding t.date.isoWeek.2
  | .quarter => natDigits ((t.date.month + 2) / 3)
  | .month => twoColumns padding t.date.month
  | .day => twoColumns padding t.date.day
  | .dayOfYear => columns padding 3 [] t.date.dayOfYear
  | .weekFromSunday => twoColumns padding (t.date.weekFrom 6)
  | .weekFromMonday => twoColumns padding (t.date.weekFrom 0)
  | .daysFromSunday => natDigits ((t.date.weekday + 1) % 7)
  | .dayFromMonday => natDigits (t.date.weekday + 1)
  | .hour => twoColumns padding t.hour
  | .hourOfTwelve => twoColumns padding (if t.hour % 12 = 0 then 12 else t.hour % 12)
  | .minute => twoColumns padding t.minute
  | .second => twoColumns padding t.shownSecond
  | .nanosecond => columns padding 9 [] t.shownNanos
  | .epochSecond =>
    columns padding 9 (if t.toSeconds < 0 then ['-'] else []) t.toSeconds.natAbs

def monthNames : List String :=
  ["January", "February", "March", "April", "May", "June", "July", "August", "September", "October", "November",
    "December"]

def weekdayNames : List String :=
  ["Monday", "Tuesday", "Wednesday", "Thursday", "Friday", "Saturday", "Sunday"]

def nameAt (names : List String) (i : Nat) : List Char :=
  (names[i]?.getD "").toList

def Word.write (t : Timestamp) : Word → List Char
  | .month => nameAt monthNames (t.date.month - 1)
  | .shortMonth => (nameAt monthNames (t.date.month - 1)).take 3
  | .weekday => nameAt weekdayNames t.date.weekday
  | .shortWeekday => (nameAt weekdayNames t.date.weekday).take 3
  | .halfOfDay => if t.hour < 12 then ['A', 'M'] else ['P', 'M']
  | .lowerHalfOfDay => if t.hour < 12 then ['a', 'm'] else ['p', 'm']

def PatternItem.write (t : Timestamp) : PatternItem → List Char
  | .literal c => [c]
  | .number part padding => part.write t padding
  | .word w => w.write t
  | .fraction none _ => (Timestamp.fractionText t.shownNanos).toList
  | .fraction (some places) point =>
    (if point then ['.'] else []) ++ padLeft '0' places (natDigits (t.shownNanos / Nat.pow 10 (9 - places)))

/-- The items that one directive letter stands for. -/
def directive : Char → Option (List PatternItem)
  | 'Y' => some [.number .year .zeros]
  | 'C' => some [.number .century .zeros]
  | 'y' => some [.number .yearOfCentury .zeros]
  | 'G' => some [.number .isoYear .zeros]
  | 'g' => some [.number .isoYearOfCentury .zeros]
  | 'V' => some [.number .isoWeek .zeros]
  | 'q' => some [.number .quarter .bare]
  | 'm' => some [.number .month .zeros]
  | 'd' => some [.number .day .zeros]
  | 'e' => some [.number .day .spaces]
  | 'j' => some [.number .dayOfYear .zeros]
  | 'U' => some [.number .weekFromSunday .zeros]
  | 'W' => some [.number .weekFromMonday .zeros]
  | 'w' => some [.number .daysFromSunday .bare]
  | 'u' => some [.number .dayFromMonday .bare]
  | 'H' => some [.number .hour .zeros]
  | 'k' => some [.number .hour .spaces]
  | 'I' => some [.number .hourOfTwelve .zeros]
  | 'l' => some [.number .hourOfTwelve .spaces]
  | 'M' => some [.number .minute .zeros]
  | 'S' => some [.number .second .zeros]
  | 'f' => some [.number .nanosecond .zeros]
  | 's' => some [.number .epochSecond .bare]
  | 'B' => some [.word .month]
  | 'b' | 'h' => some [.word .shortMonth]
  | 'A' => some [.word .weekday]
  | 'a' => some [.word .shortWeekday]
  | 'p' => some [.word .halfOfDay]
  | 'P' => some [.word .lowerHalfOfDay]
  | 'D' | 'x' => some [.number .month .zeros, .literal '/', .number .day .zeros, .literal '/',
      .number .yearOfCentury .zeros]
  | 'F' => some [.number .year .zeros, .literal '-', .number .month .zeros, .literal '-', .number .day .zeros]
  | 'v' => some [.number .day .spaces, .literal '-', .word .shortMonth, .literal '-', .number .year .zeros]
  | 'R' => some [.number .hour .zeros, .literal ':', .number .minute .zeros]
  | 'T' | 'X' => some [.number .hour .zeros, .literal ':', .number .minute .zeros, .literal ':',
      .number .second .zeros]
  | 'r' => some [.number .hourOfTwelve .zeros, .literal ':', .number .minute .zeros, .literal ':',
      .number .second .zeros, .literal ' ', .word .halfOfDay]
  | 'c' => some [.word .shortWeekday, .literal ' ', .word .shortMonth, .literal ' ', .number .day .spaces,
      .literal ' ', .number .hour .zeros, .literal ':', .number .minute .zeros, .literal ':',
      .number .second .zeros, .literal ' ', .number .year .zeros]
  | 't' => some [.literal '\t']
  | 'n' => some [.literal '\n']
  | '%' => some [.literal '%']
  | _ => none

/-- A directive that writes a number, with another padding. -/
def paddedDirective (padding : Padding) (c : Char) : Option (List PatternItem) :=
  match directive c with
  | some [.number part _] => some [.number part padding]
  | _ => none

/-- The digits that a fraction directive can ask for. -/
def fractionPlaces : Char → Option Nat
  | '3' => some 3
  | '6' => some 6
  | '9' => some 9
  | _ => none

/-- The items of a pattern, in order. -/
def patternItems : List Char → Option (List PatternItem)
  | [] => some []
  | '%' :: '-' :: c :: cs => return (← paddedDirective .bare c) ++ (← patternItems cs)
  | '%' :: '0' :: c :: cs => return (← paddedDirective .zeros c) ++ (← patternItems cs)
  | '%' :: '_' :: c :: cs => return (← paddedDirective .spaces c) ++ (← patternItems cs)
  | '%' :: '.' :: 'f' :: cs => return .fraction none true :: (← patternItems cs)
  | '%' :: '.' :: d :: 'f' :: cs => return .fraction (some (← fractionPlaces d)) true :: (← patternItems cs)
  | '%' :: d :: 'f' :: cs =>
    match fractionPlaces d with
    | some places => return .fraction (some places) false :: (← patternItems cs)
    | none => return (← directive d) ++ (.literal 'f' :: (← patternItems cs))
  | '%' :: c :: cs => return (← directive c) ++ (← patternItems cs)
  | '%' :: [] => none
  | c :: cs => return .literal c :: (← patternItems cs)

/-- A timestamp as a pattern writes it; nothing if the text is no pattern. -/
def Timestamp.format (t : Timestamp) (pattern : String) : String :=
  String.ofList (((patternItems pattern.toList).getD []).flatMap (·.write t))

end Sql.Calendar
