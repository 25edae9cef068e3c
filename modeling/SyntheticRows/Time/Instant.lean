import SyntheticRows.Text.Cut
import SyntheticRows.Text.Numeral
import SyntheticRows.Time.Calendar
/-!
Instants of universal time to the nanosecond, read from a date with a time and an offset, and
written in two ways. A leap second is the second that precedes it with a billion nanoseconds more.
-/

namespace SyntheticRows

open Text

structure Instant where
  /-- From the beginning of 1970 on. -/
  seconds : Int
  nanoseconds : Nat
  deriving DecidableEq, Repr

namespace Instant

def secondsOfDay : Int :=
  86400

def billion : Nat :=
  1000000000

/-- A number of two digits at the front of a text. -/
def twoDigits? : List Char → Option (Nat × List Char)
  | a :: b :: rest => (natural? [a, b]).map (·, rest)
  | _ => none

/-- A date, which is there in the calendar. -/
def date? : List Char → Option (Date × List Char)
  | a :: b :: c :: d :: '-' :: rest => do
      let year ← natural? [a, b, c, d]
      let (month, rest) ← twoDigits? rest
      let (day, rest) ← twoDigits? (← after? ['-'] rest)
      let date : Date := { year, month, day }
      if date.isValid then some (date, rest) else none
  | _ => none

/-- The nanoseconds of a fraction; digits behind the ninth do not count. -/
def fraction? (text : List Char) : Option (Nat × List Char) :=
  match text with
  | '.' :: rest =>
      let digits := rest.takeWhile Char.isDigit
      if digits.isEmpty then none
      else
        let nine := (digits ++ List.replicate 9 '0').take 9
        some (decimalValue nine, rest.dropWhile Char.isDigit)
  | _ => some (0, text)

/-- A time of day as seconds and nanoseconds. -/
def time? (text : List Char) : Option (Int × Nat × List Char) := do
  let (hour, rest) ← twoDigits? text
  let (minute, rest) ← twoDigits? (← after? [':'] rest)
  let (second, rest) ← twoDigits? (← after? [':'] rest)
  let (nanoseconds, rest) ← fraction? rest
  if hour < 24 && minute < 60 && second ≤ 60 then
    let isLeap := second == 60
    let seconds := 3600 * hour + 60 * minute + if isLeap then 59 else second
    some (seconds, nanoseconds + if isLeap then billion else 0, rest)
  else none

/-- A plus, or a minus that is written as a hyphen or as the sign U+2212. -/
def sign? (mark : Char) : Option Int :=
  if mark == '+' then some 1
  else if mark == '-' || mark == '\u2212' then some (-1)
  else none

/-- The distance to universal time in seconds. -/
def offset? (text : List Char) : Option Int :=
  match text with
  | ['Z'] | ['z'] => some 0
  | mark :: rest => do
      let sign ← sign? mark
      let (hours, rest) ← twoDigits? rest
      let (minutes, rest) ← twoDigits? (← after? [':'] rest)
      if rest.isEmpty && hours < 24 && minutes < 60 then
        some (sign * (3600 * hours + 60 * minutes))
      else none
  | [] => none

def ofChars? (text : List Char) : Option Instant := do
  let (date, rest) ← date? text
  match rest with
  | separator :: rest =>
      if separator == 'T' || separator == 't' || separator == ' ' then do
        let (seconds, nanoseconds, rest) ← time? rest
        let offset ← offset? rest
        some { seconds := date.toDays * secondsOfDay + seconds - offset, nanoseconds }
      else none
  | [] => none

def ofText? (text : String) : Option Instant :=
  ofChars? text.toList

def date (instant : Instant) : Date :=
  .ofDays (instant.seconds / secondsOfDay)

/-- A year of four digits; other years carry a sign. -/
def yearText (year : Int) : List Char :=
  if 0 ≤ year && year ≤ 9999 then paddedDecimal 4 year.toNat
  else (if year < 0 then '-' else '+') :: paddedDecimal 4 year.natAbs

def dateText (date : Date) : List Char :=
  yearText date.year ++ '-' :: paddedDecimal 2 date.month.toNat ++
    '-' :: paddedDecimal 2 date.day.toNat

/-- The hour, the minute and the second with a mark between them. -/
def timeText (mark : Char) (instant : Instant) : List Char :=
  let ofDay := (instant.seconds % secondsOfDay).toNat
  let second := ofDay % 60 + instant.nanoseconds / billion
  paddedDecimal 2 (ofDay / 3600) ++ mark :: paddedDecimal 2 (ofDay / 60 % 60) ++
    mark :: paddedDecimal 2 second

/-- No digits, three, six or nine, as few as tell the fraction. -/
def fractionText (nanoseconds : Nat) : List Char :=
  if nanoseconds == 0 then []
  else if nanoseconds % 1000000 == 0 then '.' :: paddedDecimal 3 (nanoseconds / 1000000)
  else if nanoseconds % 1000 == 0 then '.' :: paddedDecimal 6 (nanoseconds / 1000)
  else '.' :: paddedDecimal 9 nanoseconds

/-- A date and a time with the offset of universal time. -/
def text (instant : Instant) : String :=
  String.ofList (dateText instant.date ++ 'T' :: instant.timeText ':' ++
    fractionText (instant.nanoseconds % billion) ++ "+00:00".toList)

/-- A date and a time that may stand in a file name. -/
def stamp (instant : Instant) : String :=
  String.ofList (dateText instant.date ++ 'T' :: instant.timeText '-' ++ ['Z'])

end Instant

end SyntheticRows
