import LexicalModel.Json.Number

/-!
# Timestamps

A moment is counted in seconds from the beginning of 1970 and nanoseconds within the second; a
second that is inserted at the end of a minute shows in more than `10 ^ 9` nanoseconds.  It is
written in universal time with milliseconds, a year of other than four digits with its sign.
-/

namespace LexicalModel

/-- A moment. -/
structure Timestamp where
  /-- Seconds from the beginning of 1970. -/
  seconds : Int
  /-- Nanoseconds within the second. -/
  nanos : Nat
  deriving DecidableEq, Repr

/-- A day of the calendar. -/
structure CalendarDay where
  /-- The year. -/
  year : Int
  /-- The month, from 1. -/
  month : Nat
  /-- The day, from 1. -/
  day : Nat
  deriving DecidableEq, Repr

namespace CalendarDay

/-- Days from the first of March of the year 0 to the beginning of 1970. -/
def daysTo1970 : Int := 719468

/-- The day that comes the given number of days after the beginning of 1970.  Years are counted from
March, so that a leap day is the last of its year. -/
def ofDays (n : Int) : CalendarDay :=
  let z := n + daysTo1970
  let era := z.fdiv 146097
  let dayOfEra := (z.fmod 146097).toNat
  let yearOfEra := (dayOfEra - dayOfEra / 1460 + dayOfEra / 36524 - dayOfEra / 146096) / 365
  let dayOfYear := dayOfEra - (365 * yearOfEra + yearOfEra / 4 - yearOfEra / 100)
  let monthFromMarch := (5 * dayOfYear + 2) / 153
  let day := dayOfYear - (153 * monthFromMarch + 2) / 5 + 1
  let month := if monthFromMarch < 10 then monthFromMarch + 3 else monthFromMarch - 9
  let year : Int := yearOfEra + era * 400
  ⟨if month ≤ 2 then year + 1 else year, month, day⟩

end CalendarDay

namespace Timestamp

/-- A number with at least the given count of digits. -/
def padded (width n : Nat) : List Char :=
  let ds := Json.decimalChars n
  List.replicate (width - ds.length) '0' ++ ds

/-- A year: four digits, or a sign and at least four digits. -/
def yearChars (year : Int) : List Char :=
  if 0 ≤ year ∧ year ≤ 9999 then padded 4 year.toNat
  else (if year < 0 then '-' else '+') :: padded 4 year.natAbs

/-- The moment as it is written. -/
def render (t : Timestamp) : String :=
  let day := CalendarDay.ofDays (t.seconds.fdiv 86400)
  let second := (t.seconds.fmod 86400).toNat
  let inserted := t.nanos / 1000000000
  let millis := t.nanos % 1000000000 / 1000000
  String.ofList (yearChars day.year ++ '-' :: padded 2 day.month ++ '-' :: padded 2 day.day ++
    'T' :: padded 2 (second / 3600) ++ ':' :: padded 2 (second / 60 % 60) ++
    ':' :: padded 2 (second % 60 + inserted) ++ '.' :: padded 3 millis ++ ['Z'])

end Timestamp

end LexicalModel
