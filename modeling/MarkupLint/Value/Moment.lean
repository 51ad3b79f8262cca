/-!
Points in time: days of the calendar, and moments of a day with or without a known offset
from universal time.

Days are counted from the beginning of the calendar, so that moments are compared as numbers.
Moments with offsets are compared by what universal time they stand for.
-/
namespace MarkupLint

structure Date where
  year : Nat
  month : Nat
  day : Nat
  deriving DecidableEq, Repr

structure ClockTime where
  hour : Nat
  minute : Nat
  second : Nat
  micros : Nat
  /-- Minutes ahead of universal time, when known. -/
  offset : Option Int
  deriving DecidableEq, Repr

structure Timestamp where
  date : Date
  time : Option ClockTime
  deriving DecidableEq, Repr

namespace Date

def isLeap (year : Nat) : Bool :=
  year % 4 == 0 && (year % 100 != 0 || year % 400 == 0)

def daysIn (year month : Nat) : Nat :=
  if month = 2 then (if isLeap year then 29 else 28)
  else if [4, 6, 9, 11].contains month then 30 else 31

/-- Days of a year that come before a month. -/
def daysBefore (year month : Nat) : Nat :=
  (List.range' 1 (month - 1)).foldl (fun days earlier => days + daysIn year earlier) 0

/-- Which day of the calendar it is. -/
def number (d : Date) : Nat :=
  let years := d.year - 1
  365 * years + years / 4 - years / 100 + years / 400 + daysBefore d.year d.month + d.day

end Date

/-- What points in time are compared by: days by their number, moments by their microseconds
and by whether these count in universal time. -/
inductive Instant where
  | day (number : Nat)
  | moment (universal : Bool) (micros : Int)
  deriving DecidableEq, Repr

namespace ClockTime

/-- Microseconds since midnight, of universal time if the offset is known. -/
def elapsed (t : ClockTime) : Int :=
  (((t.hour * 60 + t.minute : Nat) - t.offset.getD 0) * 60 + t.second) * 1000000 + t.micros

end ClockTime

def Timestamp.instant (t : Timestamp) : Instant :=
  match t.time with
  | none => .day t.date.number
  | some time =>
      .moment time.offset.isSome ((t.date.number : Int) * 86400000000 + time.elapsed)

end MarkupLint
