/-
DateTime — wall clock times with an optional offset, and the instants they stand for.

An instant is an exact number of microseconds from 1970-01-01 00:00 UTC; a time without an offset
is read as UTC.  The timestamp in milliseconds is a floating point number: the quotient in seconds
is rounded first and the product with 1000 after it.
-/
import Winnow.Calendar.Date
import Winnow.Number.Binary64

namespace Winnow

/-- A time of day to the microsecond. -/
structure TimeOfDay where
  hour : Nat
  minute : Nat
  second : Nat
  microsecond : Nat
  valid : hour < 24 ∧ minute < 60 ∧ second < 60 ∧ microsecond < 1000000
deriving DecidableEq

namespace TimeOfDay

/-- The time of day with these parts, if they are in range. -/
def of? (hour minute second microsecond : Nat) : Option TimeOfDay :=
  if h : hour < 24 ∧ minute < 60 ∧ second < 60 ∧ microsecond < 1000000 then
    some ⟨hour, minute, second, microsecond, h⟩
  else none

/-- The start of the day. -/
def midnight : TimeOfDay := ⟨0, 0, 0, 0, by decide⟩

/-- The microseconds since midnight. -/
def microseconds (t : TimeOfDay) : Nat :=
  ((t.hour * 60 + t.minute) * 60 + t.second) * 1000000 + t.microsecond

/-- The time of day so many microseconds after midnight. -/
def ofMicroseconds (n : Nat) : TimeOfDay :=
  ⟨n / 3600000000 % 24, n / 60000000 % 60, n / 1000000 % 60, n % 1000000,
    by refine ⟨?_, ?_, ?_, ?_⟩ <;> exact Nat.mod_lt _ (by decide)⟩

end TimeOfDay

/-- A date and a time of day, with the offset from UTC in seconds if one is known. -/
structure DateTime where
  date : Date
  time : TimeOfDay
  offset : Option Int
deriving DecidableEq

/-- The number of microseconds of a day. -/
def dayMicroseconds : Nat := 86400000000

namespace DateTime

/-- The exact instant in microseconds. -/
def instant (t : DateTime) : Int :=
  t.date.dayNumber * dayMicroseconds + t.time.microseconds - t.offset.getD 0 * 1000000

/-- The time in UTC of an instant, if it lies within the calendar. -/
def ofInstant? (microseconds : Int) : Option DateTime := do
  let date ← Date.ofDayNumber? (microseconds / dayMicroseconds)
  return ⟨date, TimeOfDay.ofMicroseconds (microseconds % dayMicroseconds).toNat, some 0⟩

/-- The offset is less than a day in size; only then is the instant defined as a timestamp. -/
def hasTimestamp (t : DateTime) : Bool := (t.offset.getD 0).natAbs < 86400

/-- Milliseconds from 1970-01-01 00:00 UTC. -/
def timestamp (t : DateTime) : Binary64 := (Binary64.ofIntRatio t.instant 1000000).scale 1000

end DateTime

end Winnow
