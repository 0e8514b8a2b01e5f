/-
Date — days of the proleptic Gregorian calendar in the years 1 to 9999.

A date is valid by its type.  Days are numbered from 1970-01-01, so that dates, weekdays and
instants all come down to integers.
-/

namespace Winnow

/-- A year with a 29 February. -/
def isLeapYear (y : Nat) : Bool := y % 4 = 0 && (y % 100 ≠ 0 || y % 400 = 0)

/-- The number of days of a month, for months 1 to 12. -/
def monthLength (y m : Nat) : Nat :=
  match m with
  | 2 => if isLeapYear y then 29 else 28
  | 4 | 6 | 9 | 11 => 30
  | _ => 31

/-- Year, month and day name a day of the calendar. -/
def ValidDate (y m d : Nat) : Prop :=
  (1 ≤ y ∧ y ≤ 9999) ∧ (1 ≤ m ∧ m ≤ 12) ∧ (1 ≤ d ∧ d ≤ monthLength y m)

instance (y m d : Nat) : Decidable (ValidDate y m d) :=
  inferInstanceAs (Decidable (_ ∧ _))

/-- A day of the calendar. -/
structure Date where
  year : Nat
  month : Nat
  day : Nat
  valid : ValidDate year month day
deriving DecidableEq

/-- The number of days before the first of January, counted from that of the year 1. -/
def daysBeforeYear (y : Nat) : Nat :=
  let n := y - 1
  365 * n + n / 4 - n / 100 + n / 400

/-- The number of days of a year before the first of a month. -/
def daysBeforeMonth (y : Nat) : (m : Nat) → Nat
  | 0 | 1 => 0
  | m + 2 => daysBeforeMonth y (m + 1) + monthLength y (m + 1)

/-- The number of days from the first of January of the year 1 to 1970-01-01. -/
def epochDays : Nat := 719162

namespace Date

/-- The day named by year, month and day, if there is one. -/
def of? (y m d : Nat) : Option Date :=
  if h : ValidDate y m d then some ⟨y, m, d, h⟩ else none

/-- The number of days from 1970-01-01. -/
def dayNumber (date : Date) : Int :=
  (daysBeforeYear date.year + daysBeforeMonth date.year date.month + (date.day - 1) : Nat)
    - (epochDays : Int)

/-- The month and day of the month of the `n`-th day of a year, counted from zero. -/
def monthDay (y : Nat) : (n : Nat) → (months : List Nat) → Nat × Nat
  | n, [] => (13, n + 1)
  | n, m :: later =>
    if n < monthLength y m then (m, n + 1) else monthDay y (n - monthLength y m) later

/-- The year that holds the `n`-th day from the first of January of the year 1: the mean length
of a year leads to it or to its neighbour. -/
def yearOf (n : Nat) : Nat :=
  let y := 400 * n / 146097 + 1
  if n < daysBeforeYear y then y - 1
  else if n < daysBeforeYear (y + 1) then y
  else y + 1

/-- The day of a day number. -/
def ofDayNumber? (k : Int) : Option Date :=
  let n := (k + epochDays).toNat
  let y := yearOf n
  let (m, d) := monthDay y (n - daysBeforeYear y) [1, 2, 3, 4, 5, 6, 7, 8, 9, 10, 11, 12]
  if k + epochDays < 0 then none else of? y m d

/-- The weekday, where Monday is 0. -/
def weekday (date : Date) : Nat := ((date.dayNumber + 3) % 7).toNat

/-- The first day from this one on that falls on a weekday. -/
def onOrAfter? (date : Date) (weekday : Nat) : Option Date :=
  ofDayNumber? (date.dayNumber + (7 + weekday - date.weekday) % 7)

end Date

/-- The present, as far as it decides what a text says: the year in which the program started. -/
class Present where
  year : Nat

end Winnow
