/-
Fields — what a text in free form says about a date, and the date that it then means.

The numbers of the date are collected in the order of the text, some of them marked as the year
or as the month.  Which of the others is what follows from their places and sizes.  A field that
the text leaves open is taken from a default date.
-/
import Winnow.Calendar.DateTime
import Winnow.Calendar.FreeForm.Lexeme

namespace Winnow.FreeForm

/-- What a number of the date is known to be when it is met. -/
inductive Role where
  | unmarked
  | year
  | month
deriving DecidableEq, Repr

/-- A number of the date. -/
structure Entry where
  role : Role
  value : Nat
deriving DecidableEq, Repr

/-- Year, month and day as far as they are named. -/
structure NamedDay where
  year : Option Nat
  month : Option Nat
  day : Option Nat
deriving DecidableEq, Repr

/-- A number above 31 is no day. -/
def Entry.isLarge (e : Entry) : Bool := 31 < e.value

/-- The year, month and day of three numbers.  With both year and month marked, the third is the
day.  A marked month leaves it to the size of the others which is the year; without one the order
is year first, day first or month first, again by size. -/
def resolveThree (a b c : Entry) : NamedDay :=
  let ymd (y m d : Entry) : NamedDay := ⟨some y.value, some m.value, some d.value⟩
  match a.role, b.role, c.role with
  | .year, .month, _ => ymd a b c
  | .year, _, .month => ymd a c b
  | .month, .year, _ => ymd b a c
  | _, .year, .month => ymd b c a
  | .month, _, .year => ymd c a b
  | _, .month, .year => ymd c b a
  | .month, _, _ => if b.isLarge then ymd b a c else ymd c a b
  | _, .month, _ => if a.isLarge then ymd a b c else ymd c b a
  | _, _, .month => if b.isLarge then ymd b c a else ymd a c b
  | .year, _, _ => ymd a b c
  | _, _, _ =>
    if a.isLarge then ymd a b c else if 12 < a.value then ymd c b a else ymd c a b

/-- The number beside a month is its year or its day. -/
def resolveBeside (month other : Entry) : NamedDay :=
  if other.role = .year || other.isLarge then ⟨some other.value, some month.value, none⟩
  else ⟨none, some month.value, some other.value⟩

/-- The year, month and day that the numbers of a date name; more than three name none. -/
def resolve? : List Entry → Option NamedDay
  | [] => some ⟨none, none, none⟩
  | [a] => some <| match a.role with
    | .month => ⟨none, some a.value, none⟩
    | .year => ⟨some a.value, none, none⟩
    | .unmarked => if a.isLarge then ⟨some a.value, none, none⟩ else ⟨none, none, some a.value⟩
  | [a, b] => some <|
    if a.role = .month then resolveBeside a b
    else if b.role = .month then resolveBeside b a
    else if a.isLarge then ⟨some a.value, some b.value, none⟩
    else if b.isLarge then ⟨some b.value, some a.value, none⟩
    else ⟨none, some a.value, some b.value⟩
  | [a, b, c] => some (resolveThree a b c)
  | _ => none

/-- The year of two digits that is less than fifty years away from the present one. -/
def nearestYear [Present] (y : Nat) : Nat :=
  let near := y + Present.year / 100 * 100
  if 100 ≤ y then y
  else if Present.year + 50 ≤ near then near - 100
  else if near < Present.year - 50 then near + 100
  else near

/-- What a text says; the offset is in seconds. -/
structure Fields where
  year : Option Nat
  month : Option Nat
  day : Option Nat
  weekday : Option Nat
  hour : Option Nat
  minute : Option Nat
  second : Option Nat
  microsecond : Option Nat
  offset : Option Int
deriving DecidableEq, Repr

namespace Fields

/-- The day that the fields name, open fields taken from a default.  A day taken from there is
not beyond the end of the month and moves forward to a named weekday. -/
def date? (f : Fields) (default : Date) : Option Date := do
  let y := f.year.getD default.year
  let m := f.month.getD default.month
  match f.day with
  | some d => Date.of? y m d
  | none =>
    let date ← Date.of? y m (min default.day (monthLength y m))
    match f.weekday with
    | some w => date.onOrAfter? w
    | none => return date

/-- The time that the fields name: open parts of the date come from the default, open parts of
the time of day are zero. -/
def fill? (f : Fields) (default : Date) : Option DateTime := do
  let date ← f.date? default
  let time ← TimeOfDay.of? (f.hour.getD 0) (f.minute.getD 0) (f.second.getD 0)
    (f.microsecond.getD 0)
  return ⟨date, time, f.offset⟩

end Fields

end Winnow.FreeForm
