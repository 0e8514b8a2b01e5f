/-
Parts — what has been read of a text in free form so far.

Numbers of the date are kept in the order of the text, parts of the time of day by themselves.  A
number is added with what is known about it, and setting an hour or a minute from a number with a
fraction sets the next smaller unit too.
-/
import Winnow.Calendar.FreeForm.Fields

namespace Winnow.FreeForm

/-- Why a text in free form has no fields. -/
inductive Failure where
  | unreadable
  /-- A number has too many digits before its point for the fraction to be taken. -/
  | imprecise
deriving DecidableEq, Repr

/-- The value of an option, whose absence makes the text unreadable. -/
def need {α : Type} (o : Option α) : Except Failure α :=
  match o with
  | some a => .ok a
  | none => .error .unreadable

/-- What has been read of a text. -/
structure Parts where
  /-- The numbers of the date. -/
  entries : List Entry
  /-- The year was written in full. -/
  fullYear : Bool
  hour : Option Nat
  minute : Option Nat
  second : Option Nat
  microsecond : Option Nat
  weekday : Option Nat
  zoneName : Option Lexeme
  zoneOffset : Option Int

/-- The outcome of a lexeme: the parts, and how many of the following lexemes belong to it. -/
abbrev Step := Except Failure (Parts × Nat)

namespace Parts

/-- Nothing has been read. -/
def empty : Parts := ⟨[], false, none, none, none, none, none, none, none⟩

/-- An entry has a role. -/
def has (p : Parts) (role : Role) : Bool := p.entries.any (·.role = role)

/-- Adds a number of the date; year and month are marked at most once. -/
def add (p : Parts) (role : Role) (n : Nat) : Except Failure Parts :=
  if role ≠ .unmarked && p.has role then .error .unreadable
  else .ok { p with entries := p.entries ++ [⟨role, n⟩] }

/-- The year is written in full. -/
def withFullYear (p : Parts) : Parts := { p with fullYear := true }

/-- The hour and the minute of the parts replaced. -/
def withClock (p : Parts) (hour minute : Nat) : Parts :=
  { p with hour := some hour, minute := some minute }

/-- Adds a number as a quantity, which is the year if it exceeds 100. -/
def addQuantity (p : Parts) (q : Quantity) : Except Failure Parts :=
  if q.exceeds 100 then p.withFullYear.add .year q.whole
  else p.add .unmarked q.whole

/-- Adds a number as it is written, which is the year if it has more than two digits. -/
def addText (p : Parts) (role : Role) (t : Lexeme) : Except Failure Parts := do
  let n ← need (natural? t)
  if 2 < t.length then p.withFullYear.add .year n else p.add role n

/-- A quantity could be a day, of the month and year as far as these are known. -/
def couldBeDay (p : Parts) (q : Quantity) : Bool :=
  let valueOf (role : Role) : Option Nat := (p.entries.find? (·.role = role)).map (·.value)
  let last := match valueOf .month with
    | none => 31
    | some m => monthLength ((valueOf .year).getD 2000) m
  q.reaches 1 && !q.exceeds last

/-! ## The time of day -/

/-- Sets the minute, and the second from its fraction; a whole number leaves the second open. -/
def setMinute (p : Parts) (q : Quantity) : Except Failure Parts :=
  match q.fraction? with
  | none => .error .imprecise
  | some f => .ok { p with
      minute := some q.whole
      second := if f.coefficient = 0 then none else some f.sixtieths }

/-- Sets the hour, and the minute from its fraction. -/
def setHour (p : Parts) (q : Quantity) : Except Failure Parts :=
  match q.fraction? with
  | none => .error .imprecise
  | some f => .ok { p with
      hour := some q.whole
      minute := if f.coefficient = 0 then p.minute else some f.sixtieths }

/-- Sets the second and its fraction from a lexeme. -/
def setSecond (p : Parts) (t : Lexeme) : Except Failure Parts := do
  let (s, us) ← need (secondsOf? t)
  return { p with second := some s, microsecond := some us }

/-- Sets a unit of the time of day; there is none after the second. -/
def setUnit (p : Parts) (unit : Option ClockUnit) (t : Lexeme) (q : Quantity) :
    Except Failure Parts :=
  match unit with
  | some .hour => p.setHour q
  | some .minute => p.setMinute q
  | some .second => p.setSecond t
  | none => .ok p

end Parts

end Winnow.FreeForm
