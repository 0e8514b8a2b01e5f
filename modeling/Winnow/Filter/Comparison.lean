/-
Comparison — an answer against the value of a filter, as text, as a number or as a date.

The value of the filter and the answer may be any JSON values.  An answer that is no number, or no
date, matches no condition of that kind, except that it differs from every number.
-/
import Winnow.Calendar.Reader
import Winnow.Filter.Fault
import Winnow.Text.Lower

namespace Winnow

/-- What a clause asks of an answer. -/
inductive Condition where
  | equals
  | differs
  | greater
  | less
deriving DecidableEq, Repr

namespace Condition

/-- The name of a condition. -/
def name : Condition → String
  | .equals => "equals"
  | .differs => "does_not_equal"
  | .greater => "greater_than"
  | .less => "less_than"

/-- The condition of a name. -/
def ofName? : String → Option Condition
  | "equals" => some .equals
  | "does_not_equal" => some .differs
  | "greater_than" => some .greater
  | "less_than" => some .less
  | _ => none

/-- Every condition is found by its name. -/
theorem ofName?_name (c : Condition) : ofName? c.name = some c := by
  cases c <;> rfl

/-- The condition compares by size. -/
def isOrdered : Condition → Bool
  | .equals | .differs => false
  | .greater | .less => true

end Condition

/-! ## Text -/

/-- The first text occurs in the second one. -/
def occursIn (part : List Char) : List Char → Bool
  | [] => part.isEmpty
  | c :: rest => part.isPrefixOf (c :: rest) || occursIn part rest

namespace Json

/-- The text of a value, which fails on an integer that is too long. -/
def shown (v : Json) : Except Fault (List Char) :=
  match v.text? with
  | some cs => .ok cs
  | none => .error .longInteger

end Json

/-- Containment without regard to case: an answer equals a text if it contains it.  Text is not
compared by size. -/
def compareText (value answer : Json) (condition : Condition) : Except Fault Bool := do
  let part := Text.lower (← value.shown)
  let whole := Text.lower (← answer.shown)
  match condition with
  | .equals => return occursIn part whole
  | .differs => return !occursIn part whole
  | .greater | .less => throw (.rejected .orderedText)

/-! ## Numbers -/

namespace Json

/-- An answer as a number: a number, or a text that reads as one. -/
def asNumber? : Json → Option Number
  | .bool _ => none
  | .number n => some n
  | v => do return .real (← Numeral.readReal? (Text.strip (← v.text?)))

/-- The value of a filter as a number; a truth value counts as one or zero. -/
def asOperand? : Json → Option Number
  | .bool b => some (.integer (if b then 1 else 0))
  | .number n => some n
  | _ => none

end Json

/-- The exact order of numbers.  Whatever is not comparable differs. -/
def compareNumbers (value answer : Json) (condition : Condition) : Except Fault Bool :=
  let order? : Option Ordering := do (← answer.asNumber?).compare? (← value.asOperand?)
  match condition with
  | .equals => .ok (order? = some .eq)
  | .differs => .ok (order? ≠ some .eq)
  | .greater | .less =>
    if answer.asNumber?.isNone then .ok false
    else if value.asOperand?.isNone then .error .unordered
    else .ok (order? = some (if condition = .greater then .gt else .lt))

/-! ## Dates -/

namespace Json

/-- The date that a value names; null and truth values name none. -/
def date [Present] (v : Json) : Except Fault (Option DateTime) :=
  match v with
  | .null | .bool _ => .ok none
  | v => do
    match DateTime.read (Text.strip (← v.shown)) with
    | .ok t => return t
    | .error _ => throw .imprecise

end Json

/-- The timestamp of a date in milliseconds. -/
def DateTime.timestamp? (t : DateTime) : Except Fault Binary64 :=
  if t.hasTimestamp then .ok t.timestamp else .error .noTimestamp

/-- The order of timestamps.  An answer that is no date matches nothing. -/
def compareDates [Present] (value answer : Json) (condition : Condition) : Except Fault Bool := do
  match ← answer.date with
  | none => return false
  | some a =>
    match ← value.date with
    | none => throw (match value.quoted? with
      | some cs => .rejected (.unreadableDate cs)
      | none => .longInteger)
    | some v =>
      let target ← v.timestamp?
      let actual ← a.timestamp?
      compareNumbers (.number (.real target)) (.number (.real actual)) condition

end Winnow
