/-
Submission — applying a filter to submissions.

A submission is kept if every rule holds of the first answer to its question.  The rules are tried
in order, and the first one that does not hold decides, so that later ones are not looked at.
-/
import Winnow.Filter.Rule

namespace Winnow

variable [Present]

/-- The elements of a value that may be left out. -/
def elementsOf (v : Json) : Except Fault (List Json) :=
  if v.isVacant then .ok []
  else match v.elements? with
    | some items => .ok items
    | none => .error .notIterable

/-- The answer to the first question with an id; none if there is no such question. -/
def findAnswer (id : String) : List Json → Except Fault (Option Json)
  | [] => .ok none
  | .object members :: rest =>
    match Json.get members "id" with
    | .string s => if s = id then .ok (some (Json.get members "value")) else findAnswer id rest
    | _ => findAnswer id rest
  | _ :: _ => .error .notObject

/-- The answer of a submission to a question. -/
def answerTo (id : String) : Json → Except Fault (Option Json)
  | .object members => do findAnswer id (← elementsOf (Json.get members "questions"))
  | _ => .error .notObject

namespace Json

/-- The value is null. -/
def isNull : Json → Bool
  | .null => true
  | _ => false

end Json

namespace Target

/-- The comparison of an answer that is not null. -/
def compareWith (t : Target) (answer : Json) (condition : Condition) : Except Fault Bool :=
  match t with
  | .null => .ok false
  | .number _ => compareNumbers t.value answer condition
  | .text _ => compareText t.value answer condition
  | .date _ => compareDates t.value answer condition

end Target

namespace Rule

/-- The rule holds of an answer.  Null is only compared for equality, and it matches nothing but
null. -/
def holds (r : Rule) (answer : Json) : Except Fault Bool :=
  match r.target with
  | .null => match r.condition with
    | .equals => .ok answer.isNull
    | .differs => .ok !answer.isNull
    | .greater | .less => .error (.rejected .orderedNull)
  | target => if answer.isNull then .ok false else target.compareWith answer r.condition

/-- The rule holds of a submission: it answers the question, and the rule holds of the answer. -/
def holdsOf (r : Rule) (submission : Json) : Except Fault Bool := do
  match ← answerTo r.id submission with
  | some answer => r.holds answer
  | none => return false

end Rule

namespace Filter

/-- Every rule holds of a submission. -/
def accepts (rules : Filter) (submission : Json) : Except Fault Bool :=
  match rules with
  | [] => .ok true
  | r :: rest => do
    if ← r.holdsOf submission then Filter.accepts rest submission else return false

/-- The entries whose submission the filter accepts, in their order. -/
def select {α : Type} (rules : Filter) (submission : α → Json) : List α → Except Fault (List α)
  | [] => .ok []
  | entry :: rest => do
    if ← Filter.accepts rules (submission entry) then
      return entry :: (← select rules submission rest)
    else select rules submission rest

/-- The submissions that the filter keeps, of a value that may be left out. -/
def keep (rules : Filter) (submissions : Json) : Except Fault (List Json) := do
  select rules id (← elementsOf submissions)

end Filter

end Winnow
