/-
Rule — clauses with the kind of their value worked out.

The value of a clause decides how answers are compared with it: a text that names a date stands
for that date, any other text for itself.  A filter has at most one rule for a question.
-/
import Winnow.Filter.Clause

namespace Winnow

variable [Present]

/-- What a rule compares answers with. -/
inductive Target where
  | null
  | number (n : Number)
  | text (s : String)
  /-- A text that names a date. -/
  | date (s : String)

/-- The kind of a value. -/
inductive ValueKind where
  | string
  | number
  | date
  | null
deriving DecidableEq, Repr

/-- The name of a kind. -/
def ValueKind.name : ValueKind → String
  | .string => "string"
  | .number => "number"
  | .date => "date"
  | .null => "null"

namespace Target

/-- The kind of a target. -/
def kind : Target → ValueKind
  | .null => .null
  | .number _ => .number
  | .text _ => .string
  | .date _ => .date

/-- The value that a target was made of. -/
def value : Target → Json
  | .null => .null
  | .number n => .number n
  | .text s => .string s
  | .date s => .string s

/-- The target that a value stands for. -/
def ofJson : Json → Except Fault Target
  | .null => .ok .null
  | .number n => .ok (.number n)
  | .string s => do
    match ← (Json.string s).date with
    | some _ => return .date s
    | none => return .text s
  | _ => .error (.rejected .unsupportedValue)

end Target

/-- A condition on the answer to one question, and what the answer is compared with. -/
structure Rule where
  id : String
  condition : Condition
  target : Target

/-- The rules of a filter, in the order of its clauses. -/
abbrev Filter := List Rule

namespace Rule

/-- The rule of a clause. -/
def ofClause (c : Clause) : Except Fault Rule := do
  match c.value with
  | some v => return ⟨c.id, c.condition, ← Target.ofJson v⟩
  | none => throw (.rejected .unsupportedValue)

end Rule

namespace Filter

/-- Compiles clauses after the rules made so far. -/
def compileFrom (rules : Filter) : List Clause → Except Fault Filter
  | [] => .ok rules
  | c :: rest => do
    if rules.any (·.id = c.id) then throw (.rejected .repeatedQuestion)
    else compileFrom (rules ++ [← Rule.ofClause c]) rest

/-- The rules of a list of clauses.  The first clause that repeats a question or has an
unsupported value is at fault. -/
def compile (clauses : List Clause) : Except Fault Filter := compileFrom [] clauses

end Filter

end Winnow
