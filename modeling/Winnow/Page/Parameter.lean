/-
Parameter — values as they are forwarded in a query.

A parameter without a value is left out.  Truth values are written in lower case, dates and times in
the standard form, and any other value as its text.
-/
import Winnow.Calendar.Iso
import Winnow.Filter.Comparison

namespace Winnow

/-- The value of a parameter. -/
inductive Parameter where
  | json (v : Json)
  | date (d : Date)
  | dateTime (t : DateTime)

namespace Parameter

/-- An integer. -/
def ofInt (i : Int) : Parameter := .json (.ofInt i)

/-- A text. -/
def ofString (s : String) : Parameter := .json (.string s)

/-- A date that may be missing. -/
def ofDate? (d : Option Date) : Parameter := (d.map .date).getD (.json .null)

/-- The text of a parameter; null has none. -/
def text : Parameter → Except Fault (Option (List Char))
  | .json .null => .ok none
  | .json (.bool true) => .ok (some "true".toList)
  | .json (.bool false) => .ok (some "false".toList)
  | .json v => do return some (← v.shown)
  | .date d => .ok (some d.iso)
  | .dateTime t => .ok (some t.iso)

/-- The fields of a query that forward parameters. -/
def forward : List (String × Parameter) → Except Fault (List (String × String))
  | [] => .ok []
  | (name, value) :: rest => do
    match ← value.text with
    | some cs => return (name, String.ofList cs) :: (← forward rest)
    | none => forward rest

end Parameter

end Winnow
