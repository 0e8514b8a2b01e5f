/-
Clause — the conditions of a filter as they are written.

A filter is written as a JSON array of objects with a question's id, a condition and a value.  All
elements are checked for their shape before any clause is made.  A value that is left out is
different from null.
-/
import Winnow.Filter.Comparison
import Winnow.Json.Reader
import Winnow.Limits

namespace Winnow

/-- A condition on the answer to one question. -/
structure Clause where
  id : String
  condition : Condition
  value : Option Json

/-- Why a filter is not read as clauses. -/
inductive ClauseFault where
  /-- The text is not JSON. -/
  | unreadable (cause : Json.Unreadable)
  /-- The value is not an array of clauses. -/
  | wrongShape
  /-- What has the wrong shape cannot be shown, because an integer in it is too long. -/
  | unshowable
deriving DecidableEq, Repr

/-- The fault of a value of the wrong type. -/
def ClauseFault.ofValue (v : Json) : ClauseFault :=
  if v.quoted?.isSome then .wrongShape else .unshowable

/-- The faults of one element of a filter. -/
def elementFaults : Json → List ClauseFault
  | .object members =>
    let id := match members.lookup "id" with
      | some (.string _) => []
      | some v => [.ofValue v]
      | none => [.wrongShape]
    let condition := match members.lookup "condition" with
      | some (.string s) => if (Condition.ofName? s).isSome then [] else [.wrongShape]
      | some v => [.ofValue v]
      | none => [.wrongShape]
    id ++ condition
  | v => [.ofValue v]

/-- The faults of a filter as a whole. -/
def filterFaults : Json → List ClauseFault
  | .array items => items.flatMap elementFaults
  | v => [.ofValue v]

namespace Clause

/-- The clause of an element. -/
def ofElement? : Json → Option Clause
  | .object members =>
    match members.lookup "id", members.lookup "condition" with
    | some (.string id), some (.string name) => do
      return ⟨id, ← Condition.ofName? name, members.lookup "value"⟩
    | _, _ => none
  | _ => none

/-- The clauses of a decoded value.  What cannot be shown is the graver fault. -/
def ofJson (v : Json) : Except ClauseFault (List Clause) :=
  let faults := filterFaults v
  if faults.contains .unshowable then .error .unshowable
  else if !faults.isEmpty then .error .wrongShape
  else match v with
    | .array items => .ok (items.filterMap ofElement?)
    | _ => .error .wrongShape

/-- The clauses that a JSON text writes. -/
def read [Limits] (text : String) : Except ClauseFault (List Clause) :=
  match Json.read Limits.filters text.toList with
  | .ok v => ofJson v
  | .error cause => .error (.unreadable cause)

end Clause

end Winnow
