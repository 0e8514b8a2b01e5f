/-
Field — the clauses in the text of a query's field for filters.

A missing or empty text means that nothing is filtered.  A text that is not JSON, or not an array of
clauses, is an invalid query.  Three faults are no faults of the query as such: integers that are too
long, nesting that is too deep, and a refusal that cannot be logged, since the log shows what has the
wrong shape.
-/
import Winnow.Filter.Clause

namespace Winnow

/-- Why the field for filters is not read. -/
inductive FieldFault where
  /-- The query is invalid. -/
  | invalid
  /-- Reading stopped at a limit. -/
  | stopped (cause : Json.Unreadable)
  /-- The query is invalid, but its refusal cannot be logged. -/
  | unlogged
deriving DecidableEq, Repr

/-- What the fault of clauses means for the text they were read from. -/
def FieldFault.ofClauseFault [Limits] (text : String) : ClauseFault → FieldFault
  | .unreadable .malformed => .invalid
  | .unreadable cause => .stopped cause
  | .wrongShape => if Limits.logs text then .invalid else .unlogged
  | .unshowable => .stopped .longInteger

/-- The clauses of a text that may be missing. -/
def Clause.readField [Limits] (text : Option String) : Except FieldFault (List Clause) :=
  match text with
  | none => .ok []
  | some text =>
    if text.isEmpty then .ok [] else (Clause.read text).mapError (.ofClauseFault text)

end Winnow
