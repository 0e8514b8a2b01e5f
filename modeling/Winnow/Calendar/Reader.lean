/-
Reader — the date that a text names, in any of the known forms.

The standard form is tried first, then a number of seconds or milliseconds, then free form.
-/
import Winnow.Calendar.FreeForm.Reader
import Winnow.Calendar.Iso
import Winnow.Calendar.Unix

namespace Winnow.DateTime

/-- A time in the standard form or as a number. -/
def readStandard? (cs : List Char) : Option DateTime := Iso.read? cs <|> Unix.read? cs

/-- The time that a text without surrounding blanks names; none if it names none. -/
def read [Present] (cs : List Char) : Except FreeForm.Failure (Option DateTime) :=
  if cs.isEmpty then .ok none
  else match readStandard? cs with
    | some t => .ok (some t)
    | none => FreeForm.read cs

end Winnow.DateTime
