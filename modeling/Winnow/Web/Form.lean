/-
Form — the fields of a query.

A query is a list of fields joined by ampersands.  A field is a name and a value joined by an equals
sign, either of them percent-encoded with a plus sign for a blank.  Empty fields do not count, and a
field without an equals sign has an empty value.
-/
import Winnow.Text.Pieces
import Winnow.Web.Percent

namespace Winnow.Form

/-- The fields of a query, in order. -/
abbrev Fields := List (String × String)

/-- The text behind a name or a value. -/
def decodePart (cs : List Char) : String :=
  String.ofList (Percent.decode (cs.map fun c => if c = '+' then ' ' else c))

/-- The name and value of a field. -/
def readField (cs : List Char) : String × String :=
  let (name, value) := Text.cutAt '=' cs
  (decodePart name, decodePart (value.getD []))

/-- The fields of a query. -/
def read (query : String) : Fields :=
  ((Text.pieces '&' query.toList).filter (!·.isEmpty)).map readField

/-- The value of a field; the last of several fields of one name counts. -/
def value? (fields : Fields) (name : String) : Option String :=
  fields.reverse.lookup name

/-- The query of fields whose texts need no encoding. -/
def write (fields : Fields) : List Char :=
  List.intercalate ['&'] (fields.map fun (name, value) => name.toList ++ '=' :: value.toList)

end Winnow.Form
