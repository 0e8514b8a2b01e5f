/-
Query — which page of submissions a request asks for.

Seven parameters have defaults and rules, and all rules must be kept.  The readers are lenient:
integers may have surrounding white space, underscores and a fraction of zeros, truth values have
many names, and a date may be given as a time at midnight.
-/
import Winnow.Calendar.Reader
import Winnow.Page.Parameter
import Winnow.Web.Form

namespace Winnow

/-! ## Lenient readers -/

namespace Lenient

/-- The text without a plus sign at its start. -/
def dropPlus : List Char → List Char
  | '+' :: rest => rest
  | cs => cs

/-- The text without leading zeros and the underscores among them.  The last character of these
stays if nothing or a fraction follows.  A minus sign may stand behind the zeros. -/
def dropZeros (cs : List Char) : Option (List Char) :=
  let isZero (c : Char) : Bool := c = '0' || c = '_'
  if cs.head? ≠ some '0' then some cs
  else
    let last := (cs.takeWhile isZero).getLast?.toList
    match cs.dropWhile isZero with
    | [] => some last
    | '.' :: rest => some (last ++ '.' :: rest)
    | c :: rest => if c = '-' || c.isDigit then some (c :: rest) else none

/-- Digits without a fraction of zeros; any other fraction stays. -/
def dropFraction (cs : List Char) : List Char :=
  match Text.cutAt '.' cs with
  | (whole, some zeros) => if !zeros.isEmpty && zeros.all (· = '0') then whole else cs
  | (_, none) => cs

/-- An underscore stands at the start, at the end, or next to another one. -/
def hasStrayUnderscore (cs : List Char) : Bool :=
  cs.head? = some '_' || cs.getLast? = some '_'
    || (cs.zip (cs.drop 1)).any fun (a, b) => a = '_' && b = '_'

/-- The text without its underscores, which must be single ones inside it. -/
def joinGroups? (cs : List Char) : Option (List Char) :=
  if hasStrayUnderscore cs then none else some (cs.filter (· ≠ '_'))

/-- An integer in its shortest form: a minus sign perhaps, and digits without superfluous zeros,
which are not too many characters. -/
def readShortInteger? (cs : List Char) : Option Int :=
  let (negative, digits) := match cs with
    | '-' :: rest => (true, rest)
    | cs => (false, cs)
  if digits.isEmpty || !digits.all Char.isDigit || Number.digitLimit < cs.length then none
  else if digits.length ≠ 1 && digits.head? = some '0' then none
  else some (signedValue negative digits)

/-- An integer: what does not count is dropped, and its shortest form must remain.  Two signs are
one too many. -/
def readInteger? (cs : List Char) : Option Int := do
  let trimmed := Text.trim cs
  let unsigned := dropPlus trimmed
  if trimmed.head? = some '+' && unsigned.head? = some '-' then none
  else readShortInteger? (← joinGroups? (dropFraction (← dropZeros unsigned)))

/-- A truth value by one of its names, in any case. -/
def readTruth? (cs : List Char) : Option Bool :=
  match String.ofList (cs.map Char.toLower) with
  | "1" | "true" | "t" | "yes" | "y" | "on" => some true
  | "0" | "false" | "f" | "no" | "n" | "off" => some false
  | _ => none

/-- A time of day is midnight; the fraction of a second may not have to count. -/
def isMidnight (t : TimeOfDay) (ignoreFraction : Bool) : Bool :=
  t.hour = 0 && t.minute = 0 && t.second = 0 && (ignoreFraction || t.microsecond = 0)

/-- A date, or a time that is midnight.  The milliseconds of a time written as an integer do not
count. -/
def readDate? (cs : List Char) : Option Date := do
  let t ← DateTime.readStandard? cs
  if isMidnight t.time (Unix.readInteger? cs).isSome then return t.date else none

end Lenient

/-! ## The query -/

/-- The submissions that are asked for, by how far they are filled in. -/
inductive Progress where
  | inProgress
  | finished
deriving DecidableEq, Repr

/-- The order of submissions. -/
inductive SortOrder where
  | ascending
  | descending
deriving DecidableEq, Repr

/-- The name of a state. -/
def Progress.name : Progress → String
  | .inProgress => "in_progress"
  | .finished => "finished"

/-- The state of a name. -/
def Progress.ofName? : String → Option Progress
  | "in_progress" => some .inProgress
  | "finished" => some .finished
  | _ => none

/-- Every state is found by its name. -/
theorem Progress.ofName?_name (p : Progress) : ofName? p.name = some p := by
  cases p <;> rfl

/-- The name of an order. -/
def SortOrder.name : SortOrder → String
  | .ascending => "asc"
  | .descending => "desc"

/-- The order of a name. -/
def SortOrder.ofName? : String → Option SortOrder
  | "asc" => some .ascending
  | "desc" => some .descending
  | _ => none

/-- Every order is found by its name. -/
theorem SortOrder.ofName?_name (o : SortOrder) : ofName? o.name = some o := by
  cases o <;> rfl

/-- The most submissions of a page. -/
def pageLimit : Int := 150

/-- The page that a request asks for. -/
structure PageQuery where
  limit : Int
  offset : Int
  status : Progress
  order : SortOrder
  after : Option Date
  before : Option Date
  editLink : Bool
  limit_pos : 1 ≤ limit
  limit_le : limit ≤ pageLimit

namespace PageQuery

/-- The value that a reader gives for a field, or the default if the field is missing. -/
def fieldOr {α : Type} (fields : Form.Fields) (name : String) (default : α)
    (reader : String → Option α) : Option α :=
  match Form.value? fields name with
  | some text => reader text
  | none => some default

/-- The page that the fields of a query ask for, if they keep all rules. -/
def read? (fields : Form.Fields) : Option PageQuery := do
  let limit ← fieldOr fields "limit" pageLimit (Lenient.readInteger? ·.toList)
  let offset ← fieldOr fields "offset" 0 (Lenient.readInteger? ·.toList)
  let status ← fieldOr fields "status" .finished Progress.ofName?
  let order ← fieldOr fields "sort" .ascending SortOrder.ofName?
  let after ← fieldOr fields "afterDate" none fun s => some <$> Lenient.readDate? s.toList
  let before ← fieldOr fields "beforeDate" none fun s => some <$> Lenient.readDate? s.toList
  let editLink ← fieldOr fields "includeEditLink" false (Lenient.readTruth? ·.toList)
  if h : 1 ≤ limit ∧ limit ≤ pageLimit then
    return ⟨limit, offset, status, order, after, before, editLink, h.1, h.2⟩
  else none

/-- The parameters of a page. -/
def parameters (q : PageQuery) : List (String × Parameter) :=
  [("limit", .ofInt q.limit), ("offset", .ofInt q.offset), ("status", .ofString q.status.name),
    ("sort", .ofString q.order.name), ("afterDate", .ofDate? q.after),
    ("beforeDate", .ofDate? q.before), ("includeEditLink", .json (.bool q.editLink))]

end PageQuery

end Winnow
