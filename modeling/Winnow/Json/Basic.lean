/-
Json — the values that submissions, answers and filters are made of.

Objects keep the order of their members, which shows in their text; a key occurs once.
-/
import Winnow.Number.Basic
import Winnow.Text.Quoted

namespace Winnow

/-- A JSON value; numbers are integers or floating point numbers. -/
inductive Json where
  | null
  | bool (b : Bool)
  | number (n : Number)
  | string (s : String)
  | array (items : List Json)
  | object (members : List (String × Json))

namespace Json

/-- An integer value. -/
def ofInt (i : Int) : Json := .number (.integer i)

/-- Sets the value of a key: a known key keeps its place, a new one comes last. -/
def put (members : List (String × Json)) (key : String) (value : Json) : List (String × Json) :=
  match members with
  | [] => [(key, value)]
  | (k, v) :: rest => if k = key then (k, value) :: rest else (k, v) :: put rest key value

/-- The value of a member, `null` if there is none. -/
def get (members : List (String × Json)) (key : String) : Json :=
  (members.lookup key).getD .null

/-- Values that count as nothing at all: null, false, zero, and empty text or containers. -/
def isVacant : Json → Bool
  | .null => true
  | .bool b => !b
  | .number (.integer i) => i = 0
  | .number (.real (.finite _ m _ _)) => m = 0
  | .number (.real _) => false
  | .string s => s.isEmpty
  | .array items => items.isEmpty
  | .object members => members.isEmpty

/-- What is met on walking through a value: the items of an array, the characters of a text, the
keys of an object.  Other values cannot be walked through. -/
def elements? : Json → Option (List Json)
  | .array items => some items
  | .string s => some (s.toList.map fun c => .string (String.singleton c))
  | .object members => some (members.map fun m => .string m.1)
  | _ => none

/-! ## The text of a value -/

mutual

/-- The text of a value inside a container, where strings are quoted.  It does not exist if the
value holds an integer too long to write. -/
def quoted? : Json → Option (List Char)
  | .null => some "None".toList
  | .bool true => some "True".toList
  | .bool false => some "False".toList
  | .number n => n.text?
  | .string s => some (Text.quote s.toList)
  | .array items => do
    return '[' :: (List.intercalate [',', ' '] (← quotedItems? items) ++ [']'])
  | .object members => do
    return '\x7b' :: (List.intercalate [',', ' '] (← quotedMembers? members) ++ ['\x7d'])

/-- The texts of the items of an array. -/
def quotedItems? : List Json → Option (List (List Char))
  | [] => some []
  | item :: rest => do return (← quoted? item) :: (← quotedItems? rest)

/-- The texts of the members of an object. -/
def quotedMembers? : List (String × Json) → Option (List (List Char))
  | [] => some []
  | (key, value) :: rest => do
    return (Text.quote key.toList ++ ':' :: ' ' :: (← quoted? value)) :: (← quotedMembers? rest)

end

/-- The text of a value: a string is its own text. -/
def text? : Json → Option (List Char)
  | .string s => some s.toList
  | v => quoted? v

end Json

end Winnow
