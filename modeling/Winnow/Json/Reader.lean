/-
Reader — JSON values from tokens.

The reader is a machine with a stack of open containers that takes one token at a time, so the
first fault in the text decides which failure is reported.  The height of the stack is bounded by a
limit that is left to the caller, since it is what remains of a stack that the caller shares.
-/
import Winnow.Json.Token

namespace Winnow.Json

/-- Why a text is not read as a JSON value. -/
inductive Unreadable where
  | malformed
  /-- An integer has more digits than are read. -/
  | longInteger
  /-- Containers are nested too deeply. -/
  | tooDeep
deriving DecidableEq, Repr

/-- An open container: the items so far in reverse, or the members so far and the key whose value
comes next. -/
inductive Frame where
  | array (items : List Json)
  | object (members : List (String × Json)) (key : String)

/-- What the reader has just read inside the innermost open container. -/
inductive Stage where
  /-- A value must follow. -/
  | value
  /-- An array was opened. -/
  | firstItem
  /-- An object was opened. -/
  | firstKey
  /-- A key must follow these members. -/
  | key (members : List (String × Json))
  /-- A key was read, its colon must follow. -/
  | colon (members : List (String × Json)) (key : String)
  /-- A value was read. -/
  | after (v : Json)

/-- The reader between two tokens. -/
structure Reading where
  stage : Stage
  frames : List Frame

namespace Reading

/-- The reader before the first token. -/
def start : Reading := ⟨.value, []⟩

/-- Takes a token where a value is due. -/
def takeValue (limit : Nat) (frames : List Frame) : Token → Except Unreadable Reading
  | .scalar v => .ok ⟨.after v, frames⟩
  | .text units => .ok ⟨.after (.string (textOfUnits units)), frames⟩
  | .openArray =>
    if frames.length < limit then .ok ⟨.firstItem, .array [] :: frames⟩ else .error .tooDeep
  | .openObject => if frames.length < limit then .ok ⟨.firstKey, frames⟩ else .error .tooDeep
  | .longInteger => .error .longInteger
  | _ => .error .malformed

/-- Takes a token after a complete value. -/
def takeAfter (v : Json) : List Frame → Token → Except Unreadable Reading
  | .array items :: frames, .comma => .ok ⟨.value, .array (v :: items) :: frames⟩
  | .array items :: frames, .closeArray => .ok ⟨.after (.array (v :: items).reverse), frames⟩
  | .object members key :: frames, .comma => .ok ⟨.key (put members key v), frames⟩
  | .object members key :: frames, .closeObject =>
    .ok ⟨.after (.object (put members key v)), frames⟩
  | _, _ => .error .malformed

/-- Takes one token. -/
def take (limit : Nat) : Reading → Token → Except Unreadable Reading
  | ⟨.value, frames⟩, t => takeValue limit frames t
  | ⟨.firstItem, .array _ :: frames⟩, .closeArray => .ok ⟨.after (.array []), frames⟩
  | ⟨.firstItem, frames⟩, t => takeValue limit frames t
  | ⟨.firstKey, frames⟩, .closeObject => .ok ⟨.after (.object []), frames⟩
  | ⟨.firstKey, frames⟩, .text units => .ok ⟨.colon [] (textOfUnits units), frames⟩
  | ⟨.key members, frames⟩, .text units => .ok ⟨.colon members (textOfUnits units), frames⟩
  | ⟨.colon members key, frames⟩, .colon => .ok ⟨.value, .object members key :: frames⟩
  | ⟨.after v, frames⟩, t => takeAfter v frames t
  | _, _ => .error .malformed

/-- The value at the end of the text. -/
def finish : Reading → Except Unreadable Json
  | ⟨.after v, []⟩ => .ok v
  | _ => .error .malformed

end Reading

/-- The value that a list of tokens writes, read with as many open containers as the limit. -/
def ofTokens (limit : Nat) (ts : List Token) : Except Unreadable Json := do
  (← ts.foldlM (Reading.take limit) Reading.start).finish

/-- The value that a text writes. -/
def read (limit : Nat) (cs : List Char) : Except Unreadable Json := ofTokens limit (tokens cs)

end Winnow.Json
