/-
Token — the lexical level of JSON text.

A text becomes a list of tokens in one pass.  What cannot be read becomes an `unreadable` token,
so that a fault later in the text never hides one before it.
-/
import Winnow.Json.Basic
import Winnow.Number.Numeral
import Winnow.Text.Encoding

namespace Winnow.Json

/-- A lexical unit of JSON text. -/
inductive Token where
  | openArray
  | closeArray
  | openObject
  | closeObject
  | comma
  | colon
  /-- A text by its code units, of which a surrogate may stand alone. -/
  | text (units : List Nat)
  | scalar (v : Json)
  /-- An integer of more digits than are read. -/
  | longInteger
  | unreadable

/-! ## Strings -/

/-- The character of a one-letter escape. -/
def simpleEscape? : Char → Option Char
  | '"' => some '"'
  | '\\' => some '\\'
  | '/' => some '/'
  | 'b' => some '\x08'
  | 'f' => some '\x0c'
  | 'n' => some '\n'
  | 'r' => some '\r'
  | 't' => some '\t'
  | _ => none

/-- The value of a hexadecimal digit. -/
def hexValue? (c : Char) : Option Nat :=
  if c.isDigit then some (c.toNat - 0x30)
  else if 'a' ≤ c ∧ c ≤ 'f' then some (c.toNat - 0x57)
  else if 'A' ≤ c ∧ c ≤ 'F' then some (c.toNat - 0x37)
  else none

/-- The number written by hexadecimal digits. -/
def hexNumber? (cs : List Char) : Option Nat :=
  cs.foldlM (fun n c => (16 * n + ·) <$> hexValue? c) 0

/-- The code units of a string body, each escape resolved; a surrogate stands alone here. -/
def codeUnits? : List Char → Option (List Nat)
  | [] => some []
  | '\\' :: 'u' :: a :: b :: c :: d :: rest => do
    return (← hexNumber? [a, b, c, d]) :: (← codeUnits? rest)
  | '\\' :: c :: rest => do
    return (← simpleEscape? c).toNat :: (← codeUnits? rest)
  | c :: rest =>
    if c.toNat < 0x20 || c = '\\' then none else (c.toNat :: ·) <$> codeUnits? rest

/-- The token for what stands between two double quotation marks. -/
def textToken (body : List Char) : Token :=
  match codeUnits? body with
  | some units => .text units
  | none => .unreadable

/-- The text of code units. -/
def textOfUnits (units : List Nat) : String := String.ofList (Text.ofCodeUnits units)

/-! ## Numbers and words -/

/-- A number at the start of a text, and what follows it: digits without superfluous zeros, then
a fraction and an exponent, of which either makes it a floating point number. -/
def splitNumber? (cs : List Char) : Option (Token × List Char) :=
  let (negative, unsigned) := match cs with
    | '-' :: rest => (true, rest)
    | cs => (false, cs)
  let (whole, afterWhole) := match unsigned with
    | '0' :: rest => (['0'], rest)
    | cs => splitDigits cs
  let (fraction, afterFraction) := match afterWhole with
    | '.' :: rest => match splitDigits rest with
      | ([], _) => ([], afterWhole)
      | split => split
    | _ => ([], afterWhole)
  let (exponent, rest) := splitExponent afterFraction
  if whole.isEmpty then none
  else if rest.length < afterWhole.length then
    some (.scalar (.number (.real (Binary64.ofDigits negative whole fraction exponent))), rest)
  else if Number.digitLimit < whole.length then some (.longInteger, rest)
  else some (.scalar (ofInt (signedValue negative whole)), rest)

/-- The values that are written as words. -/
def wordValue? : String → Option Json
  | "null" => some .null
  | "true" => some (.bool true)
  | "false" => some (.bool false)
  | "NaN" => some (.number (.real .nan))
  | "Infinity" => some (.number (.real (.infinite false)))
  | "-Infinity" => some (.number (.real (.infinite true)))
  | _ => none

/-- The tokens of a run of characters that words and numbers consist of. -/
def wordTokens (cs : List Char) : List Token :=
  match wordValue? (String.ofList cs) with
  | some v => [.scalar v]
  | none => match splitNumber? cs with
    | some (token, []) => [token]
    | some (token, _) => [token, .unreadable]
    | none => [.unreadable]

/-! ## The pass over the text -/

/-- What the pass is inside of; the characters so far stand in reverse. -/
inductive Scan where
  | between
  | word (seen : List Char)
  | quoted (seen : List Char) (escaped : Bool)

/-- A character that words and numbers consist of. -/
def isWordChar (c : Char) : Bool :=
  c.isAlphanum || c = '-' || c = '+' || c = '.'

/-- The tokens that a character between tokens makes, and what it opens. -/
def openToken (c : Char) : List Token × Scan :=
  match c with
  | '[' => ([.openArray], .between)
  | ']' => ([.closeArray], .between)
  | '\x7b' => ([.openObject], .between)
  | '\x7d' => ([.closeObject], .between)
  | ',' => ([.comma], .between)
  | ':' => ([.colon], .between)
  | '"' => ([], .quoted [] false)
  | ' ' | '\t' | '\n' | '\r' => ([], .between)
  | c => if isWordChar c then ([], .word [c]) else ([.unreadable], .between)

/-- The tokens of the rest of a text. -/
def tokensFrom : Scan → List Char → List Token
  | .between, [] => []
  | .word seen, [] => wordTokens seen.reverse
  | .quoted _ _, [] => [.unreadable]
  | .between, c :: rest =>
    let (tokens, scan) := openToken c
    tokens ++ tokensFrom scan rest
  | .word seen, c :: rest =>
    if isWordChar c then tokensFrom (.word (c :: seen)) rest
    else
      let (tokens, scan) := openToken c
      wordTokens seen.reverse ++ (tokens ++ tokensFrom scan rest)
  | .quoted seen true, c :: rest => tokensFrom (.quoted (c :: seen) false) rest
  | .quoted seen false, c :: rest =>
    if c = '"' then textToken seen.reverse :: tokensFrom .between rest
    else tokensFrom (.quoted (c :: seen) (c = '\\')) rest

/-- The tokens of a text. -/
def tokens (cs : List Char) : List Token := tokensFrom .between cs

end Winnow.Json
