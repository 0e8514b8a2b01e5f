/-
Numeral — reading numbers from text.

The lexical pieces (digits, a fraction, an exponent) are shared by all forms.  On them rest the
two lenient readers, which admit surrounding white space, decimal digits of any script and single
underscores between digits.
-/
import Winnow.Number.Basic
import Winnow.Text.Blank
import Winnow.Text.Digit

namespace Winnow

/-- The number that a list of ASCII digits writes. -/
def digitsValue (cs : List Char) : Nat :=
  cs.foldl (fun n c => 10 * n + (c.toNat - 0x30)) 0

/-- The number that a sign and ASCII digits write. -/
def signedValue (negative : Bool) (digits : List Char) : Int :=
  if negative then -(digitsValue digits : Int) else digitsValue digits

/-- A sign, if one is written: whether it is a minus, and what follows it. -/
def splitSign : List Char → Bool × List Char
  | '-' :: rest => (true, rest)
  | '+' :: rest => (false, rest)
  | cs => (false, cs)

/-- The leading ASCII digits and what follows them. -/
def splitDigits (cs : List Char) : List Char × List Char := cs.span Char.isDigit

/-- An exponent `e`, sign, digits: its value and what follows it; no exponent counts as zero. -/
def splitExponent (cs : List Char) : Int × List Char :=
  match cs with
  | c :: rest =>
    if c = 'e' || c = 'E' then
      let (negative, unsigned) := splitSign rest
      match splitDigits unsigned with
      | ([], _) => (0, cs)
      | (digits, rest) => (signedValue negative digits, rest)
    else (0, cs)
  | [] => (0, [])

namespace Binary64

/-- The number nearest to `c * 10 ^ k`.  Far outside the range the answer is known from the count
of digits alone. -/
def ofDecimal (negative : Bool) (c : Nat) (k : Int) : Binary64 :=
  let size := (decimalDigits c).length + k
  if c = 0 || size < -330 then zero negative
  else if 330 < size then .infinite negative
  else ofRatio negative (c * Nat.pow 10 k.toNat) (Nat.pow 10 (-k).toNat)

/-- The number written by whole digits, fraction digits and a power of ten. -/
def ofDigits (negative : Bool) (whole fraction : List Char) (k : Int) : Binary64 :=
  ofDecimal negative (digitsValue (whole ++ fraction)) (k - fraction.length)

/-- Digits with an optional point, a digit on at least one side of it, and an optional exponent,
to the end of the text. -/
def readUnsigned? (negative : Bool) (cs : List Char) : Option Binary64 :=
  let (whole, rest) := splitDigits cs
  let (fraction, rest) := match rest with
    | '.' :: rest => splitDigits rest
    | rest => ([], rest)
  let (k, rest) := splitExponent rest
  if (whole ++ fraction).isEmpty || !rest.isEmpty then none
  else some (ofDigits negative whole fraction k)

/-- The words for numbers that have no digits, in any case. -/
def readWord? (negative : Bool) (cs : List Char) : Option Binary64 :=
  match String.ofList (cs.map Char.toLower) with
  | "inf" | "infinity" => some (.infinite negative)
  | "nan" => some .nan
  | _ => none

/-- A signed numeral or word. -/
def read? (cs : List Char) : Option Binary64 :=
  let (negative, rest) := splitSign cs
  readWord? negative rest <|> readUnsigned? negative rest

end Binary64

namespace Numeral

/-- The text without its underscores, each of which must stand between two ASCII digits; the
first argument is the character before the text. -/
def joinGroups? : Char → List Char → Option (List Char)
  | _, [] => some []
  | before, '_' :: rest =>
    if before.isDigit && (rest.head?.any Char.isDigit) then joinGroups? '_' rest else none
  | _, c :: rest => (c :: ·) <$> joinGroups? c rest

/-- The numeral in plain ASCII: digits of any script become ASCII digits, surrounding white space
and underscores between digits go. -/
def plain? (cs : List Char) : Option (List Char) :=
  joinGroups? ' ' (Text.trim (cs.map Text.toAsciiDigit))

/-- The lenient reading of a floating point number. -/
def readReal? (cs : List Char) : Option Binary64 :=
  plain? cs >>= Binary64.read?

/-- The integer written by a sign and digits to the end of the text. -/
def readPlainInteger? (cs : List Char) : Option Int :=
  let (negative, digits) := splitSign cs
  if digits.isEmpty || !digits.all Char.isDigit || Number.digitLimit < digits.length then none
  else some (signedValue negative digits)

/-- The lenient reading of an integer. -/
def readInteger? (cs : List Char) : Option Int :=
  plain? cs >>= readPlainInteger?

end Numeral

end Winnow
