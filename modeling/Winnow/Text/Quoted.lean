/-
Quoted — text between quotation marks.

The marks are apostrophes, unless the text has apostrophes and no double quotation mark.  The
mark in use and the backslash are escaped with a backslash, as are line feed, carriage return and
tab; any other unprintable character becomes a hexadecimal escape of two, four or eight digits.
-/
import Winnow.Text.Printable

namespace Winnow.Text

/-- A hexadecimal digit, in lower case. -/
def hexDigit (n : Nat) : Char := Nat.digitChar n

/-- The last `width` hexadecimal digits of a number. -/
def hexText : (width : Nat) → Nat → List Char
  | 0, _ => []
  | width + 1, n => hexText width (n / 16) ++ [hexDigit (n % 16)]

/-- The escape of an unprintable character. -/
def hexEscape (c : Char) : List Char :=
  let n := c.toNat
  if n < 0x100 then '\\' :: 'x' :: hexText 2 n
  else if n < 0x10000 then '\\' :: 'u' :: hexText 4 n
  else '\\' :: 'U' :: hexText 8 n

/-- A character as it stands between quotation marks `mark`. -/
def quoteChar (mark c : Char) : List Char :=
  if c = mark || c = '\\' then ['\\', c]
  else if c = '\n' then ['\\', 'n']
  else if c = '\r' then ['\\', 'r']
  else if c = '\t' then ['\\', 't']
  else if isPrintable c then [c]
  else hexEscape c

/-- The quotation mark for a text. -/
def quotationMark (cs : List Char) : Char :=
  if cs.contains '\'' && !cs.contains '"' then '"' else '\''

/-- The quoted form of a text. -/
def quote (cs : List Char) : List Char :=
  let mark := quotationMark cs
  mark :: (cs.flatMap (quoteChar mark) ++ [mark])

end Winnow.Text
