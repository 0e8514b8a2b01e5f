/-
Unix — times written as a number.

A number counts seconds from 1970-01-01 00:00 UTC, or milliseconds if it is larger than twenty
thousand million.  It is an integer, or a decimal with a point, which goes through floating point:
its fraction is taken there and rounded to microseconds.
-/
import Winnow.Calendar.DateTime
import Winnow.Number.Numeral

namespace Winnow.Unix

/-- The largest number of seconds; larger numbers are milliseconds. -/
def secondsLimit : Nat := 20000000000

/-- The microseconds in a unit of a number, whose size is more than the limit or not. -/
def unitMicroseconds (large : Bool) : Nat := if large then 1000 else 1000000

/-- The instant of an integer. -/
def instantOfInteger (i : Int) : Int := i * unitMicroseconds (secondsLimit < i.natAbs)

/-- The natural number nearest to a floating point number that is not negative; a half goes
up. -/
def roundHalfUp (x : Binary64) : Nat :=
  match x.ratio? with
  | some (n, d) => ((2 * n + d) / (2 * d)).toNat
  | none => 0

/-- The instant of a floating point number: its integer part in whole units, then the fraction in
microseconds. -/
def instantOfReal? (x : Binary64) : Option Int := do
  let (n, d) ← x.ratio?
  let unit := unitMicroseconds (secondsLimit * d < n.natAbs)
  let whole := n / d
  let fraction := Binary64.ofIntRatio (n - whole * d) d
  return whole * unit + roundHalfUp (fraction.scale unit)

/-- A signed integer to the end of a text. -/
def readInteger? (cs : List Char) : Option Int :=
  let (negative, digits) := splitSign cs
  if digits.isEmpty || !digits.all Char.isDigit then none else some (signedValue negative digits)

/-- A signed decimal with a point to the end of a text. -/
def readReal? (cs : List Char) : Option Binary64 :=
  let (negative, unsigned) := splitSign cs
  if (splitDigits unsigned).2.head? = some '.' then Binary64.readUnsigned? negative unsigned
  else none

/-- The instant that a number text stands for. -/
def readInstant? (cs : List Char) : Option Int :=
  match readInteger? cs with
  | some i => some (instantOfInteger i)
  | none => readReal? cs >>= instantOfReal?

/-- The time that a number text stands for. -/
def read? (cs : List Char) : Option DateTime := readInstant? cs >>= DateTime.ofInstant?

end Winnow.Unix
