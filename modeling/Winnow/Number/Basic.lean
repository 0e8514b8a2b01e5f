/-
Number — integers of any size beside floating point numbers, in one exact order.

The two kinds are compared as points of the extended real line: no conversion from one kind to
the other, hence no rounding, takes place.  NaN is not on the line and compares with nothing.
-/
import Winnow.Number.Shortest

namespace Winnow

/-- An integer or a floating point number. -/
inductive Number where
  | integer (i : Int)
  | real (x : Binary64)
deriving DecidableEq

/-- A point of the extended line: `finite n e` is `n * 2 ^ e`. -/
inductive Position where
  | below
  | finite (n : Int) (e : Int)
  | above

namespace Position

/-- The order of the line: finite points are compared over the smaller of their exponents. -/
def compare : Position → Position → Ordering
  | .below, .below => .eq
  | .below, _ => .lt
  | _, .below => .gt
  | .above, .above => .eq
  | .above, _ => .gt
  | _, .above => .lt
  | .finite a e, .finite b f =>
    Ord.compare (a * Nat.pow 2 (e - min e f).toNat) (b * Nat.pow 2 (f - min e f).toNat)

end Position

/-- The place of a floating point number on the line; NaN has none. -/
def Binary64.position? : Binary64 → Option Position
  | .nan => none
  | .infinite negative => some (if negative then .below else .above)
  | .finite negative m e _ => some (.finite (if negative then -(m : Int) else m) e)

namespace Number

/-- The place of a number on the line; NaN has none. -/
def position? : Number → Option Position
  | .integer i => some (.finite i 0)
  | .real x => x.position?

/-- The exact order of two numbers, undefined if one is NaN. -/
def compare? (a b : Number) : Option Ordering := do
  return (← a.position?).compare (← b.position?)

/-- The longest integer that is read from text or written as text, in digits. -/
def digitLimit : Nat := 4300

/-- The text of an integer, unless it has too many digits. -/
def integerText? (i : Int) : Option (List Char) :=
  let digits := decimalDigits i.natAbs
  if digits.length ≤ digitLimit then some (if i < 0 then '-' :: digits else digits) else none

/-- The text of a number; only an integer of too many digits has none. -/
def text? : Number → Option (List Char)
  | .integer i => integerText? i
  | .real x => some x.text

end Number

end Winnow
