/-
Quantity — unsigned decimal numbers, with arithmetic to 28 significant digits.

A quantity is kept as it is written.  Only the fraction of a quantity is computed with, and that
to 28 significant digits, a half going to the even neighbour; a whole part of more digits than
that leaves no room for a fraction.
-/
import Winnow.Number.Binary64
import Winnow.Number.Shortest

namespace Winnow

/-- The number `coefficient / 10 ^ places`. -/
structure Quantity where
  coefficient : Nat
  places : Nat
deriving DecidableEq, Repr

namespace Quantity

/-- The significant digits that arithmetic keeps. -/
def precision : Nat := 28

/-- The whole part. -/
def whole (q : Quantity) : Nat := q.coefficient / Nat.pow 10 q.places

/-- The quantity is larger than a natural number. -/
def exceeds (q : Quantity) (n : Nat) : Bool := n * Nat.pow 10 q.places < q.coefficient

/-- The quantity is at least a natural number. -/
def reaches (q : Quantity) (n : Nat) : Bool := n * Nat.pow 10 q.places ≤ q.coefficient

/-- The quantity to the kept number of significant digits. -/
def round (q : Quantity) : Quantity :=
  let dropped := (decimalDigits q.coefficient).length - precision
  if dropped = 0 then q
  else ⟨nearestEven q.coefficient (Nat.pow 10 dropped), q.places - dropped⟩

/-- The fraction, unless the whole part has too many digits for there to be one. -/
def fraction? (q : Quantity) : Option Quantity :=
  if Nat.pow 10 precision ≤ q.whole then none
  else some (round ⟨q.coefficient % Nat.pow 10 q.places, q.places⟩)

/-- The whole part of sixty times a quantity. -/
def sixtieths (q : Quantity) : Nat := (round ⟨60 * q.coefficient, q.places⟩).whole

end Quantity

end Winnow
