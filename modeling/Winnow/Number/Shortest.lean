/-
Shortest — the decimal text of a floating point number.

The text has the fewest digits that still round to the number.  For one digit, two digits, and so
on, the two neighbours of the number on that decimal grid are tested against the interval of
reals that round to it; the first grid with a hit decides, and of two hits the nearer one.
-/
import Winnow.Number.Binary64

namespace Winnow

/-- The value `coefficient * 10 ^ exponent`. -/
structure Decimal where
  coefficient : Nat
  exponent : Int
deriving DecidableEq, Repr

/-- Where the decimal text of a number stops being positional. -/
structure DecimalLayout where
  /-- The least power of ten of a leading digit that is written positionally. -/
  least : Int
  /-- The first power of ten of a leading digit that is too large for it. -/
  limit : Int
  /-- The least number of digits of a written exponent. -/
  exponentDigits : Nat

namespace Binary64

/-- Comparison of `c * 10 ^ k` with `n * 2 ^ e`. -/
def compareDecimal (c : Nat) (k : Int) (n : Nat) (e : Int) : Ordering :=
  compare (c * Nat.pow 10 k.toNat * Nat.pow 2 (-e).toNat)
    (n * Nat.pow 2 e.toNat * Nat.pow 10 (-k).toNat)

/-- The decimal `c * 10 ^ k` rounds to the magnitude `m * 2 ^ e`.  In quarters of a unit the
interval is `4 m - 2` to `4 m + 2`, its lower part halved at a power of two; the ends belong to it
when the mantissa is even. -/
def roundsTo (m : Nat) (e : Int) (c : Nat) (k : Int) : Bool :=
  let low := if m = Nat.pow 2 52 ∧ e ≠ -1074 then 4 * m - 1 else 4 * m - 2
  let inside : Ordering → Ordering → Bool := fun o want => o = want || (o = .eq && m % 2 = 0)
  inside (compareDecimal c k low (e - 2)) .gt
    && inside (compareDecimal c k (4 * m + 2) (e - 2)) .lt

/-- The power of ten of the leading digit of `m * 2 ^ e`, for a positive `m`. -/
def decade (m : Nat) (e : Int) : Int :=
  let guess := (((m.log2 : Int) + e) * 30103) / 100000
  if compareDecimal 1 guess m e = .gt then guess - 1
  else if compareDecimal 1 (guess + 1) m e = .gt then guess
  else guess + 1

/-- The neighbour of `m * 2 ^ e` on the grid of multiples of `10 ^ k` that rounds to it, the
nearer one if both do. -/
def neighbour? (m : Nat) (e k : Int) : Option Decimal :=
  let n := m * Nat.pow 2 e.toNat * Nat.pow 10 (-k).toNat
  let d := Nat.pow 2 (-e).toNat * Nat.pow 10 k.toNat
  let c := n / d
  match roundsTo m e c k, roundsTo m e (c + 1) k with
  | true, true => some ⟨nearestEven n d, k⟩
  | true, false => some ⟨c, k⟩
  | false, true => some ⟨c + 1, k⟩
  | false, false => none

/-- The value `m * 2 ^ e` itself as a decimal. -/
def exactDecimal (m : Nat) (e : Int) : Decimal :=
  ⟨m * Nat.pow 2 e.toNat * Nat.pow 5 (-e).toNat, min e 0⟩

/-- The decimal of fewest digits that rounds to `m * 2 ^ e`. -/
def shortest (m : Nat) (e : Int) : Decimal :=
  let top := decade m e
  ((List.range 17).findSome? fun (p : Nat) => neighbour? m e (top - p)).getD (exactDecimal m e)

end Binary64

/-- The decimal digits of a natural number. -/
def decimalDigits (n : Nat) : List Char := Nat.toDigits 10 n

namespace Decimal

/-- The significant digits, without trailing zeros. -/
def significant (d : Decimal) : List Char :=
  ((decimalDigits d.coefficient).reverse.dropWhile (· = '0')).reverse

/-- The power of ten of the leading digit. -/
def leading (d : Decimal) : Int :=
  d.exponent + (decimalDigits d.coefficient).length - 1

/-- Digits with the point after `places` of them; a number always shows a digit on both sides. -/
def positional (digits : List Char) (places : Int) : List Char :=
  if places ≤ 0 then '0' :: '.' :: (List.replicate (-places).toNat '0' ++ digits)
  else
    let n := places.toNat
    if digits.length ≤ n then digits ++ List.replicate (n - digits.length) '0' ++ ['.', '0']
    else digits.take n ++ '.' :: digits.drop n

/-- A power of ten with its sign and at least the given number of digits. -/
def exponentText (width : Nat) (x : Int) : List Char :=
  let digits := decimalDigits x.natAbs
  (if x < 0 then '-' else '+') :: (List.replicate (width - digits.length) '0' ++ digits)

/-- One digit before the point, the others after it, then the power of ten. -/
def scientific (width : Nat) (digits : List Char) (x : Int) : List Char :=
  let mantissa := match digits with
    | first :: second :: rest => first :: '.' :: second :: rest
    | _ => digits
  mantissa ++ 'e' :: exponentText width x

/-- The text of a positive decimal. -/
def text (layout : DecimalLayout) (d : Decimal) : List Char :=
  let x := d.leading
  if layout.least ≤ x && x < layout.limit then positional d.significant (x + 1)
  else scientific layout.exponentDigits d.significant x

end Decimal

/-- Numbers are written positionally from `0.0001` to below `10 ^ 16`. -/
def realLayout : DecimalLayout := ⟨-4, 16, 2⟩

/-- The decimal text of a floating point number. -/
def Binary64.text : Binary64 → List Char
  | .nan => "nan".toList
  | .infinite negative => (if negative then "-inf" else "inf").toList
  | .finite negative m e _ =>
    (if negative then ['-'] else [])
      ++ if m = 0 then "0.0".toList else (shortest m e).text realLayout

end Winnow
