/-
Binary64 — floating point numbers as exact values.

A finite number is `m * 2 ^ e` with a sign, where `m` and `e` are the one canonical pair for that
magnitude, so equal numbers of one sign are equal as data.  Every operation rounds an exact
quotient of natural numbers to the nearest such number, a half going to the even mantissa; no
step of the arithmetic is left to the machine.
-/

namespace Winnow

/-- The natural number nearest to `n / d`; a half goes to the even neighbour. -/
def nearestEven (n d : Nat) : Nat :=
  let q := n / d
  let r := n % d
  if 2 * r < d then q
  else if d < 2 * r then q + 1
  else if q % 2 = 0 then q else q + 1

/-- The exponent `k` with `2 ^ k ≤ n / d < 2 ^ (k + 1)`, for positive `n` and `d`. -/
def binade (n d : Nat) : Int :=
  let k : Int := (n.log2 : Int) - (d.log2 : Int)
  if n * Nat.pow 2 (-k).toNat < d * Nat.pow 2 k.toNat then k - 1 else k

/-- The pairs that stand for the magnitude `m * 2 ^ e` of a finite number: the mantissa has 53
bits, or fewer at the least exponent. -/
def Canonical (m : Nat) (e : Int) : Prop :=
  m < Nat.pow 2 53 ∧ -1074 ≤ e ∧ e ≤ 971 ∧ (Nat.pow 2 52 ≤ m ∨ e = -1074)

instance (m : Nat) (e : Int) : Decidable (Canonical m e) :=
  inferInstanceAs (Decidable (_ ∧ _))

/-- A binary floating point number of 64 bits. -/
inductive Binary64 where
  | nan
  | infinite (negative : Bool)
  | finite (negative : Bool) (m : Nat) (e : Int) (canonical : Canonical m e)
deriving DecidableEq

namespace Binary64

/-- Zero of either sign. -/
def zero (negative : Bool) : Binary64 :=
  .finite negative 0 (-1074) (by decide)

/-- The number `m * 2 ^ e` for a rounded mantissa: a mantissa of `2 ^ 53` moves to the next
exponent, and what lies above the greatest exponent is infinite. -/
def ofParts (negative : Bool) (m : Nat) (e : Int) : Binary64 :=
  let p : Nat × Int := if m = Nat.pow 2 53 then (Nat.pow 2 52, e + 1) else (m, e)
  if h : Canonical p.1 p.2 then .finite negative p.1 p.2 h else .infinite negative

/-- The number nearest to `n / d`, for a positive `d`. -/
def ofRatio (negative : Bool) (n d : Nat) : Binary64 :=
  if n = 0 then zero negative
  else
    let e := max (-1074) (binade n d - 52)
    ofParts negative (nearestEven (n * Nat.pow 2 (-e).toNat) (d * Nat.pow 2 e.toNat)) e

/-- The number nearest to an integer quotient, for a positive `d`; zero is positive. -/
def ofIntRatio (n : Int) (d : Nat) : Binary64 :=
  ofRatio (decide (n < 0)) n.natAbs d

/-- The product with a natural number, rounded; it keeps the sign. -/
def scale (k : Nat) : Binary64 → Binary64
  | .nan => .nan
  | .infinite negative => .infinite negative
  | .finite negative m e _ => ofRatio negative (k * m * Nat.pow 2 e.toNat) (Nat.pow 2 (-e).toNat)

/-- A finite number is an integer over a power of two: `n / 2 ^ k`. -/
def ratio? : Binary64 → Option (Int × Nat)
  | .finite negative m e _ =>
    let n : Int := (m * Nat.pow 2 e.toNat : Nat)
    some (if negative then -n else n, Nat.pow 2 (-e).toNat)
  | _ => none

/-- Neither infinite nor NaN. -/
def isFinite : Binary64 → Bool
  | .finite .. => true
  | _ => false

end Binary64

end Winnow
