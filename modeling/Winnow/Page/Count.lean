/-
Count — how many pages a number of responses fills.

The quotient is rounded to a floating point number, and its ceiling is the number of pages.
-/
import Winnow.Number.Binary64

namespace Winnow

/-- Why there is no number of pages. -/
inductive PageFault where
  /-- A page holds no responses. -/
  | limitNotPositive
  /-- The quotient is too large for a floating point number. -/
  | tooLarge
deriving DecidableEq, Repr

/-- The least integer that is not below a floating point number, which is finite. -/
def Binary64.ceil? (x : Binary64) : Option Int := x.ratio?.map fun (n, d) => -(-n / d)

/-- The number of pages that a number of responses fills. -/
def pageCount (total limit : Int) : Except PageFault Int :=
  if limit ≤ 0 then .error .limitNotPositive
  else match (Binary64.ofIntRatio total limit.toNat).ceil? with
    | some n => .ok n
    | none => .error .tooLarge

end Winnow
