/-
# `Numbers` — comparisons with a number come down to one order

A number and an answer that reads as one stand in one of three orders, or in none if one of them is
NaN, and a condition admits some of the orders.  So a comparison depends on no more than the point
of the answer on the line of numbers (`compareNumbers_congr`), however the answer is written.
-/
import Winnow.Filter.Comparison
import Winnow.Proofs.Number.Order

namespace Winnow

/-- The condition admits an answer that stands in this order to the value. -/
def Condition.admits : Condition → Ordering → Bool
  | .equals, o => o = .eq
  | .differs, o => o ≠ .eq
  | .greater, o => o = .gt
  | .less, o => o = .lt

section

variable {value answer answer' : Json} {f n n' : Number} {c : Condition}

theorem compareNumbers_of_compare? {o : Ordering} (hn : answer.asNumber? = some n)
    (ho : n.compare? f = some o) : compareNumbers (.number f) answer c = .ok (c.admits o) := by
  have horder : (do (← answer.asNumber?).compare? (← (Json.number f).asOperand?)) = some o := by
    rw [hn]
    exact ho
  unfold compareNumbers
  rw [horder, hn]
  cases c <;> simp [Condition.admits, Json.asOperand?]

theorem compareNumbers_equals_iff (hn : answer.asNumber? = some n) :
    compareNumbers (.number f) answer .equals = .ok true ↔ n.compare? f = some .eq := by
  have horder : (do (← answer.asNumber?).compare? (← (Json.number f).asOperand?))
      = n.compare? f := by
    rw [hn]
    rfl
  unfold compareNumbers
  rw [horder]
  simp

/-- To differ is not to be equal. -/
theorem compareNumbers_differs (value answer : Json) :
    compareNumbers value answer .differs = (compareNumbers value answer .equals).map not := by
  simp only [compareNumbers, Except.map, decide_not]

/-- Answers at one point of the line compare alike. -/
theorem compareNumbers_congr (hn : answer.asNumber? = some n) (hn' : answer'.asNumber? = some n')
    (h : n'.point? = n.point?) :
    compareNumbers value answer' c = compareNumbers value answer c := by
  have horder : (do (← answer'.asNumber?).compare? (← value.asOperand?))
      = (do (← answer.asNumber?).compare? (← value.asOperand?)) := by
    rw [hn, hn']
    cases value.asOperand? with
    | none => rfl
    | some f =>
        simp only [Option.bind_eq_bind, Option.bind_some, Number.compare?_eq, h]
  unfold compareNumbers
  rw [horder, hn, hn']
  rfl

end

end Winnow
