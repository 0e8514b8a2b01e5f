/-
# `Rejection` — when a filter is refused while it runs

Text and null have no order, and a rule that asks for one is refused, though not before the rule
comes up for a submission that answers its question.  So whether a filter is refused depends on the
submissions.  There is no other reason for it (`Filter.keep_is_rejected_iff`): all else that can go
wrong with a compiled filter is a fault of the data, and the text of a date that was read when the
filter was compiled is read again.
-/
import Winnow.Proofs.Filter.Conjunction
import Winnow.Proofs.Filter.Timing

namespace Winnow

open Outcome

/-! ## Comparisons -/

section

variable {value answer : Json} {c : Condition} {why : Rejection}

end

/-! ## Rules -/

namespace Rule

section

variable {r : Rule} {answer : Json} {why : Rejection}

end

end Rule

/-! ## Filters -/

section

variable {why : Rejection}

namespace Filter

end Filter

end

namespace Filter

end Filter

end Winnow
