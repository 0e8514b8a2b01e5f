/-
# `Exactness` — numbers are compared as what they are

An answer is a number if it is one, or if it is a text that writes one; nothing else is, whatever its
text may look like, since null is a word and a container opens with a bracket
(`Json.asNumber?_eq_some_iff`).  A number and the value of a filter are then compared as points of
the extended line, where an integer stands at itself and a floating point number at its value, so no
rounding takes place between the two.  NaN is not on the line: it differs from everything, and that
is all that can be said of an answer that is no number, too.
-/
import Winnow.Proofs.Filter.Numbers
import Winnow.Proofs.Filter.Timing
import Winnow.Proofs.Number.Text

namespace Winnow

/-! ## Texts that write no number -/

/-- A character at the front that is not dropped stays at the front. -/
theorem Text.exists_trimWhile_cons {p : Char → Bool} {c : Char} (h : p c = false)
    (rest : List Char) : ∃ rest', trimWhile p (c :: rest) = c :: rest' := by
  rw [trimWhile_eq_rdropWhile, List.dropWhile_cons_of_neg (by simp [h])]
  cases hdropped : (c :: rest).rdropWhile p with
  | nil =>
      have hall := List.rdropWhile_eq_nil_iff.mp hdropped c List.mem_cons_self
      exact absurd hall (by simp [h])
  | cons c' rest' =>
      have hprefix : c' :: rest' <+: c :: rest := hdropped ▸ List.rdropWhile_prefix p _
      rw [(List.cons_prefix_cons.mp hprefix).1]
      exact ⟨rest', rfl⟩

/-- The character opens a container. -/
def IsOpening (c : Char) : Prop := c = '[' ∨ c = '\x7b'

section

variable {c : Char}

theorem Binary64.read?_opening (h : IsOpening c) (rest : List Char) : read? (c :: rest) = none := by
  have hsign : splitSign (c :: rest) = (false, c :: rest) := by rcases h with rfl | rfl <;> rfl
  have hword : readWord? false (c :: rest) = none := by
    rcases h with rfl | rfl
    · exact readWord?_cons_eq_none (by decide) (by decide) false rest
    · exact readWord?_cons_eq_none (by decide) (by decide) false rest
  have hunsigned : readUnsigned? false (c :: rest) = none := by rcases h with rfl | rfl <;> rfl
  rw [read?, hsign]
  simp only [hword, hunsigned]
  rfl

/-- A text that opens like a container is no numeral. -/
theorem Numeral.readReal?_opening (h : IsOpening c) (rest : List Char) :
    readReal? (Text.strip (c :: rest)) = none := by
  have hblank : Text.isBlank c = false := by rcases h with rfl | rfl <;> rfl
  have hdigit : Text.toAsciiDigit c = c := by rcases h with rfl | rfl <;> rfl
  obtain ⟨stripped, hstrip⟩ := Text.exists_trimWhile_cons hblank rest
  obtain ⟨trimmed, htrim⟩ := Text.exists_trimWhile_cons (Text.isSpace_of_isBlank hblank)
    (stripped.map Text.toAsciiDigit)
  have hjoin : joinGroups? ' ' (c :: trimmed) = (c :: ·) <$> joinGroups? c trimmed := by
    rcases h with rfl | rfl <;> rfl
  rw [Text.strip, hstrip, readReal?, plain?, List.map_cons, hdigit, Text.trim, htrim, hjoin]
  cases joinGroups? c trimmed with
  | none => rfl
  | some joined => exact Binary64.read?_opening h joined

end

/-! ## Answers that are numbers -/

namespace Json

/-- The answer is a number, or a text that writes one. -/
inductive ReadsAs : Json → Number → Prop
  | number (n : Number) : ReadsAs (.number n) n
  | text {s : String} {x : Binary64} : Numeral.readReal? (Text.strip s.toList) = some x →
      ReadsAs (.string s) (.real x)

/-- The value is an array or an object. -/
inductive IsContainer : Json → Prop
  | array (items : List Json) : IsContainer (.array items)
  | object (members : List (String × Json)) : IsContainer (.object members)

/-- The text of a container opens with its bracket, whatever the container holds. -/
theorem exists_opening_of_text? {v : Json} {cs : List Char} (h : v.IsContainer)
    (hcs : v.text? = some cs) : ∃ c rest, IsOpening c ∧ cs = c :: rest := by
  cases h with
  | array items =>
      obtain ⟨texts, -, htext⟩ := Option.bind_eq_some_iff.mp hcs
      cases htext
      exact ⟨'[', _, Or.inl rfl, rfl⟩
  | object members =>
      obtain ⟨texts, -, htext⟩ := Option.bind_eq_some_iff.mp hcs
      cases htext
      exact ⟨'\x7b', _, Or.inr rfl, rfl⟩

theorem asNumber?_of_isContainer {v : Json} (h : v.IsContainer) : v.asNumber? = none := by
  have hread : v.asNumber? = v.text?.bind fun cs =>
      (Numeral.readReal? (Text.strip cs)).bind fun x => some (.real x) := by
    cases h <;> rfl
  rw [hread, Option.bind_eq_none_iff]
  intro cs hcs
  obtain ⟨c, rest, hc, rfl⟩ := exists_opening_of_text? h hcs
  rw [Numeral.readReal?_opening hc rest]
  rfl

/-- Truth values, null and containers are not read as numbers. -/
theorem asNumber?_eq_some_iff {v : Json} {n : Number} : v.asNumber? = some n ↔ v.ReadsAs n := by
  cases v with
  | null =>
      have hword : null.asNumber? = none := by decide +kernel
      rw [hword]
      exact iff_of_false (by rintro ⟨⟩) (by rintro ⟨⟩)
  | bool b => exact iff_of_false (by rintro ⟨⟩) (by rintro ⟨⟩)
  | number m =>
      constructor
      · intro h
        cases h
        exact .number n
      · rintro ⟨⟩
        rfl
  | string s =>
      have hread : (string s).asNumber?
          = (Numeral.readReal? (Text.strip s.toList)).map Number.real := by
        simp only [asNumber?, text?, Option.bind_eq_bind, Option.bind_some, Option.pure_def]
        rw [Option.map_eq_bind]
        rfl
      rw [hread, Option.map_eq_some_iff]
      constructor
      · rintro ⟨x, hx, rfl⟩
        exact .text hx
      · rintro ⟨⟩
        next x hx => exact ⟨x, hx, rfl⟩
  | array items =>
      rw [asNumber?_of_isContainer (.array items)]
      exact iff_of_false (by rintro ⟨⟩) (by rintro ⟨⟩)
  | object members =>
      rw [asNumber?_of_isContainer (.object members)]
      exact iff_of_false (by rintro ⟨⟩) (by rintro ⟨⟩)

end Json

/-! ## The order of numbers -/

/-- NaN is the only number that is not on the line. -/
theorem Number.point?_eq_none_iff {n : Number} : n.point? = none ↔ n = .real .nan := by
  cases n with
  | integer i =>
      rw [point?_integer]
      exact iff_of_false nofun nofun
  | real x =>
      cases x with
      | nan => exact iff_of_true rfl rfl
      | infinite negative => exact iff_of_false nofun nofun
      | finite negative m e canonical => exact iff_of_false nofun nofun

theorem Number.exists_point? {n : Number} (h : n ≠ .real .nan) : ∃ p, n.point? = some p := by
  refine Option.ne_none_iff_exists'.mp fun hnone => ?_
  exact h (point?_eq_none_iff.mp hnone)

theorem Number.compare?_eq_none {a b : Number} (h : a = .real .nan ∨ b = .real .nan) :
    a.compare? b = none := by
  rw [← point?_eq_none_iff, ← point?_eq_none_iff] at h
  rw [compare?_eq]
  rcases h with h | h
  · rw [h]
    rfl
  · rw [h]
    cases a.point? <;> rfl

/-- Of the conditions but that of a difference, an order is admitted by just one. -/
theorem Condition.existsUnique_admits (o : Ordering) :
    ∃! c : Condition, c ≠ .differs ∧ c.admits o = true := by
  cases o with
  | lt => exact ⟨.less, by decide, by rintro (_ | _ | _ | _) <;> decide⟩
  | eq => exact ⟨.equals, by decide, by rintro (_ | _ | _ | _) <;> decide⟩
  | gt => exact ⟨.greater, by decide, by rintro (_ | _ | _ | _) <;> decide⟩

section

variable {f x : Number} {value answer : Json}

/-- What is no number differs from every number. -/
theorem compareNumbers_of_asNumber?_eq_none (h : answer.asNumber? = none) (c : Condition) :
    compareNumbers value answer c = .ok (c = .differs) := by
  unfold compareNumbers
  rw [h]
  cases c <;> rfl

/-- What has no order to a number differs from it. -/
theorem compareNumbers_of_compare?_eq_none (hx : answer.asNumber? = some x)
    (h : x.compare? f = none) (c : Condition) :
    compareNumbers (.number f) answer c = .ok (c = .differs) := by
  have horder : (do (← answer.asNumber?).compare? (← (Json.number f).asOperand?)) = none := by
    rw [hx]
    exact h
  unfold compareNumbers
  rw [horder, hx]
  cases c <;> rfl

end

/-- Every condition on a number is decided for every answer, a difference as the negation of
equality.  What is no number only differs, and so does NaN; all other numbers are equal, greater or
less according to their points, and one of the three is true. -/
theorem numbers_are_compared_exactly (f : Number) (answer : Json) :
    (∀ c, ∃ b, compareNumbers (.number f) answer c = .ok b) ∧
    (∀ b, compareNumbers (.number f) answer .equals = .ok b ↔
      compareNumbers (.number f) answer .differs = .ok !b) ∧
    ((∀ x, ¬ answer.ReadsAs x) →
      ∀ c, compareNumbers (.number f) answer c = .ok (c = .differs)) ∧
    ∀ x, answer.ReadsAs x →
      (x = .real .nan ∨ f = .real .nan →
        ∀ c, compareNumbers (.number f) answer c = .ok (c = .differs)) ∧
      (x ≠ .real .nan → f ≠ .real .nan →
        ∃ p q, x.point? = some p ∧ f.point? = some q ∧
          (compareNumbers (.number f) answer .equals = .ok true ↔ p = q) ∧
          (compareNumbers (.number f) answer .greater = .ok true ↔ q < p) ∧
          (compareNumbers (.number f) answer .less = .ok true ↔ p < q) ∧
          ∃! c, c ≠ .differs ∧ compareNumbers (.number f) answer c = .ok true) := by
  refine ⟨exists_compareNumbers f answer, ?_, ?_, ?_⟩
  · intro b
    rw [compareNumbers_differs]
    cases compareNumbers (.number f) answer .equals <;> simp [Except.map]
  · intro hnone c
    refine compareNumbers_of_asNumber?_eq_none ?_ c
    refine Option.eq_none_iff_forall_ne_some.mpr fun x hx => ?_
    exact hnone x (Json.asNumber?_eq_some_iff.mp hx)
  · intro x hx
    rw [← Json.asNumber?_eq_some_iff] at hx
    constructor
    · intro hnan
      exact compareNumbers_of_compare?_eq_none hx (Number.compare?_eq_none hnan)
    · intro hxnan hfnan
      obtain ⟨p, hp⟩ := Number.exists_point? hxnan
      obtain ⟨q, hq⟩ := Number.exists_point? hfnan
      have hadmits (c : Condition) :
          compareNumbers (.number f) answer c = .ok true ↔ c.admits (cmp p q) = true := by
        rw [compareNumbers_of_compare? hx (Number.compare?_of_points hp hq), Except.ok.injEq]
      refine ⟨p, q, hp, hq, ?_, ?_, ?_, ?_⟩
      · rw [hadmits, Condition.admits, decide_eq_true_eq, cmp_eq_eq_iff]
      · rw [hadmits, Condition.admits, decide_eq_true_eq, cmp_eq_gt_iff]
      · rw [hadmits, Condition.admits, decide_eq_true_eq, cmp_eq_lt_iff]
      · simp only [hadmits]
        exact Condition.existsUnique_admits _

/-- The integer `10 ^ 23` is greater than the floating point number that is nearest to it; the array
of it only differs, and so does the text of NaN. -/
theorem integer_exceeds_nearest_float :
    let f : Number := .real (.finite false 5960464477539062 24 (by decide))
    let n : Number := .integer 100000000000000000000000
    ((Json.number n).ReadsAs n ∧ n ≠ .real .nan ∧ f ≠ .real .nan ∧
      (∀ x, ¬ (Json.array [.number n]).ReadsAs x) ∧ (Json.string "NaN").ReadsAs (.real .nan)) ∧
    compareNumbers (.number f) (.number n) .greater = .ok true ∧
      compareNumbers (.number f) (.array [.number n]) .differs = .ok true ∧
      compareNumbers (.number f) (.string "NaN") .less = .ok false := by
  intro f n
  have hreads : (Json.number n).ReadsAs n := .number n
  have hn : n ≠ .real .nan := by simp [n]
  have hf : f ≠ .real .nan := by simp [f]
  have harray : ∀ x, ¬ (Json.array [.number n]).ReadsAs x := by
    intro x h
    cases h
  have hnan : (Json.string "NaN").ReadsAs (.real .nan) := .text (by decide +kernel)
  refine ⟨⟨hreads, hn, hf, harray, hnan⟩, ?_, ?_, ?_⟩
  · obtain ⟨-, -, -, hordered⟩ := numbers_are_compared_exactly f (.number n)
    obtain ⟨p, q, hp, hq, -, hgreater, -⟩ := (hordered n hreads).2 hn hf
    rw [Number.point?_integer, Option.some.injEq] at hp
    rw [Number.point?_real (Binary64.value?_finite _), Option.some.injEq] at hq
    rw [hgreater, ← hp, ← hq, WithBot.coe_lt_coe, WithTop.coe_lt_coe]
    norm_num
  · exact (numbers_are_compared_exactly f _).2.2.1 harray .differs
  · exact ((numbers_are_compared_exactly f _).2.2.2 _ hnan).1 (Or.inl rfl) .less

end Winnow
