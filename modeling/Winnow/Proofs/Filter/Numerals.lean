/-
# `Numerals` — an answer that is the text of a number

The text of a number is an answer too, and it is read as the floating point number nearest to that
number (`compareNumbers_text`).  A floating point number is nearest to itself, so its text compares
as it does.  But an integer of many bits is not the number that its text is read as: it compares
exactly, and its text does not.  `numeral_compares_as_number_iff` says that these integers are the
only exceptions.
-/
import Winnow.Filter.Submission
import Winnow.Proofs.Filter.Numbers
import Winnow.Proofs.Number.Exact
import Winnow.Proofs.Number.Text

namespace Winnow

namespace Number

/-- The number is a floating point number. -/
def IsExact : Number → Prop
  | .integer i => HasShortMantissa i
  | .real _ => True

/-- The nearest floating point number is at the same point for such numbers only. -/
theorem point?_nearestReal_iff {n : Number} :
    (real n.nearestReal).point? = n.point? ↔ n.IsExact := by
  cases n with
  | integer i =>
      rw [point?_integer, point?_real_iff]
      exact Binary64.value?_ofIntRatio_one_iff
  | real x => exact iff_of_true rfl trivial

end Number

section

variable {n : Number} {cs : List Char}

/-- The text of a number as an answer. -/
theorem asNumber?_text (h : n.text? = some cs) :
    (Json.string (String.ofList cs)).asNumber? = some (.real n.nearestReal) := by
  have htext : (Json.string (String.ofList cs)).text? = some cs := by
    rw [Json.text?, String.toList_ofList]
  simp only [Json.asNumber?, htext, Option.bind_eq_bind, Option.bind_some,
    Number.readReal?_text h]
  rfl

theorem compareNumbers_text (h : n.text? = some cs) (f : Number) (c : Condition) :
    compareNumbers (.number f) (.string (String.ofList cs)) c
      = compareNumbers (.number f) (.number (.real n.nearestReal)) c :=
  compareNumbers_congr rfl (asNumber?_text h) rfl

/-- An integer is equal to its text if it is a floating point number, and not otherwise. -/
theorem equals_text_iff {i : Int} (h : (Number.integer i).text? = some cs) :
    compareNumbers (.number (.integer i)) (.string (String.ofList cs)) .equals = .ok true ↔
      HasShortMantissa i := by
  rw [compareNumbers_text h, compareNumbers_equals_iff rfl,
    Number.compare?_eq_some_eq_iff (Number.point?_integer i), Number.point?_real_iff]
  exact Binary64.value?_ofIntRatio_one_iff

/-- The text of a number is compared as the floating point number nearest to the number.  So it
compares as the number, and equals it if that is an integer, exactly if the number is a floating
point number; and then a rule for numbers holds of the same submissions, whether they have the number
or its text for their answer. -/
theorem numeral_compares_as_number_iff [Present] (h : n.text? = some cs) :
    (∀ f c, compareNumbers (.number f) (.string (String.ofList cs)) c
      = compareNumbers (.number f) (.number (.real n.nearestReal)) c) ∧
    ((∀ f c, compareNumbers (.number f) (.string (String.ofList cs)) c
      = compareNumbers (.number f) (.number n) c) ↔ n.IsExact) ∧
    (∀ i, n = .integer i → (compareNumbers (.number n) (.string (String.ofList cs)) .equals
      = .ok true ↔ n.IsExact)) ∧
    (n.IsExact → ∀ (r : Rule) (f : Number) (submission submission' : Json), r.target = .number f →
      answerTo r.id submission = .ok (some (.number n)) →
      answerTo r.id submission' = .ok (some (.string (String.ofList cs))) →
      r.holdsOf submission' = r.holdsOf submission) := by
  have hexact : n.IsExact → ∀ f c, compareNumbers (.number f) (.string (String.ofList cs)) c
      = compareNumbers (.number f) (.number n) c := fun hn _ _ =>
    compareNumbers_congr rfl (asNumber?_text h) (Number.point?_nearestReal_iff.mpr hn)
  refine ⟨compareNumbers_text h, ⟨fun hall => ?_, hexact⟩, ?_, ?_⟩
  · cases n with
    | real x => trivial
    | integer i =>
        -- The number equals itself, and so its text has to equal it.
        have hi := Number.point?_integer i
        have hself : compareNumbers (.number (.integer i)) (.number (.integer i)) .equals
            = .ok true :=
          (compareNumbers_equals_iff rfl).mpr ((Number.compare?_eq_some_eq_iff hi).mpr hi)
        exact (equals_text_iff h).mp ((hall _ _).trans hself)
  · rintro i rfl
    exact equals_text_iff h
  · intro hn r f submission submission' htarget hanswer hanswer'
    unfold Rule.holdsOf Rule.holds
    simp only [hanswer, hanswer', htarget]
    exact hexact hn f r.condition

end

/-- An even integer of 54 bits has a mantissa of 53, and its text compares as it does. -/
theorem even_integer_compares_as_numeral :
    (Number.integer 9007199254740994).text? = some "9007199254740994".toList ∧
    (∀ f c, compareNumbers (.number f) (.string "9007199254740994") c
      = compareNumbers (.number f) (.number (.integer 9007199254740994)) c) := by
  have htext : (Number.integer 9007199254740994).text? = some "9007199254740994".toList := by
    decide +kernel
  have hexact : (Number.integer 9007199254740994).IsExact :=
    ⟨4503599627370497, 1, by decide, by decide, by decide +kernel⟩
  refine ⟨htext, ?_⟩
  let _ : Present := ⟨2025⟩
  have hcompares := (numeral_compares_as_number_iff htext).2.1.mpr hexact
  rwa [String.ofList_toList] at hcompares

/-- An odd integer of 54 bits equals itself, but its text does not equal it. -/
theorem odd_integer_differs_from_numeral :
    (Number.integer 9007199254740993).text? = some "9007199254740993".toList ∧
    compareNumbers (.number (.integer 9007199254740993)) (.string "9007199254740993") .equals
      = .ok false ∧
    compareNumbers (.number (.integer 9007199254740993)) (.number (.integer 9007199254740993))
      .equals = .ok true := by
  decide +kernel

end Winnow
