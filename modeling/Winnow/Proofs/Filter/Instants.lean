/-
# `Instants` — dates compare as the instants that they name

Two dates are compared by their timestamps, and these only depend on the instants, so that it makes
no difference in which form a date is written or with which offset.  Timestamps are rounded, and
hence the order that is found is that of the instants except between instants less than a
millisecond apart, which may count as equal but never as reversed (`dates_are_ordered_by_instant`).
-/
import Winnow.Proofs.Calendar.Instant
import Winnow.Proofs.Filter.Numbers
import Winnow.Proofs.Filter.Timing

namespace Winnow

section

variable {value answer : Json} {target actual : DateTime}

theorem timestamp?_of_hasModerateOffset {t : DateTime} (h : t.HasModerateOffset) :
    t.timestamp? = .ok t.timestamp := by
  rw [DateTime.timestamp?, DateTime.hasTimestamp_iff.mpr h]
  rfl

/-- Dates are in the order of the timestamps of their instants. -/
theorem compareDates_eq [Present] (hvalue : value.date = .ok (some target))
    (hanswer : answer.date = .ok (some actual)) (htarget : target.HasModerateOffset)
    (hactual : actual.HasModerateOffset) (c : Condition) : compareDates value answer c
      = .ok (c.admits (cmp (timestampOf actual.instant) (timestampOf target.instant))) := by
  have htargetPoint := Number.point?_real (DateTime.value?_timestamp htarget)
  have hactualPoint := Number.point?_real (DateTime.value?_timestamp hactual)
  have horder : (Number.real actual.timestamp).compare? (.real target.timestamp)
      = some (cmp (timestampOf actual.instant) (timestampOf target.instant)) := by
    rw [Number.compare?_of_points hactualPoint htargetPoint, ExtendedRational.cmp_coe]
  rw [compareDates_of_dates hvalue hanswer, timestamp?_of_hasModerateOffset htarget,
    timestamp?_of_hasModerateOffset hactual]
  exact compareNumbers_of_compare? rfl horder

/-- An answer stands in one order to the value, and each condition admits it or not by that order
alone.  The order is never that of other instants reversed, it is the order of the instants if these
are a millisecond apart, and it only depends on them. -/
theorem dates_are_ordered_by_instant [Present] (hvalue : value.date = .ok (some target))
    (hanswer : answer.date = .ok (some actual)) (htarget : target.HasModerateOffset)
    (hactual : actual.HasModerateOffset) :
    ∃ o : Ordering, (∀ c, compareDates value answer c = .ok (c.admits o)) ∧
      (actual.instant = target.instant → o = .eq) ∧
      (o = .gt → target.instant < actual.instant) ∧
      (o = .lt → actual.instant < target.instant) ∧
      (target.instant + 1000 ≤ actual.instant → o = .gt) ∧
      (actual.instant + 1000 ≤ target.instant → o = .lt) ∧
      ∀ value' answer' target' actual', value'.date = .ok (some target') →
        answer'.date = .ok (some actual') → target'.HasModerateOffset →
        actual'.HasModerateOffset → target'.instant = target.instant →
        actual'.instant = actual.instant →
        ∀ c, compareDates value' answer' c = compareDates value answer c := by
  have hactualBound := DateTime.natAbs_instant_lt hactual
  have htargetBound := DateTime.natAbs_instant_lt htarget
  refine ⟨_, compareDates_eq hvalue hanswer htarget hactual, ?_, ?_, ?_, ?_, ?_, ?_⟩
  · intro hsame
    rw [hsame]
    exact cmp_self_eq_eq _
  · intro hgreater
    exact timestampOf_mono.reflect_lt ((cmp_eq_gt_iff _ _).mp hgreater)
  · intro hless
    exact timestampOf_mono.reflect_lt ((cmp_eq_lt_iff _ _).mp hless)
  · intro hapart
    exact (timestampOf_lt htargetBound hactualBound hapart).cmp_eq_gt
  · intro hapart
    exact (timestampOf_lt hactualBound htargetBound hapart).cmp_eq_lt
  · intro value' answer' target' actual' hvalue' hanswer' htarget' hactual' htargets hactuals c
    rw [compareDates_eq hvalue' hanswer' htarget' hactual', htargets, hactuals,
      compareDates_eq hvalue hanswer htarget hactual]

end

/-- A millisecond after the value is later, in free form, with an offset and as a number of seconds
alike. -/
theorem millisecond_later_is_greater :
    let _ : Present := ⟨2025⟩
    let value := Json.string "Feb 1 2024"
    let answer := Json.string "2024-02-01 05:30:00,001+05:30"
    let seconds := Json.string "1706745600.001"
    ∃ target actual, value.date = .ok (some target) ∧ answer.date = .ok (some actual) ∧
      target.HasModerateOffset ∧ actual.HasModerateOffset ∧
      actual.instant = target.instant + 1000 ∧
      compareDates value answer .greater = .ok true ∧
      compareDates value answer .equals = .ok false ∧
      compareDates value seconds .greater = .ok true := by
  intro present value answer seconds
  let target : DateTime := ⟨⟨2024, 2, 1, by decide⟩, .midnight, none⟩
  let actual : DateTime := ⟨⟨2024, 2, 1, by decide⟩, ⟨5, 30, 0, 1000, by decide⟩, some 19800⟩
  let other : DateTime := ⟨⟨2024, 2, 1, by decide⟩, ⟨0, 0, 0, 1000, by decide⟩, some 0⟩
  have hvalue : value.date = .ok (some target) := by decide +kernel
  have hanswer : answer.date = .ok (some actual) := by decide +kernel
  have hseconds : seconds.date = .ok (some other) := by decide +kernel
  have htarget : target.HasModerateOffset := DateTime.hasTimestamp_iff.mp rfl
  have hactual : actual.HasModerateOffset := DateTime.hasTimestamp_iff.mp rfl
  have hother : other.HasModerateOffset := DateTime.hasTimestamp_iff.mp rfl
  have hlater : actual.instant = target.instant + 1000 := by decide
  obtain ⟨o, ho, -, -, -, hgreater, -, hsame⟩ :=
    dates_are_ordered_by_instant hvalue hanswer htarget hactual
  obtain rfl : o = .gt := hgreater hlater.ge
  refine ⟨target, actual, hvalue, hanswer, htarget, hactual, hlater, ho .greater, ho .equals, ?_⟩
  rw [hsame value seconds target other hvalue hseconds htarget hother rfl (by decide)]
  exact ho .greater

end Winnow
