/-
# `Instant` — how well a timestamp tells instants apart

A timestamp comes from an instant by two roundings, of the quotient in seconds and of the product in
milliseconds.  Both keep the order, so that timestamps are in the order of instants
(`timestampOf_mono`).  Equal timestamps do not mean equal instants: far from 1970 microseconds are
lost.  But no instant of the calendar is so far away that a whole millisecond could be
(`timestampOf_lt`).
-/
import Winnow.Calendar.DateTime
import Winnow.Proofs.Calendar.Iso
import Winnow.Proofs.Number.Nearest

namespace Winnow

/-! ## The range of instants -/

theorem daysBeforeMonth_le (y m : Nat) : daysBeforeMonth y m ≤ 31 * m := by
  induction m with
  | zero => exact Nat.zero_le _
  | succ m ih =>
      cases m with
      | zero => exact Nat.zero_le _
      | succ m =>
          have hlength := monthLength_le y (m + 1)
          rw [daysBeforeMonth]
          omega

theorem Date.dayNumber_bounds (d : Date) : -719162 ≤ d.dayNumber ∧ d.dayNumber ≤ 3000000 := by
  obtain ⟨⟨-, hyear⟩, ⟨-, hmonth⟩, -, hday⟩ := d.valid
  have hlength := monthLength_le d.year d.month
  have hmonths := daysBeforeMonth_le d.year d.month
  have hyears : daysBeforeYear d.year ≤ 3652000 := by
    unfold daysBeforeYear
    dsimp only
    omega
  unfold dayNumber epochDays
  omega

theorem TimeOfDay.microseconds_lt (t : TimeOfDay) : t.microseconds < dayMicroseconds := by
  obtain ⟨hhour, hminute, hsecond, hmicrosecond⟩ := t.valid
  unfold microseconds dayMicroseconds
  omega

namespace DateTime

/-- The offset from UTC, if there is one, is less than a day. -/
def HasModerateOffset (t : DateTime) : Prop :=
  ∀ offset, t.offset = some offset → -86400 < offset ∧ offset < 86400

theorem hasTimestamp_iff {t : DateTime} : t.hasTimestamp = true ↔ t.HasModerateOffset := by
  unfold hasTimestamp HasModerateOffset
  cases t.offset with
  | none => simp
  | some offset =>
      simp only [Option.getD_some, decide_eq_true_eq, Option.some.injEq, forall_eq']
      omega

theorem natAbs_instant_lt {t : DateTime} (h : t.HasModerateOffset) :
    t.instant.natAbs < 2 ^ 38 * 1000000 := by
  obtain ⟨hlow, hhigh⟩ := t.date.dayNumber_bounds
  have htime := t.time.microseconds_lt
  have hoffset : (t.offset.getD 0).natAbs < 86400 := by
    have hstamp := hasTimestamp_iff.mpr h
    rwa [hasTimestamp, decide_eq_true_eq] at hstamp
  unfold instant
  unfold dayMicroseconds at htime ⊢
  omega

end DateTime

/-! ## Timestamps of instants -/

/-- The timestamp of an instant, which is given in microseconds. -/
def timestampOf (instant : Int) : ℚ := nearest (1000 * nearest (instant / 1000000))

theorem timestampOf_mono : Monotone timestampOf := by
  intro i j hij
  refine nearest_mono (mul_le_mul_of_nonneg_left (nearest_mono ?_) (by norm_num))
  have hcast : (i : ℚ) ≤ j := Int.cast_le.mpr hij
  gcongr

section

variable {i j : Int}

theorem abs_seconds_lt (h : i.natAbs < 2 ^ 38 * 1000000) :
    |(i : ℚ) / 1000000| < 2 ^ (38 : Int) := by
  have habs : |(i : ℚ)| = i.natAbs := by rw [Nat.cast_natAbs, Int.cast_abs]
  rw [abs_div, abs_of_pos (by norm_num : (0 : ℚ) < 1000000), div_lt_iff₀ (by norm_num), habs]
  exact_mod_cast h

theorem abs_milliseconds_lt (h : i.natAbs < 2 ^ 38 * 1000000) :
    |1000 * nearest ((i : ℚ) / 1000000)| < 2 ^ (48 : Int) := by
  have hsize := abs_seconds_lt h
  have hmoved := abs_nearest_sub_le (by decide) hsize
  rw [abs_lt] at hsize ⊢
  rw [abs_le] at hmoved
  norm_num at hsize hmoved ⊢
  constructor <;> linarith

/-- A timestamp is less than a quarter of a millisecond away from its instant. -/
theorem abs_timestampOf_sub_lt (h : i.natAbs < 2 ^ 38 * 1000000) :
    |timestampOf i - i / 1000| < 1 / 4 := by
  have hseconds := abs_nearest_sub_le (by decide) (abs_seconds_lt h)
  have hmilliseconds := abs_nearest_sub_le (by decide) (abs_milliseconds_lt h)
  rw [← timestampOf] at hmilliseconds
  rw [abs_le] at hseconds hmilliseconds
  rw [abs_lt]
  norm_num at hseconds hmilliseconds ⊢
  constructor <;> linarith

/-- Instants that are a millisecond apart have different timestamps. -/
theorem timestampOf_lt (hi : i.natAbs < 2 ^ 38 * 1000000) (hj : j.natAbs < 2 ^ 38 * 1000000)
    (h : i + 1000 ≤ j) : timestampOf i < timestampOf j := by
  obtain ⟨-, hi⟩ := abs_lt.mp (abs_timestampOf_sub_lt hi)
  obtain ⟨hj, -⟩ := abs_lt.mp (abs_timestampOf_sub_lt hj)
  have hgap : (i : ℚ) / 1000 + 1 ≤ j / 1000 := by
    rw [← sub_nonneg]
    have hcast : (i : ℚ) + 1000 ≤ j := by exact_mod_cast h
    linarith
  linarith

end

/-- The timestamp of a date is that of its instant. -/
theorem DateTime.value?_timestamp {t : DateTime} (h : t.HasModerateOffset) :
    t.timestamp.value? = some (timestampOf t.instant) := by
  have hbound := natAbs_instant_lt h
  have hseconds : (Binary64.ofIntRatio t.instant 1000000).value?
      = some (nearest ((t.instant : ℚ) / 1000000)) := by
    refine Binary64.value?_ofIntRatio (by decide) (hbound.trans_le ?_)
    exact Nat.mul_le_mul_right 1000000 (pow_le_pow_right₀ one_le_two (by decide))
  have hlarge : (2 : ℚ) ^ (48 : Int) ≤ (2 ^ 1022 : Nat) := by
    have hcast : (2 : ℚ) ^ (48 : Int) = (2 ^ 48 : Nat) := by norm_num
    rw [hcast]
    exact Nat.cast_le.mpr (pow_le_pow_right₀ one_le_two (by decide))
  exact Binary64.value?_scale (k := 1000) hseconds ((abs_milliseconds_lt hbound).trans_le hlarge)

end Winnow
