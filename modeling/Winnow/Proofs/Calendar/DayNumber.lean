/-
# `DayNumber` — every day is found by its number

The year of a day number is guessed from the mean length of a year and moved on by one if the guess
falls short; the day within the year is found by passing over whole months.  Both lead back to the
date that the number comes from (`Date.ofDayNumber?_dayNumber`).  So days are counted on as one
expects, and since every month has a first week, the search for a weekday from the first of a month
on does not leave the month (`Date.onOrAfter?_first`).
-/
import Mathlib
import Winnow.Calendar.Date

namespace Winnow

/-! ## Years -/

/-- The number of days of a year. -/
def yearLength (y : Nat) : Nat := if isLeapYear y then 366 else 365

theorem isLeapYear_iff {y : Nat} : isLeapYear y = true ↔ 4 ∣ y ∧ (100 ∣ y → 400 ∣ y) := by
  simp [isLeapYear, Nat.dvd_iff_mod_eq_zero, imp_iff_not_or]

/-- The days that a year has beyond 365, counted by the three rules for leap years. -/
theorem yearLength_add (y : Nat) : yearLength y + (if 100 ∣ y then 1 else 0)
    = 365 + (if 4 ∣ y then 1 else 0) + (if 400 ∣ y then 1 else 0) := by
  unfold yearLength
  simp only [isLeapYear_iff]
  split_ifs <;> omega

theorem daysBeforeYear_succ {y : Nat} (h : 1 ≤ y) :
    daysBeforeYear (y + 1) = daysBeforeYear y + yearLength y := by
  obtain ⟨k, rfl⟩ := Nat.exists_eq_add_of_le' h
  have hlength := yearLength_add (k + 1)
  have hle : k / 100 ≤ k / 4 := Nat.div_le_div_left (by decide) (by decide)
  unfold daysBeforeYear
  simp only [Nat.add_sub_cancel, Nat.succ_div]
  -- The quotients are as good as variables now, and `omega` is slow with their remainders.
  generalize k / 4 = a, k / 100 = b, k / 400 = c at *
  split_ifs at * <;> omega

/-- On the whole, years are as long as the mean year of 146097 / 400 days, up to two days. -/
theorem daysBeforeYear_bounds (k : Nat) :
    146097 * k ≤ 400 * daysBeforeYear (k + 1) + 699 ∧
      400 * daysBeforeYear (k + 1) ≤ 146097 * k + 396 := by
  unfold daysBeforeYear
  dsimp only
  omega

section

variable {y n : Nat}

/-- The guess from the mean length of a year is the year itself or the one before it. -/
theorem guess_eq_or (hy : 1 ≤ y) (hlow : daysBeforeYear y ≤ n) (hhigh : n < daysBeforeYear (y + 1)) :
    400 * n / 146097 + 1 = y ∨ 400 * n / 146097 + 2 = y := by
  obtain ⟨k, rfl⟩ := Nat.exists_eq_add_of_le' hy
  obtain ⟨hlower, -⟩ := daysBeforeYear_bounds k
  obtain ⟨-, hupper⟩ := daysBeforeYear_bounds (k + 1)
  omega

theorem Date.yearOf_eq (hy : 1 ≤ y) (hlow : daysBeforeYear y ≤ n)
    (hhigh : n < daysBeforeYear (y + 1)) : yearOf n = y := by
  unfold yearOf
  dsimp only
  rcases guess_eq_or hy hlow hhigh with h | h
  · rw [h, if_neg (Nat.not_lt.mpr hlow), if_pos hhigh]
  · have hguess : daysBeforeYear (400 * n / 146097 + 1) ≤ daysBeforeYear y := by
      rw [← h, daysBeforeYear_succ (Nat.le_add_left 1 _)]
      exact Nat.le_add_right _ _
    rw [if_neg (Nat.not_lt.mpr (hguess.trans hlow)), h, if_neg (Nat.not_lt.mpr hlow)]

end

/-! ## Months -/

theorem le_monthLength (y m : Nat) : 28 ≤ monthLength y m := by
  unfold monthLength
  split
  · split <;> decide
  all_goals decide

theorem daysBeforeMonth_succ {m : Nat} (y : Nat) (h : 1 ≤ m) :
    daysBeforeMonth y (m + 1) = daysBeforeMonth y m + monthLength y m := by
  obtain ⟨k, rfl⟩ := Nat.exists_eq_add_of_le' h
  rfl

theorem daysBeforeMonth_mono (y : Nat) : Monotone (daysBeforeMonth y) := by
  refine monotone_nat_of_le_succ fun m => ?_
  cases m with
  | zero => exact Nat.le_refl 0
  | succ m =>
      rw [daysBeforeMonth_succ y (Nat.le_add_left 1 m)]
      exact Nat.le_add_right _ _

/-- Twelve months make a year. -/
theorem daysBeforeMonth_thirteen (y : Nat) : daysBeforeMonth y 13 = yearLength y := by
  simp only [daysBeforeMonth, monthLength, yearLength]
  split <;> rfl

/-- The days before a month are those of the months before it. -/
theorem daysBeforeMonth_eq_sum (y m : Nat) :
    daysBeforeMonth y (m + 1) = ((List.range' 1 m).map (monthLength y)).sum := by
  induction m with
  | zero => rfl
  | succ m ih =>
      rw [daysBeforeMonth_succ y (Nat.le_add_left 1 m), ih, List.range'_1_concat, List.map_append,
        List.sum_append, Nat.add_comm 1 m]
      rfl

namespace Date

/-- Whole months are passed over. -/
theorem monthDay_append {y m d : Nat} {later : List Nat} (h : d < monthLength y m)
    (before : List Nat) :
    monthDay y ((before.map (monthLength y)).sum + d) (before ++ m :: later) = (m, d + 1) := by
  induction before with
  | nil =>
      rw [List.map_nil, List.sum_nil, Nat.zero_add, List.nil_append, monthDay, if_pos h]
  | cons k before ih =>
      rw [List.map_cons, List.sum_cons, List.cons_append, Nat.add_assoc, monthDay,
        if_neg (by omega), Nat.add_sub_cancel_left, ih]

theorem monthDay_dayOfYear (date : Date) :
    monthDay date.year (daysBeforeMonth date.year date.month + (date.day - 1))
      [1, 2, 3, 4, 5, 6, 7, 8, 9, 10, 11, 12] = (date.month, date.day) := by
  obtain ⟨-, ⟨hfirst, hlast⟩, hday, hlength⟩ := date.valid
  obtain ⟨k, hk⟩ := Nat.exists_eq_add_of_le hfirst
  obtain ⟨j, hj⟩ := Nat.exists_eq_add_of_le hlast
  have hmonths : [1, 2, 3, 4, 5, 6, 7, 8, 9, 10, 11, 12]
      = List.range' 1 k ++ date.month :: List.range' (date.month + 1) j := by
    rw [← List.range'_succ, hk, List.range'_append_1, show k + (j + 1) = 12 by omega]
    rfl
  have hbefore : daysBeforeMonth date.year date.month
      = ((List.range' 1 k).map (monthLength date.year)).sum := by
    rw [hk, Nat.add_comm 1 k, daysBeforeMonth_eq_sum]
  rw [hmonths, hbefore, monthDay_append (by omega), Nat.sub_add_cancel hday]

/-- A date lies within its year. -/
theorem dayOfYear_lt (date : Date) :
    daysBeforeMonth date.year date.month + (date.day - 1) < yearLength date.year := by
  obtain ⟨-, ⟨hfirst, hlast⟩, hday, hlength⟩ := date.valid
  have hnext := daysBeforeMonth_succ date.year hfirst
  have hyear : daysBeforeMonth date.year (date.month + 1) ≤ daysBeforeMonth date.year 13 :=
    daysBeforeMonth_mono date.year (by omega)
  rw [daysBeforeMonth_thirteen] at hyear
  omega

/-! ## Dates -/

/-- A date is found by its number. -/
theorem ofDayNumber?_dayNumber (date : Date) : ofDayNumber? date.dayNumber = some date := by
  obtain ⟨⟨hyear, -⟩, -⟩ := date.valid
  have hwithin := date.dayOfYear_lt
  set n := daysBeforeYear date.year + daysBeforeMonth date.year date.month + (date.day - 1) with hn
  have hnumber : date.dayNumber + epochDays = n := by
    rw [dayNumber]
    omega
  have hfound : yearOf n = date.year := by
    refine yearOf_eq hyear (by omega) ?_
    rw [daysBeforeYear_succ hyear]
    omega
  have hrest : n - daysBeforeYear date.year
      = daysBeforeMonth date.year date.month + (date.day - 1) := by omega
  unfold ofDayNumber?
  rw [hnumber]
  simp only [Int.toNat_natCast, hfound, hrest, monthDay_dayOfYear]
  rw [if_neg (by omega)]
  exact dif_pos date.valid

/-- Days are counted on within a month. -/
theorem ofDayNumber?_add {date : Date} {k : Nat}
    (h : date.day + k ≤ monthLength date.year date.month) :
    ∃ later, ofDayNumber? (date.dayNumber + k) = some later ∧ later.year = date.year ∧
      later.month = date.month ∧ later.day = date.day + k := by
  obtain ⟨hyear, hmonth, hday, -⟩ := date.valid
  let later : Date := ⟨date.year, date.month, date.day + k, hyear, hmonth, by omega, h⟩
  have hlater : date.dayNumber + k = later.dayNumber := by
    simp only [later, dayNumber]
    omega
  refine ⟨later, ?_, rfl, rfl, rfl⟩
  rw [hlater, ofDayNumber?_dayNumber]

/-- From the first of a month on, a weekday is met in the same month. -/
theorem onOrAfter?_first {date : Date} (h : date.day = 1) (weekday : Nat) :
    ∃ later, date.onOrAfter? weekday = some later ∧ later.year = date.year ∧
      later.month = date.month := by
  have hlength := le_monthLength date.year date.month
  have hnonneg : 0 ≤ (7 + weekday - date.weekday : Int) % 7 := Int.emod_nonneg _ (by decide)
  have hweek : (7 + weekday - date.weekday : Int) % 7 < 7 := Int.emod_lt_of_pos _ (by decide)
  obtain ⟨k, hk⟩ := Int.eq_ofNat_of_zero_le hnonneg
  have hwithin : date.day + k ≤ monthLength date.year date.month := by omega
  obtain ⟨later, hlater, hyear, hmonth, -⟩ := ofDayNumber?_add hwithin
  refine ⟨later, ?_, hyear, hmonth⟩
  rw [onOrAfter?, hk]
  exact hlater

end Date

end Winnow
