/-
# `Ceiling` — rounding does not take a quotient over an integer

A quotient of natural numbers up to `2 ^ 53` is rounded before its ceiling is taken, and the ceiling
is the same as without rounding (`ceil_rounded`).  A quotient that is an integer is not rounded at
all.  One that is not has a distance of `1 / d` at least from the integer below it, which is more
than half the step between the numbers of its size, and so it is not rounded down that far; and the
integer above it is a number itself, so that it is not rounded up beyond that.
-/
import Winnow.Proofs.Number.Rounding

namespace Winnow

/-- At an exponent that is not positive a natural number has a mantissa. -/
theorem natCast_mul_zpow {e : Int} (h : e ≤ 0) (k : Nat) :
    ((k * 2 ^ (-e).toNat : Nat) : ℚ) * 2 ^ e = k := by
  rw [two_zpow_eq, Int.toNat_of_nonpos h]
  push_cast
  field_simp

section

variable {n d : Nat}

theorem roundedExponent_nonpos (hn : 0 < n) (hd : 0 < d) (h : n < 2 ^ 53 * d) :
    roundedExponent n d ≤ 0 := by
  have hquotient : (n : ℚ) / d < 2 ^ (53 : Int) := by
    rw [div_lt_iff₀ (Nat.cast_pos.mpr hd)]
    exact_mod_cast h
  have hbinade := binade_lt_of_lt hn hd hquotient
  unfold roundedExponent
  omega

/-- An integer of 53 bits is not rounded, and neither is the next one. -/
theorem rounded_of_dvd (hd : 0 < d) (hdvd : d ∣ n) (hle : n ≤ 2 ^ 53 * d) :
    rounded n d = n / d := by
  suffices h : ∃ m : Nat, (n : ℚ) / d = m * 2 ^ roundedExponent n d by
    obtain ⟨m, hm⟩ := h
    exact rounded_eq hd hm
  obtain ⟨a, rfl⟩ := hdvd
  have hquotient : ((d * a : Nat) : ℚ) / d = a := by
    rw [Nat.cast_mul]
    exact mul_div_cancel_left₀ _ (Nat.cast_ne_zero.mpr hd.ne')
  rw [hquotient]
  rcases Nat.eq_zero_or_pos a with rfl | ha
  · exact ⟨0, by simp⟩
  have hn : 0 < d * a := Nat.mul_pos hd ha
  rcases hle.lt_or_eq with hlt | heq
  · exact ⟨_, (natCast_mul_zpow (roundedExponent_nonpos hn hd hlt) a).symm⟩
  · obtain rfl : a = 2 ^ 53 := by
      rw [Nat.mul_comm] at heq
      exact Nat.eq_of_mul_eq_mul_right hd heq
    have hlow : 53 ≤ binade (d * 2 ^ 53) d := by
      refine le_binade_of_le hn hd ?_
      rw [hquotient]
      norm_num
    have hhigh : binade (d * 2 ^ 53) d < 54 := by
      refine binade_lt_of_lt hn hd ?_
      rw [hquotient]
      norm_num
    have hexponent : roundedExponent (d * 2 ^ 53) d = 1 := by
      unfold roundedExponent
      omega
    refine ⟨2 ^ 52, ?_⟩
    rw [hexponent]
    norm_num

/-- A quotient that is no integer is not on the edge of its binade. -/
theorem mul_two_zpow_binade_lt (hn : 0 < n) (hd : 0 < d) (hle : n ≤ 2 ^ 53) (hd53 : d ≤ 2 ^ 53)
    (hnot : ¬ d ∣ n) : (d : ℚ) * 2 ^ binade n d < 2 ^ (53 : Int) := by
  have hdpos : (0 : ℚ) < d := Nat.cast_pos.mpr hd
  have hlow := (binade_spec hn hd).1
  rcases lt_or_ge (binade n d) 0 with hneg | hnonneg
  · calc (d : ℚ) * 2 ^ binade n d < d * 1 := by
          gcongr
          exact zpow_lt_one_of_neg₀ one_lt_two hneg
      _ ≤ 2 ^ (53 : Int) := by
          rw [mul_one]
          exact_mod_cast hd53
  · obtain ⟨k, hk⟩ := Int.eq_ofNat_of_zero_le hnonneg
    rw [hk, le_div_iff₀ hdpos] at hlow
    have hmul : 2 ^ k * d ≤ n := by exact_mod_cast hlow
    have hne : 2 ^ k * d ≠ n := fun heq => hnot (heq ▸ Nat.dvd_mul_left d _)
    have hlt : d * 2 ^ k < 2 ^ 53 := by
      rw [Nat.mul_comm]
      exact (Nat.lt_of_le_of_ne hmul hne).trans_le hle
    rw [hk]
    exact_mod_cast hlt

/-- A quotient that is no integer is farther from the integer below it than half a unit in its last
place. -/
theorem two_zpow_roundedExponent_lt (hn : 0 < n) (hd : 0 < d) (hle : n ≤ 2 ^ 53)
    (hd53 : d ≤ 2 ^ 53) (hnot : ¬ d ∣ n) : (2 : ℚ) ^ roundedExponent n d < 2 / d := by
  have hdpos : (0 : ℚ) < d := Nat.cast_pos.mpr hd
  rw [lt_div_iff₀' hdpos]
  unfold roundedExponent
  rcases max_cases (-1074) (binade n d - 52) with ⟨hmax, -⟩ | ⟨hmax, -⟩
  · have hlarge : (d : ℚ) ≤ 2 ^ (53 : Int) := by exact_mod_cast hd53
    rw [hmax]
    calc (d : ℚ) * 2 ^ (-1074 : Int) ≤ 2 ^ (53 : Int) * 2 ^ (-1074 : Int) := by gcongr
      _ = 2 ^ (-1021 : Int) := by
          rw [← zpow_add₀ two_ne_zero]
          rfl
      _ < 2 ^ (1 : Int) := zpow_lt_zpow_right₀ one_lt_two (by decide)
      _ = 2 := zpow_one 2
  · rw [hmax, zpow_sub₀ two_ne_zero, ← mul_div_assoc, div_lt_iff₀ (by positivity)]
    calc (d : ℚ) * 2 ^ binade n d < 2 ^ (53 : Int) := mul_two_zpow_binade_lt hn hd hle hd53 hnot
      _ = 2 * 2 ^ (52 : Int) := by norm_num

/-- A quotient that is no integer lies between two, and `1 / d` at least above the lower one. -/
theorem div_bounds (hd : 0 < d) (hnot : ¬ d ∣ n) :
    ((n / d : Nat) : ℚ) + 1 / d ≤ n / d ∧ (n : ℚ) / d ≤ (n / d + 1 : Nat) := by
  have hdpos : (0 : ℚ) < d := Nat.cast_pos.mpr hd
  constructor
  · have hmul : n / d * d + 1 ≤ n := by
      refine Nat.lt_of_le_of_ne (Nat.div_mul_le_self n d) ?_
      intro heq
      exact hnot (heq ▸ Nat.dvd_mul_left d (n / d))
    rw [le_div_iff₀ hdpos, add_mul, one_div_mul_cancel hdpos.ne']
    exact_mod_cast hmul
  · rw [div_le_iff₀ hdpos]
    exact_mod_cast (Nat.lt_mul_of_div_lt (Nat.lt_succ_self _) hd).le

/-- It stays between them when it is rounded. -/
theorem rounded_bounds (hd : 0 < d) (hle : n ≤ 2 ^ 53) (hd53 : d ≤ 2 ^ 53) (hnot : ¬ d ∣ n) :
    ((n / d : Nat) : ℚ) < rounded n d ∧ rounded n d ≤ (n / d + 1 : Nat) := by
  obtain ⟨hlow, hhigh⟩ := div_bounds hd hnot
  have hn : 0 < n := by
    refine Nat.pos_of_ne_zero ?_
    rintro rfl
    exact hnot (Nat.dvd_zero d)
  have hexponent : roundedExponent n d ≤ 0 := by
    refine roundedExponent_nonpos hn hd (Nat.lt_of_le_of_ne ?_ ?_)
    · exact hle.trans (Nat.le_mul_of_pos_right _ hd)
    · exact fun heq => hnot (heq ▸ Nat.dvd_mul_left d _)
  constructor
  · obtain ⟨a, ha⟩ : ∃ a : Nat, (a : ℚ) * 2 ^ roundedExponent n d = (n / d : Nat) :=
      ⟨_, natCast_mul_zpow hexponent _⟩
    rw [← ha] at hlow ⊢
    refine lt_rounded hd ?_
    have hstep := two_zpow_roundedExponent_lt hn hd hle hd53 hnot
    calc ((2 * a + 1 : Nat) : ℚ) * 2 ^ roundedExponent n d
        = 2 * (a * 2 ^ roundedExponent n d) + 2 ^ roundedExponent n d := by
          push_cast
          ring
      _ < 2 * (a * 2 ^ roundedExponent n d) + 2 / d := by gcongr
      _ = 2 * (a * 2 ^ roundedExponent n d + 1 / d) := by ring
      _ ≤ 2 * (n / d) := by gcongr
  · rw [← natCast_mul_zpow hexponent (n / d + 1)] at hhigh ⊢
    exact rounded_le hd hhigh

/-- Rounding takes no quotient of moderate numbers over an integer. -/
theorem ceil_rounded (hd : 0 < d) (hle : n ≤ 2 ^ 53) (hd53 : d ≤ 2 ^ 53) :
    ⌈rounded n d⌉ = ⌈(n : ℚ) / d⌉ := by
  by_cases hdvd : d ∣ n
  · rw [rounded_of_dvd hd hdvd (hle.trans (Nat.le_mul_of_pos_right _ hd))]
  · have hceil : ∀ x : ℚ, ((n / d : Nat) : ℚ) < x → x ≤ (n / d + 1 : Nat) →
        ⌈x⌉ = (n / d : Nat) + 1 := by
      intro x hlow hhigh
      rw [Int.ceil_eq_iff]
      push_cast at hhigh ⊢
      exact ⟨by rwa [add_sub_cancel_right], hhigh⟩
    obtain ⟨hlow, hhigh⟩ := div_bounds hd hdvd
    obtain ⟨hlow', hhigh'⟩ := rounded_bounds hd hle hd53 hdvd
    have hbelow : ((n / d : Nat) : ℚ) < n / d :=
      (lt_add_of_pos_right _ (by positivity)).trans_le hlow
    rw [hceil _ hlow' hhigh', hceil _ hbelow hhigh]

end

end Winnow
