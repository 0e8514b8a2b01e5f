/-
# `Exact` — which integers are floating point numbers

An integer is a floating point number exactly if it has at most 53 bits before its trailing zeros,
and 1024 bits at most in all (`Binary64.value?_ofIntRatio_one_iff`).  Any other integer is rounded,
or is too large, when it becomes one.
-/
import Winnow.Proofs.Number.Shortest

namespace Winnow

/-- The integer is the product of an integer of 53 bits and a power of two, and has 1024 bits at
most. -/
def HasShortMantissa (i : Int) : Prop :=
  ∃ (a : Int) (k : Nat), i = a * 2 ^ k ∧ a.natAbs < 2 ^ 53 ∧ i.natAbs < 2 ^ 1024

theorem roundedExponent_le_of_lt {n d k : Nat} (hn : 0 < n) (hd : 0 < d)
    (h : (n : ℚ) / d < 2 ^ (53 + k : Int)) : roundedExponent n d ≤ k := by
  have hbinade := binade_lt_of_lt hn hd h
  unfold roundedExponent
  omega

namespace Binary64

/-- The mantissa at the exponent of a quotient is one of a finite number, if there is any and the
quotient is not too large. -/
theorem canonical_of_eq {n d m : Nat} (hn : 0 < n) (hd : 0 < d)
    (hsmall : (n : ℚ) / d < 2 ^ (1024 : Int)) (hm : (n : ℚ) / d = m * 2 ^ roundedExponent n d) :
    Canonical m (roundedExponent n d) := by
  have hpos : (0 : ℚ) < 2 ^ roundedExponent n d := by positivity
  obtain ⟨hlow, hhigh⟩ := binade_spec hn hd
  have hbinade := binade_lt_of_lt hn hd hsmall
  have hexponent : roundedExponent n d = max (-1074) (binade n d - 52) := rfl
  rw [hm] at hlow hhigh
  refine ⟨?_, by omega, by omega, ?_⟩
  · have hlt : (m : ℚ) * 2 ^ roundedExponent n d < (2 ^ 53 : Nat) * 2 ^ roundedExponent n d := by
      rw [two_pow_mul_zpow]
      exact hhigh.trans_le (zpow_le_zpow_right₀ one_le_two (by omega))
    exact_mod_cast lt_of_mul_lt_mul_right hlt hpos.le
  · by_cases hleast : roundedExponent n d = -1074
    · exact Or.inr hleast
    · have hle : ((2 ^ 52 : Nat) : ℚ) * 2 ^ roundedExponent n d ≤ m * 2 ^ roundedExponent n d := by
        rw [two_pow_mul_zpow]
        exact (zpow_le_zpow_right₀ one_le_two (by omega)).trans hlow
      exact Or.inl (by exact_mod_cast le_of_mul_le_mul_right hle hpos)

/-- A natural number of few bits becomes the number that it is. -/
theorem exists_ofRatio_eq {a k : Nat} (negative : Bool) (ha : 0 < a) (h53 : a < 2 ^ 53)
    (hsmall : a * 2 ^ k < 2 ^ 1024) : ∃ m e canonical,
      ofRatio negative (a * 2 ^ k) 1 = .finite negative m e canonical ∧
        (m : ℚ) * 2 ^ e = (a * 2 ^ k : Nat) := by
  have hn : 0 < a * 2 ^ k := Nat.mul_pos ha (Nat.two_pow_pos k)
  have hquotient : ((a * 2 ^ k : Nat) : ℚ) / (1 : Nat) = (a * 2 ^ k : Nat) := by
    rw [Nat.cast_one, div_one]
  have hexponent : roundedExponent (a * 2 ^ k) 1 ≤ k := by
    refine roundedExponent_le_of_lt hn Nat.one_pos ?_
    rw [hquotient]
    calc ((a * 2 ^ k : Nat) : ℚ) < (2 ^ 53 * 2 ^ k : Nat) := by
          exact_mod_cast Nat.mul_lt_mul_of_pos_right h53 (Nat.two_pow_pos k)
      _ = 2 ^ (53 + k : Int) := by
          rw [zpow_add₀ two_ne_zero]
          norm_num
  set e := roundedExponent (a * 2 ^ k) 1 with he
  set m := a * 2 ^ (k - e).toNat with hm
  have hvalue : (m : ℚ) * 2 ^ e = (a * 2 ^ k : Nat) := by
    have hsum : ((k - e).toNat : Int) + e = k := by omega
    rw [hm]
    push_cast
    rw [mul_assoc, ← zpow_natCast, ← zpow_add₀ two_ne_zero, hsum, zpow_natCast]
  have hcanonical : Canonical m e := by
    refine canonical_of_eq hn Nat.one_pos ?_ (hquotient.trans hvalue.symm)
    rw [hquotient]
    exact_mod_cast hsmall
  refine ⟨m, e, hcanonical, ?_, hvalue⟩
  refine ofRatio_of_roundsTo hcanonical (Nat.mul_pos ha (Nat.two_pow_pos _)) Nat.one_pos ?_
  rw [hquotient, ← hvalue]
  exact roundsTo_self m e

/-- An integer of few bits becomes the number that it is. -/
theorem value?_ofIntRatio_one {i : Int} (h : HasShortMantissa i) :
    (ofIntRatio i 1).value? = some (i : ℚ) := by
  obtain ⟨a, k, hi, h53, hsmall⟩ := h
  rcases eq_or_ne i 0 with rfl | hne
  · exact (value?_finite _).trans (by simp)
  have hsize : i.natAbs = a.natAbs * 2 ^ k := by
    rw [hi, Int.natAbs_mul, Int.natAbs_pow]
    rfl
  have ha : 0 < a.natAbs := by
    refine Nat.pos_of_ne_zero fun hzero => hne ?_
    rw [hi, Int.natAbs_eq_zero.mp hzero, Int.zero_mul]
  rw [hsize] at hsmall
  obtain ⟨m, e, canonical, heq, hvalue⟩ := exists_ofRatio_eq (decide (i < 0)) ha h53 hsmall
  rw [ofIntRatio, hsize, heq, value?_finite, hvalue, ← hsize]
  by_cases hneg : i < 0
  · rw [if_pos (by simpa using hneg), Nat.cast_natAbs, abs_of_neg hneg, Int.cast_neg, neg_neg]
  · rw [if_neg (by simpa using hneg), Nat.cast_natAbs, abs_of_nonneg (not_lt.mp hneg)]

theorem hasShortMantissa_of_value? {x : Binary64} {i : Int} (h : x.value? = some (i : ℚ)) :
    HasShortMantissa i := by
  cases x with
  | nan => cases h
  | infinite negative => cases h
  | finite negative m e canonical =>
      rw [value?_finite, Option.some.injEq] at h
      obtain ⟨hm, -, he, -⟩ := canonical
      have hsize : (i.natAbs : ℚ) = m * 2 ^ e := by
        have hnonneg : (0 : ℚ) ≤ m * 2 ^ e := by positivity
        rw [Nat.cast_natAbs, Int.cast_abs, ← h]
        cases negative with
        | false => exact abs_of_nonneg hnonneg
        | true => rw [if_pos rfl, abs_neg, abs_of_nonneg hnonneg]
      rcases Int.le_total 0 e with hnonneg | hneg
      · obtain ⟨k, rfl⟩ := Int.eq_ofNat_of_zero_le hnonneg
        have hproduct : i.natAbs = m * 2 ^ k := by exact_mod_cast hsize
        have hbits : i.natAbs < 2 ^ 1024 := by
          rw [hproduct]
          calc m * 2 ^ k < 2 ^ 53 * 2 ^ k := Nat.mul_lt_mul_of_pos_right hm (Nat.two_pow_pos k)
            _ = 2 ^ (53 + k) := (Nat.pow_add 2 53 k).symm
            _ ≤ 2 ^ 1024 := pow_le_pow_right₀ one_le_two (by omega)
        have hcast : ((m * 2 ^ k : Nat) : Int) = m * 2 ^ k := by push_cast; rfl
        rcases Int.natAbs_eq i with hi | hi
        · exact ⟨m, k, by rw [hi, hproduct, hcast], by rwa [Int.natAbs_natCast], hbits⟩
        · exact ⟨-m, k, by rw [hi, hproduct, hcast, Int.neg_mul],
            by rwa [Int.natAbs_neg, Int.natAbs_natCast], hbits⟩
      · have hle : i.natAbs ≤ m := by
          have hpower : (2 : ℚ) ^ e ≤ 1 := zpow_le_one_of_nonpos₀ one_le_two hneg
          have hcast : (i.natAbs : ℚ) ≤ m := by
            rw [hsize]
            exact mul_le_of_le_one_right m.cast_nonneg hpower
          exact_mod_cast hcast
        have hlt : i.natAbs < 2 ^ 53 := hle.trans_lt hm
        exact ⟨i, 0, by simp, hlt, hlt.trans (pow_lt_pow_right₀ one_lt_two (by decide))⟩

theorem value?_ofIntRatio_one_iff {i : Int} :
    (ofIntRatio i 1).value? = some (i : ℚ) ↔ HasShortMantissa i :=
  ⟨hasShortMantissa_of_value?, value?_ofIntRatio_one⟩

end Binary64

end Winnow
