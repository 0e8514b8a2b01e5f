/-
# `Decimal` — a decimal becomes the number nearest to its value

What a decimal is rounded to depends on its value only, not on how it is split into a coefficient
and a power of ten (`Binary64.ofDecimal_eq_ofRatio`).  Most decimals are turned into a quotient and
rounded.  The powers of ten are not computed for a decimal whose digits show that it is far too large
or too small, and there the number is infinite or zero as it would be anyway.
-/
import Winnow.Proofs.Number.Shortest

namespace Winnow

namespace Binary64

variable {negative : Bool} {n d n' d' : Nat}

/-! ## Quotients -/

theorem ofRatio_zero (negative : Bool) (d : Nat) : ofRatio negative 0 d = zero negative :=
  if_pos rfl

theorem binade_congr (hn : 0 < n) (hd : 0 < d) (hn' : 0 < n') (hd' : 0 < d')
    (h : (n : ℚ) / d = n' / d') : binade n d = binade n' d' :=
  le_antisymm (binade_mono hn hd hn' hd' h.le) (binade_mono hn' hd' hn hd h.ge)

/-- The number nearest to a quotient depends on the quotient only. -/
theorem ofRatio_congr (hd : 0 < d) (hd' : 0 < d') (h : (n : ℚ) / d = n' / d') :
    ofRatio negative n d = ofRatio negative n' d' := by
  have hiff : n = 0 ↔ n' = 0 := by
    have hquotient := congrArg (· = 0) h
    simpa [hd.ne', hd'.ne'] using hquotient
  rcases Nat.eq_zero_or_pos n with rfl | hn
  · rw [hiff.mp rfl, ofRatio_zero, ofRatio_zero]
  · have hn' : 0 < n' := Nat.pos_of_ne_zero (mt hiff.mpr hn.ne')
    have hexponent : roundedExponent n d = roundedExponent n' d' := by
      rw [roundedExponent, roundedExponent, binade_congr hn hd hn' hd' h]
    have hmantissa : roundedMantissa n d = roundedMantissa n' d' := by
      refine (isNearest_roundedMantissa hd).unique ?_
      rw [h, hexponent]
      exact isNearest_roundedMantissa hd'
    rw [ofRatio_eq_ofParts hn.ne', ofRatio_eq_ofParts hn'.ne', hexponent, hmantissa]

/-- Beyond the greatest binade a quotient becomes infinite. -/
theorem ofRatio_of_le (hd : 0 < d) (h : (2 : ℚ) ^ (1024 : Int) ≤ n / d) :
    ofRatio negative n d = .infinite negative := by
  have hn : 0 < n := by
    refine Nat.pos_of_ne_zero ?_
    rintro rfl
    rw [Nat.cast_zero, zero_div] at h
    exact absurd h (by positivity : (0 : ℚ) < 2 ^ (1024 : Int)).not_ge
  have hbinade := le_binade_of_le hn hd h
  rw [ofRatio_eq_ofParts hn.ne']
  refine ofParts_of_large ?_
  unfold roundedExponent
  omega

/-- Below half of the least number a quotient becomes zero. -/
theorem ofRatio_of_lt (hd : 0 < d) (h : (n : ℚ) / d < 2 ^ (-1075 : Int)) :
    ofRatio negative n d = zero negative := by
  rcases Nat.eq_zero_or_pos n with rfl | hn
  · exact ofRatio_zero negative d
  have hbinade := binade_lt_of_lt hn hd h
  have hexponent : roundedExponent n d = -1074 := by
    unfold roundedExponent
    omega
  have hmantissa : roundedMantissa n d = 0 := by
    refine (isNearest_roundedMantissa hd).unique ?_
    have hhalf : (n : ℚ) / d / 2 ^ (-1074 : Int) < 1 / 2 := by
      rw [div_lt_iff₀ (by positivity)]
      calc (n : ℚ) / d < 2 ^ (-1075 : Int) := h
        _ = 2 ^ (-1 : Int) * 2 ^ (-1074 : Int) := by
            rw [← zpow_add₀ two_ne_zero]
            rfl
        _ = 1 / 2 * 2 ^ (-1074 : Int) := by rw [zpow_neg_one, one_div]
    have hnonneg : (0 : ℚ) ≤ n / d / 2 ^ (-1074 : Int) := by positivity
    rw [hexponent, IsNearest, Nat.cast_zero, sub_zero, abs_of_nonneg hnonneg]
    exact ⟨hhalf.le, fun heq => absurd heq hhalf.ne⟩
  rw [ofRatio_eq_ofParts hn.ne', hexponent, hmantissa]
  exact ofParts_of_canonical _

/-! ## Decimals -/

/-- The digits of a natural number place it between two powers of ten. -/
theorem decimalDigits_bounds {c : Nat} (hc : 0 < c) :
    ∃ k, (decimalDigits c).length = k + 1 ∧ 10 ^ k ≤ c ∧ c < 10 ^ (k + 1) := by
  obtain ⟨k, hk⟩ := Nat.exists_eq_succ_of_ne_zero
    (List.length_pos_of_ne_nil (decimalDigits_ne_nil c)).ne'
  refine ⟨k, hk, ?_, (Nat.length_toDigits_le_iff (by decide) (Nat.succ_pos k)).mp hk.le⟩
  rcases Nat.eq_zero_or_pos k with rfl | hpos
  · exact hc
  · by_contra hlt
    have hle : (decimalDigits c).length ≤ k := length_decimalDigits_le hpos (not_le.mp hlt)
    omega

theorem decimal_bounds {c : Nat} (hc : 0 < c) (k : Int) :
    (10 : ℚ) ^ ((decimalDigits c).length + k - 1) ≤ c * 10 ^ k ∧
      (c : ℚ) * 10 ^ k < 10 ^ ((decimalDigits c).length + k) := by
  obtain ⟨j, hj, hlow, hhigh⟩ := decimalDigits_bounds hc
  have hten : (10 : ℚ) ≠ 0 := by norm_num
  have hexponent : ((j + 1 : Nat) : Int) + k - 1 = j + k := by
    push_cast
    ring
  rw [hj, hexponent, zpow_add₀ hten, zpow_add₀ hten, zpow_natCast, zpow_natCast]
  constructor
  · gcongr
    exact_mod_cast hlow
  · gcongr
    exact_mod_cast hhigh

/-- The power of ten goes to the numerator or to the denominator. -/
theorem decimal_eq_div (c : Nat) (k : Int) : (c : ℚ) * 10 ^ k
    = (c * Nat.pow 10 k.toNat : Nat) / (Nat.pow 10 (-k).toNat : Nat) := by
  rw [zpow_eq_div (by norm_num : (10 : ℚ) ≠ 0), ← mul_div_assoc]
  simp only [Nat.pow_eq, Nat.cast_mul, Nat.cast_pow, Nat.cast_ofNat]

/-- A decimal becomes the number nearest to its value, also if that is seen from its size. -/
theorem ofDecimal_eq_ofRatio {c : Nat} {k : Int} (hd : 0 < d) (h : (c : ℚ) * 10 ^ k = n / d) :
    ofDecimal negative c k = ofRatio negative n d := by
  have hten : 0 < Nat.pow 10 (-k).toNat := Nat.pow_pos (by decide)
  rw [← ofRatio_congr hten hd ((decimal_eq_div c k).symm.trans h)]
  rcases Nat.eq_zero_or_pos c with rfl | hc
  · rw [Nat.zero_mul, ofRatio_zero]
    rfl
  obtain ⟨hlow, hhigh⟩ := decimal_bounds hc k
  rw [decimal_eq_div] at hlow hhigh
  have hbase : (1 : ℚ) ≤ 10 := by norm_num
  unfold ofDecimal
  dsimp only
  split
  · next hsmall =>
    simp only [Bool.or_eq_true, decide_eq_true_eq, hc.ne', false_or] at hsmall
    refine (ofRatio_of_lt hten (hhigh.trans_le ?_)).symm
    have hpowers : (2 : ℚ) ^ 1075 ≤ 10 ^ 330 := by
      exact_mod_cast (by decide +kernel : 2 ^ 1075 ≤ 10 ^ 330)
    calc (10 : ℚ) ^ (((decimalDigits c).length : Int) + k) ≤ 10 ^ (-330 : Int) :=
          zpow_le_zpow_right₀ hbase (by omega)
      _ ≤ 2 ^ (-1075 : Int) := by
          rw [zpow_neg, zpow_neg]
          exact inv_anti₀ (by positivity) hpowers
  · split
    · next hlarge =>
      refine (ofRatio_of_le hten (le_trans ?_ hlow)).symm
      calc (2 : ℚ) ^ (1024 : Int) ≤ 10 ^ (309 : Int) := by
            exact_mod_cast (by decide +kernel : 2 ^ 1024 ≤ 10 ^ 309)
        _ ≤ 10 ^ (((decimalDigits c).length : Int) + k - 1) :=
            zpow_le_zpow_right₀ hbase (by omega)
    · rfl

/-- A decimal that rounds to a number becomes that number. -/
theorem ofDecimal_of_roundsTo {m c : Nat} {e k : Int} (canonical : Canonical m e) (hm : 0 < m)
    (h : RoundsTo m e (c * 10 ^ k)) : ofDecimal negative c k = .finite negative m e canonical := by
  have hten : 0 < Nat.pow 10 (-k).toNat := Nat.pow_pos (by decide)
  rw [ofDecimal_eq_ofRatio hten (decimal_eq_div c k)]
  rw [decimal_eq_div] at h
  exact ofRatio_of_roundsTo canonical hm hten h

end Binary64

end Winnow
