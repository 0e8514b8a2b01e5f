/-
# `Rounding` — quotients become finite numbers

A quotient of natural numbers is scaled by a power of two, so that 53 bits stand before the point,
and is then rounded to a natural number.  The power comes from the binade that holds the quotient
(`binade_spec`), and rounding does not leave an interval of natural numbers.  So the pair that comes
out is canonical, up to a mantissa that was rounded up to the next power of two, and unless the
quotient is too large the number is finite and its value is the rounded quotient
(`Binary64.value?_ofRatio`).
-/
import Mathlib
import Winnow.Number.Binary64

namespace Winnow

/-! ## Nearest natural numbers -/

theorem le_nearestEven {n d a : Nat} (hd : 0 < d) (h : a * d ≤ n) : a ≤ nearestEven n d := by
  have hq : a ≤ n / d := (Nat.le_div_iff_mul_le hd).mpr h
  unfold nearestEven
  dsimp only
  split
  · exact hq
  · split
    · exact Nat.le_succ_of_le hq
    · split
      · exact hq
      · exact Nat.le_succ_of_le hq

theorem nearestEven_le {n d b : Nat} (hd : 0 < d) (h : n ≤ b * d) : nearestEven n d ≤ b := by
  have hq : n / d ≤ b := Nat.div_le_of_le_mul (Nat.mul_comm b d ▸ h)
  have hdivision := Nat.div_add_mod n d
  -- Nothing is left over when the quotient is `b`, so it is not rounded up.
  have hleft : 0 < n % d → n / d + 1 ≤ b := by
    intro hpos
    refine Nat.lt_of_le_of_ne hq ?_
    intro heq
    rw [heq, Nat.mul_comm] at hdivision
    omega
  unfold nearestEven
  dsimp only
  split
  · exact hq
  · split
    · exact hleft (by omega)
    · split
      · exact hq
      · exact hleft (by omega)

/-- A quotient that is nearer to `a + 1` than to `a` is rounded up beyond `a`. -/
theorem lt_nearestEven {n d a : Nat} (hd : 0 < d) (h : (2 * a + 1) * d < 2 * n) :
    a < nearestEven n d := by
  rw [Nat.add_mul, Nat.mul_assoc, Nat.one_mul] at h
  have hle : a ≤ n / d := (Nat.le_div_iff_mul_le hd).mpr (by omega)
  rcases Nat.lt_or_eq_of_le hle with hlt | rfl
  · exact Nat.lt_of_lt_of_le hlt (le_nearestEven hd (Nat.div_mul_le_self n d))
  · have hup : d < 2 * (n % d) := by
      have hdivision := Nat.div_add_mod' n d
      omega
    unfold nearestEven
    dsimp only
    rw [if_neg (by omega), if_pos hup]
    exact Nat.lt_succ_self _

/-! ## Powers -/

/-- A power with its sign left to a denominator. -/
theorem zpow_eq_div {b : ℚ} (hb : b ≠ 0) (e : Int) : b ^ e = b ^ e.toNat / b ^ (-e).toNat := by
  rw [← zpow_natCast, ← zpow_natCast, ← zpow_sub₀ hb]
  congr 1
  omega

theorem two_zpow_eq (e : Int) : (2 : ℚ) ^ e = 2 ^ e.toNat / 2 ^ (-e).toNat :=
  zpow_eq_div two_ne_zero e

/-- The quotient with its point moved by `e` places. -/
theorem scaled_div (n d : Nat) (e : Int) :
    ((n * Nat.pow 2 (-e).toNat : Nat) : ℚ) / (d * Nat.pow 2 e.toNat : Nat) = n / d / 2 ^ e := by
  rw [two_zpow_eq]
  simp only [Nat.pow_eq, Nat.cast_mul, Nat.cast_pow, Nat.cast_ofNat]
  rw [div_div_eq_mul_div, div_mul_eq_mul_div, div_div]

theorem cast_log2_bounds {n : Nat} (hn : 0 < n) :
    (2 : ℚ) ^ (n.log2 : Int) ≤ n ∧ (n : ℚ) < 2 ^ ((n.log2 : Int) + 1) := by
  constructor
  · exact_mod_cast Nat.log2_self_le hn.ne'
  · exact_mod_cast Nat.lt_log2_self

/-- A quotient lies in its binade. -/
theorem binade_spec {n d : Nat} (hn : 0 < n) (hd : 0 < d) :
    (2 : ℚ) ^ binade n d ≤ n / d ∧ (n : ℚ) / d < 2 ^ (binade n d + 1) := by
  obtain ⟨hn1, hn2⟩ := cast_log2_bounds hn
  obtain ⟨hd1, hd2⟩ := cast_log2_bounds hd
  have hdpos : (0 : ℚ) < d := Nat.cast_pos.mpr hd
  set k : Int := (n.log2 : Int) - d.log2 with hk
  have hlow : (2 : ℚ) ^ (k - 1) ≤ n / d := by
    rw [le_div_iff₀ hdpos]
    calc (2 : ℚ) ^ (k - 1) * d ≤ 2 ^ (k - 1) * 2 ^ ((d.log2 : Int) + 1) := by gcongr
      _ = 2 ^ (n.log2 : Int) := by
          rw [← zpow_add₀ two_ne_zero]
          congr 1
          omega
      _ ≤ n := hn1
  have hhigh : (n : ℚ) / d < 2 ^ (k + 1) := by
    rw [div_lt_iff₀ hdpos]
    calc (n : ℚ) < 2 ^ ((n.log2 : Int) + 1) := hn2
      _ = 2 ^ (k + 1) * 2 ^ (d.log2 : Int) := by
          rw [← zpow_add₀ two_ne_zero]
          congr 1
          omega
      _ ≤ 2 ^ (k + 1) * d := by gcongr
  have hcompare : n * Nat.pow 2 (-k).toNat < d * Nat.pow 2 k.toNat ↔ (n : ℚ) / d < 2 ^ k := by
    have hden : (0 : ℚ) < (d * Nat.pow 2 k.toNat : Nat) :=
      Nat.cast_pos.mpr (Nat.mul_pos hd (Nat.pow_pos Nat.two_pos))
    rw [← Nat.cast_lt (α := ℚ), ← div_lt_one hden, scaled_div, div_lt_one (by positivity)]
  unfold binade
  dsimp only
  rw [← hk]
  split
  · next h => exact ⟨hlow, by rw [Int.sub_add_cancel]; exact hcompare.mp h⟩
  · next h => exact ⟨not_lt.mp fun hlt => h (hcompare.mpr hlt), hhigh⟩

section

variable {n d : Nat} {k : Int}

theorem binade_lt_of_lt (hn : 0 < n) (hd : 0 < d) (h : (n : ℚ) / d < 2 ^ k) :
    binade n d < k :=
  (zpow_lt_zpow_iff_right₀ one_lt_two).mp ((binade_spec hn hd).1.trans_lt h)

theorem le_binade_of_le (hn : 0 < n) (hd : 0 < d) (h : (2 : ℚ) ^ k ≤ n / d) :
    k ≤ binade n d :=
  Int.lt_add_one_iff.mp
    ((zpow_lt_zpow_iff_right₀ one_lt_two).mp (h.trans_lt (binade_spec hn hd).2))

end

/-! ## Mantissas -/

theorem le_nearestEven_scaled {n d a : Nat} {e : Int} (hd : 0 < d)
    (h : (a : ℚ) * 2 ^ e ≤ n / d) :
    a ≤ nearestEven (n * Nat.pow 2 (-e).toNat) (d * Nat.pow 2 e.toNat) := by
  have hpos : 0 < d * Nat.pow 2 e.toNat := Nat.mul_pos hd (Nat.pow_pos Nat.two_pos)
  refine le_nearestEven hpos ?_
  have hscaled : (a : ℚ) ≤ n / d / 2 ^ e := (le_div_iff₀ (by positivity)).mpr h
  rw [← scaled_div, le_div_iff₀ (Nat.cast_pos.mpr hpos)] at hscaled
  exact_mod_cast hscaled

theorem nearestEven_scaled_le {n d b : Nat} {e : Int} (hd : 0 < d)
    (h : (n : ℚ) / d ≤ b * 2 ^ e) :
    nearestEven (n * Nat.pow 2 (-e).toNat) (d * Nat.pow 2 e.toNat) ≤ b := by
  have hpos : 0 < d * Nat.pow 2 e.toNat := Nat.mul_pos hd (Nat.pow_pos Nat.two_pos)
  refine nearestEven_le hpos ?_
  have hscaled : (n : ℚ) / d / 2 ^ e ≤ b := (div_le_iff₀ (by positivity)).mpr h
  rw [← scaled_div, div_le_iff₀ (Nat.cast_pos.mpr hpos)] at hscaled
  exact_mod_cast hscaled

theorem lt_nearestEven_scaled {n d a : Nat} {e : Int} (hd : 0 < d)
    (h : ((2 * a + 1 : Nat) : ℚ) * 2 ^ e < 2 * (n / d)) :
    a < nearestEven (n * Nat.pow 2 (-e).toNat) (d * Nat.pow 2 e.toNat) := by
  have hpos : 0 < d * Nat.pow 2 e.toNat := Nat.mul_pos hd (Nat.pow_pos Nat.two_pos)
  refine lt_nearestEven hpos ?_
  have hscaled : ((2 * a + 1 : Nat) : ℚ) < 2 * (n / d / 2 ^ e) := by
    rw [← mul_div_assoc]
    exact (lt_div_iff₀ (by positivity)).mpr h
  rw [← scaled_div, ← mul_div_assoc, lt_div_iff₀ (Nat.cast_pos.mpr hpos)] at hscaled
  exact_mod_cast hscaled

/-- With the exponent of its binade a quotient has a mantissa of 53 bits, or rounds up to the next
power of two. -/
theorem mantissa_bounds {n d : Nat} (hn : 0 < n) (hd : 0 < d) {e : Int}
    (he : e = max (-1074) (binade n d - 52)) :
    nearestEven (n * Nat.pow 2 (-e).toNat) (d * Nat.pow 2 e.toNat) ≤ 2 ^ 53 ∧
      (2 ^ 52 ≤ nearestEven (n * Nat.pow 2 (-e).toNat) (d * Nat.pow 2 e.toNat) ∨ e = -1074) := by
  obtain ⟨hlow, hhigh⟩ := binade_spec hn hd
  constructor
  · refine nearestEven_scaled_le hd (hhigh.le.trans ?_)
    calc (2 : ℚ) ^ (binade n d + 1) ≤ 2 ^ (53 + e) := zpow_le_zpow_right₀ one_le_two (by omega)
      _ = ((2 ^ 53 : Nat) : ℚ) * 2 ^ e := by
          rw [zpow_add₀ two_ne_zero]
          norm_num
  · by_cases hleast : e = -1074
    · exact Or.inr hleast
    · refine Or.inl (le_nearestEven_scaled hd (le_trans ?_ hlow))
      calc ((2 ^ 52 : Nat) : ℚ) * 2 ^ e = 2 ^ (52 + e) := by
            rw [zpow_add₀ two_ne_zero]
            norm_num
        _ ≤ 2 ^ binade n d := zpow_le_zpow_right₀ one_le_two (by omega)

/-! ## Rounded quotients -/

/-- The exponent at which a quotient is rounded. -/
def roundedExponent (n d : Nat) : Int := max (-1074) (binade n d - 52)

/-- The mantissa that a quotient is rounded to, before a carry. -/
def roundedMantissa (n d : Nat) : Nat :=
  nearestEven (n * Nat.pow 2 (-roundedExponent n d).toNat)
    (d * Nat.pow 2 (roundedExponent n d).toNat)

/-- The quotient, rounded as by a floating point number. -/
def rounded (n d : Nat) : ℚ := roundedMantissa n d * 2 ^ roundedExponent n d

section

variable {n d : Nat} (hd : 0 < d)
include hd

theorem le_rounded {a : Nat} (h : (a : ℚ) * 2 ^ roundedExponent n d ≤ n / d) :
    (a : ℚ) * 2 ^ roundedExponent n d ≤ rounded n d := by
  have hmantissa : a ≤ roundedMantissa n d := le_nearestEven_scaled hd h
  unfold rounded
  gcongr

theorem rounded_le {b : Nat} (h : (n : ℚ) / d ≤ b * 2 ^ roundedExponent n d) :
    rounded n d ≤ b * 2 ^ roundedExponent n d := by
  have hmantissa : roundedMantissa n d ≤ b := nearestEven_scaled_le hd h
  unfold rounded
  gcongr

theorem lt_rounded {a : Nat}
    (h : ((2 * a + 1 : Nat) : ℚ) * 2 ^ roundedExponent n d < 2 * (n / d)) :
    (a : ℚ) * 2 ^ roundedExponent n d < rounded n d := by
  have hmantissa : a < roundedMantissa n d := lt_nearestEven_scaled hd h
  unfold rounded
  gcongr

/-- A quotient is not rounded if it can be written with a natural number for its mantissa. -/
theorem rounded_eq {a : Nat} (h : (n : ℚ) / d = a * 2 ^ roundedExponent n d) :
    rounded n d = n / d := by
  rw [h]
  exact le_antisymm (rounded_le hd h.le) (le_rounded hd h.ge)

end

/-! ## Values -/

namespace Binary64

/-- The value of a finite number. -/
def value? (x : Binary64) : Option ℚ := x.ratio?.map fun (n, k) => (n : ℚ) / k

theorem value?_finite {negative : Bool} {m : Nat} {e : Int} (canonical : Canonical m e) :
    (finite negative m e canonical).value?
      = some (if negative then -((m : ℚ) * 2 ^ e) else m * 2 ^ e) := by
  have hvalue : (m : ℚ) * 2 ^ e = (m * Nat.pow 2 e.toNat : Nat) / (Nat.pow 2 (-e).toNat : Nat) := by
    rw [two_zpow_eq, ← mul_div_assoc]
    simp only [Nat.pow_eq, Nat.cast_mul, Nat.cast_pow, Nat.cast_ofNat]
  rw [hvalue, value?, ratio?, Option.map_some]
  cases negative with
  | false => simp only [Bool.false_eq_true, if_false, Int.cast_natCast]
  | true => simp only [if_true, Int.cast_neg, Int.cast_natCast, neg_div]

section

variable {negative : Bool} {m : Nat} {e : Int}

theorem ofParts_of_canonical (h : Canonical m e) :
    ofParts negative m e = .finite negative m e h := by
  have hcarry : m ≠ Nat.pow 2 53 := h.1.ne
  simp only [ofParts, if_neg hcarry, dif_pos h]

theorem ofParts_carry (h : Canonical (Nat.pow 2 52) (e + 1)) :
    ofParts negative (Nat.pow 2 53) e = .finite negative (Nat.pow 2 52) (e + 1) h := by
  simp only [ofParts, if_true, dif_pos h]

theorem ofParts_of_large (h : 971 < e) :
    ofParts negative m e = .infinite negative := by
  unfold ofParts
  dsimp only
  split
  · exact dif_neg fun hcanonical => absurd hcanonical.2.2.1 (by omega)
  · exact dif_neg fun hcanonical => absurd hcanonical.2.2.1 (by omega)

theorem value?_ofParts (hm : m ≤ 2 ^ 53) (he1 : -1074 ≤ e) (he2 : e ≤ 970)
    (hleast : 2 ^ 52 ≤ m ∨ e = -1074) : (ofParts negative m e).value?
      = some (if negative then -((m : ℚ) * 2 ^ e) else m * 2 ^ e) := by
  by_cases hcarry : m = Nat.pow 2 53
  · have hcanonical : Canonical (Nat.pow 2 52) (e + 1) :=
      ⟨by decide, by omega, by omega, Or.inl (le_refl _)⟩
    have hcarried : ((Nat.pow 2 52 : Nat) : ℚ) * 2 ^ (e + 1) = m * 2 ^ e := by
      rw [hcarry, zpow_add_one₀ two_ne_zero]
      simp only [Nat.pow_eq, Nat.cast_pow, Nat.cast_ofNat]
      ring
    rw [← hcarried, hcarry, ofParts_carry hcanonical, value?_finite]
  · have hcanonical : Canonical m e :=
      ⟨Nat.lt_of_le_of_ne hm hcarry, he1, by omega, hleast⟩
    rw [ofParts_of_canonical hcanonical, value?_finite]

end

theorem ofRatio_eq_ofParts {negative : Bool} {n d : Nat} (hn : n ≠ 0) :
    ofRatio negative n d = ofParts negative (roundedMantissa n d) (roundedExponent n d) :=
  if_neg hn

/-- The value of the number nearest to a quotient is the rounded quotient. -/
theorem value?_ofRatio {negative : Bool} {n d : Nat} (hd : 0 < d) (h : n < 2 ^ 1022 * d) :
    (ofRatio negative n d).value? = some (if negative then -rounded n d else rounded n d) := by
  by_cases hn : n = 0
  · have hzero : (n : ℚ) / d = (0 : Nat) * 2 ^ roundedExponent n d := by simp [hn]
    rw [ofRatio, if_pos hn, zero, value?_finite, rounded_eq hd hzero, hzero]
    simp only [Nat.cast_zero, zero_mul]
  · have hpos : 0 < n := Nat.pos_of_ne_zero hn
    obtain ⟨hm, hleast⟩ := mantissa_bounds hpos hd rfl
    have hbinade : binade n d < 1022 := by
      refine binade_lt_of_lt hpos hd ?_
      rw [div_lt_iff₀ (Nat.cast_pos.mpr hd)]
      exact_mod_cast h
    rw [ofRatio_eq_ofParts hn]
    exact value?_ofParts hm (le_max_left _ _) (by unfold roundedExponent; omega) hleast

end Binary64

end Winnow
