/-
# `Nearest` — rounding keeps the order and moves little

The natural number that a quotient is rounded to is within a half of it, and even if it is a half
away (`isNearest_nearestEven`).  Of two quotients in order the numbers are in the same order, and so
are the floating point numbers, whose exponents grow with the quotient (`rounded_mono`).  On the
rational numbers with their signs this makes rounding a monotone function, `nearest`, which is off
by no more than half a unit in the last place.
-/
import Winnow.Proofs.Number.Rounding

namespace Winnow

/-! ## Natural numbers -/

/-- The natural number is nearest to a rational one; of two it is the even one. -/
def IsNearest (q : ℚ) (a : Nat) : Prop :=
  |q - a| ≤ 1 / 2 ∧ (|q - a| = 1 / 2 → a % 2 = 0)

theorem isNearest_nearestEven {n d : Nat} (hd : 0 < d) :
    IsNearest ((n : ℚ) / d) (nearestEven n d) := by
  have hdpos : (0 : ℚ) < d := Nat.cast_pos.mpr hd
  set q : Nat := n / d with hq
  set r : Nat := n % d with hr
  have hdivision : (n : ℚ) / d = q + (r : ℚ) / d := by
    rw [div_eq_iff hdpos.ne', add_mul, div_mul_cancel₀ _ hdpos.ne']
    exact_mod_cast (Nat.div_add_mod' n d).symm
  have hfraction : (r : ℚ) / d < 1 := by
    rw [div_lt_one hdpos]
    exact_mod_cast Nat.mod_lt n hd
  have hnonneg : (0 : ℚ) ≤ (r : ℚ) / d := by positivity
  have hbelow : 2 * r < d ↔ (r : ℚ) / d < 1 / 2 := by
    rw [div_lt_div_iff₀ hdpos two_pos, one_mul, mul_comm]
    exact_mod_cast Iff.rfl
  have habove : d < 2 * r ↔ 1 / 2 < (r : ℚ) / d := by
    rw [div_lt_div_iff₀ two_pos hdpos, one_mul, mul_comm (r : ℚ)]
    exact_mod_cast Iff.rfl
  unfold nearestEven IsNearest
  dsimp only
  rw [← hq, ← hr, hdivision]
  split
  · next h =>
    have h := hbelow.mp h
    rw [add_sub_cancel_left, abs_of_nonneg hnonneg]
    exact ⟨h.le, fun heq => absurd heq h.ne⟩
  · next hnot =>
    split
    · next h =>
      have h := habove.mp h
      have hoff : (q : ℚ) + (r : ℚ) / d - ((q + 1 : Nat) : ℚ) = -(1 - (r : ℚ) / d) := by
        push_cast
        ring
      rw [hoff, abs_neg, abs_of_pos (by linarith)]
      exact ⟨by linarith, fun heq => by linarith⟩
    · next hnot' =>
      have hhalf : (r : ℚ) / d = 1 / 2 :=
        le_antisymm (not_lt.mp (mt habove.mpr hnot')) (not_lt.mp (mt hbelow.mpr hnot))
      rw [hhalf]
      split
      · next heven =>
        rw [add_sub_cancel_left, abs_of_pos one_half_pos]
        exact ⟨le_rfl, fun _ => heven⟩
      · next hodd =>
        have hoff : (q : ℚ) + 1 / 2 - ((q + 1 : Nat) : ℚ) = -(1 / 2) := by
          push_cast
          ring
        rw [hoff, abs_neg, abs_of_pos one_half_pos]
        exact ⟨le_rfl, fun _ => by omega⟩

/-- Numbers in order have their nearest natural numbers in that order. -/
theorem IsNearest.le {q r : ℚ} {a b : Nat} (ha : IsNearest q a) (hb : IsNearest r b) (h : q ≤ r) :
    a ≤ b := by
  by_contra hlt
  have hstep : (b : ℚ) + 1 ≤ a := by exact_mod_cast not_le.mp hlt
  obtain ⟨ha1, -⟩ := abs_le.mp ha.1
  obtain ⟨-, hb2⟩ := abs_le.mp hb.1
  -- Both are half way between `b` and `a`, and so both `b` and `a` are even.
  have hqa : q - a = -(1 / 2) := by linarith
  have hrb : r - b = 1 / 2 := by linarith
  have hnext : (b : ℚ) + 1 = a := by linarith
  have haeven := ha.2 (by rw [hqa, abs_neg, abs_of_pos one_half_pos])
  have hbeven := hb.2 (by rw [hrb, abs_of_pos one_half_pos])
  have hnext' : b + 1 = a := by exact_mod_cast hnext
  omega

theorem IsNearest.unique {q : ℚ} {a b : Nat} (ha : IsNearest q a) (hb : IsNearest q b) : a = b :=
  le_antisymm (ha.le hb le_rfl) (hb.le ha le_rfl)

/-! ## Rounded quotients -/

section

variable {n d n' d' : Nat}

theorem isNearest_roundedMantissa (hd : 0 < d) :
    IsNearest ((n : ℚ) / d / 2 ^ roundedExponent n d) (roundedMantissa n d) := by
  rw [← scaled_div]
  exact isNearest_nearestEven (Nat.mul_pos hd (Nat.pow_pos Nat.two_pos))

/-- A quotient is moved by half a unit in its last place at most. -/
theorem abs_rounded_sub_le (hd : 0 < d) :
    |rounded n d - n / d| ≤ 2 ^ roundedExponent n d / 2 := by
  have hpos : (0 : ℚ) < 2 ^ roundedExponent n d := by positivity
  have hoff : rounded n d - n / d
      = -(((n : ℚ) / d / 2 ^ roundedExponent n d - roundedMantissa n d)
        * 2 ^ roundedExponent n d) := by
    rw [sub_mul, div_mul_cancel₀ _ hpos.ne', neg_sub, rounded]
  rw [hoff, abs_neg, abs_mul, abs_of_pos hpos]
  have hnearest := (isNearest_roundedMantissa (n := n) hd).1
  calc |(n : ℚ) / d / 2 ^ roundedExponent n d - roundedMantissa n d| * 2 ^ roundedExponent n d
      ≤ 1 / 2 * 2 ^ roundedExponent n d := by gcongr
    _ = 2 ^ roundedExponent n d / 2 := by ring

theorem two_pow_mul_zpow (k : Nat) (e : Int) : ((2 ^ k : Nat) : ℚ) * 2 ^ e = 2 ^ (k + e) := by
  rw [zpow_add₀ two_ne_zero, zpow_natCast, Nat.cast_pow, Nat.cast_ofNat]

theorem binade_mono (hn : 0 < n) (hd : 0 < d) (hn' : 0 < n') (hd' : 0 < d')
    (h : (n : ℚ) / d ≤ n' / d') : binade n d ≤ binade n' d' :=
  Int.lt_add_one_iff.mp (binade_lt_of_lt hn hd (h.trans_lt (binade_spec hn' hd').2))

theorem rounded_zero (hd : 0 < d) : rounded 0 d = 0 := by
  have hzero : ((0 : Nat) : ℚ) / d = (0 : Nat) * 2 ^ roundedExponent 0 d := by simp
  rw [rounded_eq hd hzero, hzero]
  simp

/-- Rounded quotients are in the order of the quotients. -/
theorem rounded_mono (hd : 0 < d) (hd' : 0 < d') (h : (n : ℚ) / d ≤ n' / d') :
    rounded n d ≤ rounded n' d' := by
  rcases Nat.eq_zero_or_pos n with rfl | hn
  · rw [rounded_zero hd, rounded]
    positivity
  have hquotient : (0 : ℚ) < n / d := by positivity
  have hn' : 0 < n' := by
    refine Nat.pos_of_ne_zero ?_
    rintro rfl
    rw [Nat.cast_zero, zero_div] at h
    exact absurd h hquotient.not_ge
  have hbinade := binade_mono hn hd hn' hd' h
  have hexponent : roundedExponent n d ≤ roundedExponent n' d' := by
    unfold roundedExponent
    omega
  rcases hexponent.lt_or_eq with hlt | heq
  · -- A power of two lies between the quotients, and neither is rounded beyond it.
    have hupper : (n : ℚ) / d ≤ (2 ^ 53 : Nat) * 2 ^ roundedExponent n d := by
      rw [two_pow_mul_zpow]
      refine (binade_spec hn hd).2.le.trans (zpow_le_zpow_right₀ one_le_two ?_)
      unfold roundedExponent
      omega
    have hlower : ((2 ^ 52 : Nat) : ℚ) * 2 ^ roundedExponent n' d' ≤ n' / d' := by
      rw [two_pow_mul_zpow]
      refine (zpow_le_zpow_right₀ one_le_two ?_).trans (binade_spec hn' hd').1
      unfold roundedExponent at hlt ⊢
      omega
    calc rounded n d ≤ (2 ^ 53 : Nat) * 2 ^ roundedExponent n d := rounded_le hd hupper
      _ ≤ (2 ^ 52 : Nat) * 2 ^ roundedExponent n' d' := by
          rw [two_pow_mul_zpow, two_pow_mul_zpow]
          exact zpow_le_zpow_right₀ one_le_two (by omega)
      _ ≤ rounded n' d' := le_rounded hd' hlower
  · have hle : roundedMantissa n d ≤ roundedMantissa n' d' := by
      refine (isNearest_roundedMantissa hd).le (isNearest_roundedMantissa hd') ?_
      rw [heq]
      gcongr
    rw [rounded, rounded, heq]
    gcongr

/-- Rounding only depends on the quotient. -/
theorem rounded_congr (hd : 0 < d) (hd' : 0 < d') (h : (n : ℚ) / d = n' / d') :
    rounded n d = rounded n' d' :=
  le_antisymm (rounded_mono hd hd' h.le) (rounded_mono hd' hd h.ge)

theorem roundedExponent_le {k : Int} (hn : 0 < n) (hd : 0 < d) (hk : -1021 ≤ k)
    (h : (n : ℚ) / d < 2 ^ k) : roundedExponent n d ≤ k - 53 := by
  have hbinade := binade_lt_of_lt hn hd h
  unfold roundedExponent
  omega

end

/-! ## Rational numbers -/

/-- The rational number, rounded as by a floating point number. -/
def nearest (q : ℚ) : ℚ :=
  if q < 0 then -rounded q.num.natAbs q.den else rounded q.num.natAbs q.den

theorem nearest_div {n d : Nat} (hd : 0 < d) : nearest ((n : ℚ) / d) = rounded n d := by
  have hnonneg : (0 : ℚ) ≤ n / d := by positivity
  rw [nearest, if_neg hnonneg.not_gt]
  refine rounded_congr (Rat.den_pos _) hd ?_
  rw [← Int.cast_natCast, Int.natAbs_of_nonneg (Rat.num_nonneg.mpr hnonneg), Rat.num_div_den]

theorem exists_eq_div {q : ℚ} (h : 0 ≤ q) : ∃ n d : Nat, 0 < d ∧ q = n / d := by
  refine ⟨q.num.natAbs, q.den, q.den_pos, ?_⟩
  rw [← Int.cast_natCast, Int.natAbs_of_nonneg (Rat.num_nonneg.mpr h), Rat.num_div_den]

theorem nearest_nonneg {q : ℚ} (h : 0 ≤ q) : 0 ≤ nearest q := by
  obtain ⟨n, d, hd, rfl⟩ := exists_eq_div h
  rw [nearest_div hd, rounded]
  positivity

theorem nearest_neg (q : ℚ) : nearest (-q) = -nearest q := by
  rcases lt_trichotomy q 0 with hq | rfl | hq
  · simp [nearest, hq, hq.le]
  · have hzero : nearest 0 = 0 := by
      have hdiv : (0 : ℚ) = (0 : Nat) / (1 : Nat) := by simp
      rw [hdiv, nearest_div Nat.one_pos, rounded_zero Nat.one_pos]
      exact hdiv
    rw [neg_zero, hzero, neg_zero]
  · simp [nearest, hq, hq.le]

theorem nearest_mono : Monotone nearest := by
  have hpos : ∀ q r : ℚ, 0 ≤ q → q ≤ r → nearest q ≤ nearest r := by
    intro q r hq hle
    obtain ⟨n, d, hd, rfl⟩ := exists_eq_div hq
    obtain ⟨n', d', hd', rfl⟩ := exists_eq_div (hq.trans hle)
    rw [nearest_div hd, nearest_div hd']
    exact rounded_mono hd hd' hle
  have hreflect : ∀ q : ℚ, nearest q = -nearest (-q) := by
    intro q
    rw [nearest_neg, neg_neg]
  intro q r hle
  rcases le_total 0 q with hq | hq
  · exact hpos q r hq hle
  · rw [hreflect q]
    have hq' : 0 ≤ nearest (-q) := nearest_nonneg (neg_nonneg.mpr hq)
    rcases le_total 0 r with hr | hr
    · exact (neg_nonpos.mpr hq').trans (nearest_nonneg hr)
    · rw [hreflect r]
      exact neg_le_neg (hpos (-r) (-q) (neg_nonneg.mpr hr) (neg_le_neg hle))

/-- A number below `2 ^ k` is moved by half a unit in the last place of `2 ^ (k - 1)` at most. -/
theorem abs_nearest_sub_le {q : ℚ} {k : Int} (hk : -1021 ≤ k) (h : |q| < 2 ^ k) :
    |nearest q - q| ≤ 2 ^ (k - 54) := by
  have hpos : ∀ r : ℚ, 0 ≤ r → r < 2 ^ k → |nearest r - r| ≤ 2 ^ (k - 54) := by
    intro r hr hlt
    obtain ⟨n, d, hd, rfl⟩ := exists_eq_div hr
    rw [nearest_div hd]
    rcases Nat.eq_zero_or_pos n with rfl | hn
    · rw [rounded_zero hd, Nat.cast_zero, zero_div, sub_zero, abs_zero]
      positivity
    · calc |rounded n d - n / d| ≤ 2 ^ roundedExponent n d / 2 := abs_rounded_sub_le hd
        _ ≤ 2 ^ (k - 53) / 2 := by
            gcongr
            · exact one_le_two
            · exact roundedExponent_le hn hd hk hlt
        _ = 2 ^ (k - 54) := by
            rw [div_eq_iff two_ne_zero, ← zpow_add_one₀ two_ne_zero]
            congr 1
            ring
  rcases le_total 0 q with hq | hq
  · exact hpos q hq (by rwa [abs_of_nonneg hq] at h)
  · have hneg := hpos (-q) (neg_nonneg.mpr hq) (by rwa [abs_of_nonpos hq] at h)
    rwa [nearest_neg, ← neg_sub', abs_neg] at hneg

/-! ## Values -/

namespace Binary64

/-- An integer quotient becomes the number nearest to it. -/
theorem value?_ofIntRatio {n : Int} {d : Nat} (hd : 0 < d) (h : n.natAbs < 2 ^ 1022 * d) :
    (ofIntRatio n d).value? = some (nearest ((n : ℚ) / d)) := by
  rw [ofIntRatio, value?_ofRatio hd h]
  by_cases hn : n < 0
  · have hsize : (n : ℚ) / d = -((n.natAbs : ℚ) / d) := by
      rw [Nat.cast_natAbs, abs_of_neg hn, Int.cast_neg, neg_div, neg_neg]
    rw [hsize, nearest_neg, nearest_div hd, if_pos (decide_eq_true hn)]
  · have hsize : (n : ℚ) / d = (n.natAbs : ℚ) / d := by
      rw [Nat.cast_natAbs, abs_of_nonneg (not_lt.mp hn)]
    rw [hsize, nearest_div hd, if_neg (by simpa using hn)]

/-- The product with a natural number becomes the number nearest to it. -/
theorem value?_scale {x : Binary64} {v : ℚ} {k : Nat} (hx : x.value? = some v)
    (h : |k * v| < (2 ^ 1022 : Nat)) : (x.scale k).value? = some (nearest (k * v)) := by
  cases x with
  | nan => cases hx
  | infinite negative => cases hx
  | finite negative m e canonical =>
      rw [value?_finite, Option.some.injEq] at hx
      have hd : 0 < Nat.pow 2 (-e).toNat := Nat.pow_pos Nat.two_pos
      have hproduct : ((k * m * Nat.pow 2 e.toNat : Nat) : ℚ) / (Nat.pow 2 (-e).toNat : Nat)
          = k * (m * 2 ^ e) := by
        rw [two_zpow_eq]
        simp only [Nat.pow_eq, Nat.cast_mul, Nat.cast_pow, Nat.cast_ofNat]
        ring
      have hsize : |(k : ℚ) * v| = k * (m * 2 ^ e) := by
        have hnonneg : (0 : ℚ) ≤ k * (m * 2 ^ e) :=
          mul_nonneg k.cast_nonneg (mul_nonneg m.cast_nonneg (zpow_nonneg zero_le_two e))
        subst hx
        cases negative with
        | false => exact abs_of_nonneg hnonneg
        | true => rw [if_pos rfl, mul_neg, abs_neg, abs_of_nonneg hnonneg]
      have hsmall : k * m * Nat.pow 2 e.toNat < 2 ^ 1022 * Nat.pow 2 (-e).toNat := by
        rw [hsize, ← hproduct, div_lt_iff₀ (Nat.cast_pos.mpr hd), ← Nat.cast_mul] at h
        exact Nat.cast_lt.mp h
      rw [scale, value?_ofRatio hd hsmall, ← nearest_div hd, hproduct, ← hx]
      cases negative with
      | false => rfl
      | true => rw [if_pos rfl, if_pos rfl, mul_neg, nearest_neg]

end Binary64

end Winnow
