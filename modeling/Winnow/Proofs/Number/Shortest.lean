/-
# `Shortest` — the decimal of a floating point number rounds to it

Around each positive number lies the interval of the rational numbers that round to it.  It goes
half a unit in the last place to either side, except that below a power of two the units are half as
large; its ends belong to it if the mantissa is even (`RoundsTo`).  The search for a short decimal
tests candidates against this interval (`roundsTo_iff`), so whatever it comes up with lies in it
(`roundsTo_shortest`), and rounding takes every quotient in the interval back to the number
(`ofRatio_of_roundsTo`).
-/
import Winnow.Proofs.Number.Digits
import Winnow.Proofs.Number.Nearest

namespace Winnow

/-! ## Decimals as rational numbers -/

/-- The value of a decimal. -/
def Decimal.value (d : Decimal) : ℚ := d.coefficient * 10 ^ d.exponent

namespace Binary64

theorem compareDecimal_eq (c : Nat) (k : Int) (n : Nat) (e : Int) :
    compareDecimal c k n e = cmp ((c : ℚ) * 10 ^ k) (n * 2 ^ e) := by
  have hscale : StrictMono fun x : ℚ => x * (10 ^ (-k).toNat * 2 ^ (-e).toNat) := fun x y hxy =>
    mul_lt_mul_of_pos_right hxy (by positivity)
  have hdecimal : ((c : ℚ) * 10 ^ k) * (10 ^ (-k).toNat * 2 ^ (-e).toNat)
      = (c * Nat.pow 10 k.toNat * Nat.pow 2 (-e).toNat : Nat) := by
    rw [zpow_eq_div (by norm_num : (10 : ℚ) ≠ 0)]
    simp only [Nat.pow_eq]
    push_cast
    field_simp
  have hbinary : ((n : ℚ) * 2 ^ e) * (10 ^ (-k).toNat * 2 ^ (-e).toNat)
      = (n * Nat.pow 2 e.toNat * Nat.pow 10 (-k).toNat : Nat) := by
    rw [zpow_eq_div two_ne_zero]
    simp only [Nat.pow_eq]
    push_cast
    field_simp
  rw [← hscale.cmp_map_eq, hdecimal, hbinary, compareDecimal,
    (Nat.strictMono_cast (α := ℚ)).cmp_map_eq, cmp_eq_compare]

/-! ## What rounds to a number -/

/-- The part of a unit in the last place down to where numbers round to the next lower one. -/
def marginBelow (m : Nat) (e : Int) : ℚ := if m = Nat.pow 2 52 ∧ e ≠ -1074 then 1 / 4 else 1 / 2

/-- A rational number rounds to the magnitude `m * 2 ^ e`. -/
def RoundsTo (m : Nat) (e : Int) (v : ℚ) : Prop :=
  ((m - marginBelow m e) * 2 ^ e < v ∨ v = (m - marginBelow m e) * 2 ^ e ∧ m % 2 = 0) ∧
    (v < (m + 1 / 2) * 2 ^ e ∨ v = (m + 1 / 2) * 2 ^ e ∧ m % 2 = 0)

theorem marginBelow_pos (m : Nat) (e : Int) : 0 < marginBelow m e := by
  unfold marginBelow
  split <;> norm_num

theorem marginBelow_le (m : Nat) (e : Int) : marginBelow m e ≤ 1 / 2 := by
  unfold marginBelow
  split <;> norm_num

section

variable {m : Nat} {e : Int} {v : ℚ}

/-- The interval in quarters of a unit. -/
theorem roundsTo_iff (hm : 0 < m) {c : Nat} {k : Int} :
    roundsTo m e c k = true ↔ RoundsTo m e (c * 10 ^ k) := by
  have hquarter : (2 : ℚ) ^ (e - 2) = 2 ^ e / 4 := by
    rw [zpow_sub₀ two_ne_zero]
    norm_num
  have hlow : ((if m = Nat.pow 2 52 ∧ e ≠ -1074 then 4 * m - 1 else 4 * m - 2 : Nat) : ℚ)
      * 2 ^ (e - 2) = (m - marginBelow m e) * 2 ^ e := by
    rw [hquarter, marginBelow]
    split
    · rw [Nat.cast_sub (by omega)]
      push_cast
      ring
    · rw [Nat.cast_sub (by omega)]
      push_cast
      ring
  have hhigh : ((4 * m + 2 : Nat) : ℚ) * 2 ^ (e - 2) = (m + 1 / 2) * 2 ^ e := by
    rw [hquarter]
    push_cast
    ring
  unfold roundsTo RoundsTo
  simp only [compareDecimal_eq, hlow, hhigh, Bool.and_eq_true, Bool.or_eq_true,
    decide_eq_true_eq, cmp_eq_gt_iff, cmp_eq_lt_iff, cmp_eq_eq_iff]

theorem RoundsTo.le (h : RoundsTo m e v) : (m - marginBelow m e) * 2 ^ e ≤ v := by
  rcases h.1 with h | h
  · exact h.le
  · exact h.1.ge

theorem RoundsTo.ge (h : RoundsTo m e v) : v ≤ (m + 1 / 2) * 2 ^ e := by
  rcases h.2 with h | h
  · exact h.le
  · exact h.1.le

theorem roundsTo_self (m : Nat) (e : Int) : RoundsTo m e (m * 2 ^ e) := by
  have hpos : (0 : ℚ) < 2 ^ e := by positivity
  have hmargin := marginBelow_pos m e
  exact ⟨Or.inl (by gcongr; linarith), Or.inl (by gcongr; linarith)⟩

/-! ## The search -/

theorem nearestEven_eq_or (n d : Nat) : nearestEven n d = n / d ∨ nearestEven n d = n / d + 1 := by
  unfold nearestEven
  dsimp only
  split
  · exact Or.inl rfl
  · split
    · exact Or.inr rfl
    · split
      · exact Or.inl rfl
      · exact Or.inr rfl

theorem roundsTo_of_neighbour? (hm : 0 < m) {k : Int} {d : Decimal}
    (h : neighbour? m e k = some d) : RoundsTo m e d.value := by
  refine (roundsTo_iff hm).mp ?_
  unfold neighbour? at h
  dsimp only at h
  split at h
  · next hlow hhigh =>
    cases h
    rcases nearestEven_eq_or (m * Nat.pow 2 e.toNat * Nat.pow 10 (-k).toNat)
      (Nat.pow 2 (-e).toNat * Nat.pow 10 k.toNat) with heq | heq <;> rw [heq]
    · exact hlow
    · exact hhigh
  · next hlow _ =>
    cases h
    exact hlow
  · next _ hhigh =>
    cases h
    exact hhigh
  · cases h

theorem value_exactDecimal (m : Nat) (e : Int) : (exactDecimal m e).value = m * 2 ^ e := by
  have hten : (10 : ℚ) ^ min e 0 = 1 / (2 ^ (-e).toNat * 5 ^ (-e).toNat) := by
    have hexponent : min e 0 = -((-e).toNat : Int) := by omega
    rw [← mul_pow, hexponent, zpow_neg, zpow_natCast, one_div]
    norm_num
  rw [Decimal.value, exactDecimal, hten, zpow_eq_div two_ne_zero]
  simp only [Nat.pow_eq]
  push_cast
  field_simp

/-- The decimal that is written for a number rounds to it. -/
theorem roundsTo_shortest (hm : 0 < m) (e : Int) : RoundsTo m e (shortest m e).value := by
  unfold shortest
  dsimp only
  cases hfound : (List.range 17).findSome? fun (p : Nat) => neighbour? m e (decade m e - p) with
  | some d =>
      obtain ⟨p, -, hp⟩ := List.exists_of_findSome?_eq_some hfound
      exact roundsTo_of_neighbour? hm hp
  | none =>
      rw [Option.getD_none, value_exactDecimal]
      exact roundsTo_self m e

/-! ## Rounding back -/

/-- The interval in units of the last place. -/
theorem roundsTo_iff_div : RoundsTo m e v ↔
    (m - marginBelow m e < v / 2 ^ e ∨ v / 2 ^ e = m - marginBelow m e ∧ m % 2 = 0) ∧
      (v / 2 ^ e < m + 1 / 2 ∨ v / 2 ^ e = m + 1 / 2 ∧ m % 2 = 0) := by
  have hpos : (0 : ℚ) < 2 ^ e := by positivity
  rw [RoundsTo, lt_div_iff₀ hpos, div_lt_iff₀ hpos, div_eq_iff hpos.ne', div_eq_iff hpos.ne']

/-- At the exponent of the number the nearest natural number is its mantissa. -/
theorem isNearest_of_roundsTo (h : RoundsTo m e v) : IsNearest (v / 2 ^ e) m := by
  have hmargin := marginBelow_le m e
  obtain ⟨hlow, hhigh⟩ := roundsTo_iff_div.mp h
  constructor
  · rw [abs_le]
    rcases hlow with hlow | ⟨hlow, -⟩ <;> rcases hhigh with hhigh | ⟨hhigh, -⟩ <;>
      constructor <;> linarith
  · intro htie
    rcases eq_or_eq_neg_of_abs_eq htie with htie | htie
    · rcases hhigh with hlt | ⟨-, heven⟩
      · linarith
      · exact heven
    · rcases hlow with hlt | ⟨-, heven⟩
      · linarith
      · exact heven

section

variable (canonical : Canonical m e) (h : RoundsTo m e v)
include canonical h

theorem lt_of_roundsTo : v < 2 ^ (53 + e) := by
  have hm : (m : ℚ) + 1 ≤ 2 ^ 53 := by exact_mod_cast canonical.1
  calc v ≤ (m + 1 / 2) * 2 ^ e := h.ge
    _ < 2 ^ 53 * 2 ^ e := by
        gcongr
        linarith
    _ = 2 ^ (53 + e) := by
        rw [zpow_add₀ two_ne_zero]
        norm_num

/-- Only a power of two has numbers below itself that are closer than those above it. -/
theorem mantissa_of_lt (hlt : v < 2 ^ (52 + e)) (he : e ≠ -1074) : m = Nat.pow 2 52 := by
  have hleast : Nat.pow 2 52 ≤ m := canonical.2.2.2.resolve_right he
  refine le_antisymm (Nat.le_of_lt_succ ?_) hleast
  by_contra hnot
  have hm : (2 : ℚ) ^ 52 + 1 ≤ m := by exact_mod_cast not_lt.mp hnot
  have hmargin := marginBelow_le m e
  have hle : (2 : ℚ) ^ (52 + e) ≤ v :=
    calc (2 : ℚ) ^ (52 + e) = 2 ^ 52 * 2 ^ e := by
          rw [zpow_add₀ two_ne_zero]
          norm_num
      _ ≤ (m - marginBelow m e) * 2 ^ e := by
          gcongr
          linarith
      _ ≤ v := h.le
  exact absurd hlt hle.not_gt

end

/-- In the smaller units below a power of two, that power is the nearest natural number. -/
theorem isNearest_below {k : Int} (h : RoundsTo (Nat.pow 2 52) (k + 1) v) (hk : k + 1 ≠ -1074)
    (hlt : v < 2 ^ (52 + (k + 1))) : IsNearest (v / 2 ^ k) (Nat.pow 2 53) := by
  have hpos : (0 : ℚ) < 2 ^ k := by positivity
  have hmargin : marginBelow (Nat.pow 2 52) (k + 1) = 1 / 4 := if_pos ⟨rfl, hk⟩
  have hlow : (2 : ℚ) ^ 53 - 1 / 2 ≤ v / 2 ^ k := by
    rw [le_div_iff₀ hpos]
    calc ((2 : ℚ) ^ 53 - 1 / 2) * 2 ^ k
        = ((Nat.pow 2 52 : Nat) - marginBelow (Nat.pow 2 52) (k + 1)) * 2 ^ (k + 1) := by
          rw [hmargin, zpow_add_one₀ two_ne_zero]
          norm_num
          ring
      _ ≤ v := h.le
  have hhigh : v / 2 ^ k < 2 ^ 53 := by
    rw [div_lt_iff₀ hpos]
    calc v < 2 ^ (52 + (k + 1)) := hlt
      _ = 2 ^ 53 * 2 ^ k := by
          rw [← zpow_natCast, ← zpow_add₀ two_ne_zero]
          congr 1
          norm_num
          ring
  refine ⟨?_, fun _ => by decide⟩
  simp only [Nat.pow_eq, Nat.cast_pow, Nat.cast_ofNat]
  rw [abs_le]
  constructor <;> linarith

theorem pos_of_roundsTo (hm : 0 < m) (h : RoundsTo m e v) : 0 < v := by
  have hmargin := marginBelow_le m e
  have hone : (1 : ℚ) ≤ m := by exact_mod_cast hm
  have hunits : 0 < m - marginBelow m e := by linarith
  calc 0 < (m - marginBelow m e) * 2 ^ e := by positivity
    _ ≤ v := h.le

theorem le_of_roundsTo (hm : Nat.pow 2 52 ≤ m) (h : RoundsTo m e v) : 2 ^ (51 + e) ≤ v := by
  have hmargin := marginBelow_le m e
  have hle : (2 : ℚ) ^ 52 ≤ m := by exact_mod_cast hm
  calc (2 : ℚ) ^ (51 + e) = 2 ^ 51 * 2 ^ e := by
        rw [zpow_add₀ two_ne_zero]
        norm_num
    _ ≤ (m - marginBelow m e) * 2 ^ e := by
        gcongr
        linarith
    _ ≤ v := h.le

/-- Rounding takes a quotient in the interval back to the number. -/
theorem ofRatio_of_roundsTo {negative : Bool} {n d : Nat} (canonical : Canonical m e) (hm : 0 < m)
    (hd : 0 < d) (h : RoundsTo m e ((n : ℚ) / d)) :
    ofRatio negative n d = .finite negative m e canonical := by
  have hn : 0 < n := by
    refine Nat.pos_of_ne_zero ?_
    rintro rfl
    simpa using pos_of_roundsTo hm h
  have hleast : -1074 ≤ e := canonical.2.1
  have hbinade := binade_lt_of_lt hn hd (lt_of_roundsTo canonical h)
  rw [ofRatio_eq_ofParts hn.ne']
  by_cases hbelow : (n : ℚ) / d < 2 ^ (52 + e) ∧ e ≠ -1074
  · obtain ⟨hlt, he⟩ := hbelow
    obtain rfl := mantissa_of_lt canonical h hlt he
    obtain ⟨k, rfl⟩ : ∃ k, e = k + 1 := ⟨e - 1, by omega⟩
    have hlow := le_of_roundsTo le_rfl h
    have hexponent : roundedExponent n d = k := by
      have hge := le_binade_of_le hn hd hlow
      have hlt := binade_lt_of_lt hn hd hlt
      unfold roundedExponent
      omega
    have hmantissa : roundedMantissa n d = Nat.pow 2 53 := by
      refine (isNearest_roundedMantissa hd).unique ?_
      rw [hexponent]
      exact isNearest_below h he hlt
    rw [hmantissa, hexponent]
    exact ofParts_carry canonical
  · have hexponent : roundedExponent n d = e := by
      unfold roundedExponent
      rcases not_and_or.mp hbelow with hge | he
      · have hge := le_binade_of_le hn hd (not_lt.mp hge)
        omega
      · rw [not_not] at he
        omega
    have hmantissa : roundedMantissa n d = m := by
      refine (isNearest_roundedMantissa hd).unique ?_
      rw [hexponent]
      exact isNearest_of_roundsTo h
    rw [hmantissa, hexponent]
    exact ofParts_of_canonical canonical

end

end Binary64

end Winnow
