/-
# `Order` — the exact order of numbers is that of their points

Two numbers are compared over the smaller of their exponents, in integers.  Here each number gets
its point on the line of the rational numbers with both infinities, and the comparison is shown to
be the order of the points (`Number.compare?_eq`).  So whatever has the same point compares alike,
be it an integer or a floating point number.
-/
import Winnow.Number.Basic
import Winnow.Proofs.Number.Rounding

namespace Winnow

/-- The rational numbers between two infinities. -/
abbrev ExtendedRational := WithBot (WithTop ℚ)

/-- The infinities apart, the order is that of the rational numbers. -/
theorem ExtendedRational.cmp_coe (p q : ℚ) :
    cmp ((p : WithTop ℚ) : ExtendedRational) ((q : WithTop ℚ) : ExtendedRational) = cmp p q :=
  (WithBot.coe_strictMono.comp WithTop.coe_strictMono).cmp_map_eq p q

namespace Position

/-- The point of the extended line at a place. -/
def point : Position → ExtendedRational
  | .below => ⊥
  | .finite n e => (((n : ℚ) * 2 ^ e : ℚ) : WithTop ℚ)
  | .above => (⊤ : WithTop ℚ)

/-- An integer moved to a smaller exponent. -/
theorem cast_mul_pow_mul_zpow {e k : Int} (h : k ≤ e) (a : Int) :
    ((a * Nat.pow 2 (e - k).toNat : Int) : ℚ) * 2 ^ k = a * 2 ^ e := by
  have hexponent : ((e - k).toNat : Int) + k = e := by omega
  rw [Nat.pow_eq]
  push_cast
  rw [mul_assoc, ← zpow_natCast, ← zpow_add₀ two_ne_zero, hexponent]

theorem compare_finite (a e b f : Int) : (finite a e).compare (finite b f)
    = cmp ((a : ℚ) * 2 ^ e) ((b : ℚ) * 2 ^ f) := by
  have hscale : StrictMono fun x : Int => (x : ℚ) * 2 ^ min e f := by
    intro x y hxy
    have hpos : (0 : ℚ) < 2 ^ min e f := by positivity
    exact mul_lt_mul_of_pos_right (Int.cast_lt.mpr hxy) hpos
  rw [← cast_mul_pow_mul_zpow (min_le_left e f) a, ← cast_mul_pow_mul_zpow (min_le_right e f) b,
    hscale.cmp_map_eq, cmp_eq_compare]
  rfl

/-- Places are in the order of their points. -/
theorem compare_eq (p q : Position) : p.compare q = cmp p.point q.point := by
  have hbelow (x : WithTop ℚ) : (⊥ : ExtendedRational) < x := WithBot.bot_lt_coe x
  have habove (x : ℚ) : ((x : WithTop ℚ) : ExtendedRational) < (⊤ : WithTop ℚ) :=
    WithBot.coe_lt_coe.mpr (WithTop.coe_lt_top x)
  cases p with
  | below =>
      cases q with
      | below => exact (cmp_self_eq_eq _).symm
      | finite b f => exact (hbelow _).cmp_eq_lt.symm
      | above => exact (hbelow _).cmp_eq_lt.symm
  | finite a e =>
      cases q with
      | below => exact (hbelow _).cmp_eq_gt.symm
      | finite b f => rw [compare_finite, point, point, ExtendedRational.cmp_coe]
      | above => exact (habove _).cmp_eq_lt.symm
  | above =>
      cases q with
      | below => exact (hbelow _).cmp_eq_gt.symm
      | finite b f => exact (habove _).cmp_eq_gt.symm
      | above => exact (cmp_self_eq_eq _).symm

end Position

namespace Number

/-- The point of a number; NaN has none. -/
def point? (n : Number) : Option ExtendedRational := n.position?.map Position.point

theorem point?_integer (i : Int) :
    (integer i).point? = some (((i : ℚ) : WithTop ℚ) : ExtendedRational) := by
  simp [point?, position?, Position.point]

/-- A finite number has its value for its point. -/
theorem point?_real {x : Binary64} {v : ℚ} (h : x.value? = some v) :
    (real x).point? = some ((v : WithTop ℚ) : ExtendedRational) := by
  cases x with
  | nan => cases h
  | infinite negative => cases h
  | finite negative m e canonical =>
      rw [Binary64.value?_finite, Option.some.injEq] at h
      subst h
      cases negative <;> simp [point?, position?, Binary64.position?, Position.point]

/-- Only finite numbers are at rational points. -/
theorem point?_real_iff {x : Binary64} {v : ℚ} :
    (real x).point? = some ((v : WithTop ℚ) : ExtendedRational) ↔ x.value? = some v := by
  refine ⟨fun h => ?_, point?_real⟩
  cases x with
  | nan => cases h
  | infinite negative =>
      cases negative with
      | true => exact absurd (Option.some.inj h) WithBot.bot_ne_coe
      | false => exact absurd (WithBot.coe_inj.mp (Option.some.inj h)) WithTop.top_ne_coe
  | finite negative m e canonical =>
      rw [point?_real (Binary64.value?_finite canonical)] at h
      rw [Binary64.value?_finite, WithTop.coe_inj.mp (WithBot.coe_inj.mp (Option.some.inj h))]

/-- Numbers are in the order of their points. -/
theorem compare?_eq (a b : Number) :
    a.compare? b = a.point?.bind fun p => b.point?.map fun q => cmp p q := by
  rw [compare?, point?, point?]
  cases a.position? with
  | none => rfl
  | some p =>
      cases b.position? with
      | none => rfl
      | some q => exact congrArg some (Position.compare_eq p q)

theorem compare?_of_points {a b : Number} {p q : ExtendedRational} (ha : a.point? = some p)
    (hb : b.point? = some q) : a.compare? b = some (cmp p q) := by
  rw [compare?_eq, ha, hb]
  rfl

theorem compare?_eq_some_eq_iff {a b : Number} {q : ExtendedRational} (hb : b.point? = some q) :
    a.compare? b = some .eq ↔ a.point? = some q := by
  rw [compare?_eq, hb]
  cases a.point? with
  | none => exact iff_of_false nofun nofun
  | some p => simp

end Number

end Winnow
