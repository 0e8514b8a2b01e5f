/-
# `Count` — how many pages there are

The number of pages is the ceiling of a quotient that was rounded to a floating point number.  It is
missing only where that number is not finite, which takes more responses than can be told apart by
their place in a list; and up to `2 ^ 53` rounding makes no difference to it
(`page_count_is_least_although_rounded`).  One response more, and a page may be lost.
-/
import Winnow.Page.Count
import Winnow.Proofs.Number.Ceiling
import Winnow.Proofs.Number.Nearest

namespace Winnow

theorem Binary64.ceil?_eq (x : Binary64) : x.ceil? = x.value?.map Int.ceil := by
  rw [ceil?, value?, Option.map_map]
  congr 1
  funext p
  exact (Rat.ceil_intCast_div_natCast p.1 p.2).symm

/-- The ceiling of an integer quotient that is not too large. -/
theorem Binary64.ceil?_ofIntRatio {n : Int} {d : Nat} (hd : 0 < d)
    (h : n.natAbs < 2 ^ 1022 * d) : (ofIntRatio n d).ceil?
      = some ⌈if n < 0 then -rounded n.natAbs d else rounded n.natAbs d⌉ := by
  rw [ceil?_eq, ofIntRatio, value?_ofRatio hd h]
  simp only [decide_eq_true_eq, Option.map_some]

theorem pageCount_of_ceil? {total limit pages : Int} (hlimit : 0 < limit)
    (h : (Binary64.ofIntRatio total limit.toNat).ceil? = some pages) :
    pageCount total limit = .ok pages := by
  rw [pageCount, if_neg (Int.not_le.mpr hlimit), h]

/-- There is a number of pages if a page holds something and there are not too many responses. -/
theorem exists_pageCount {total limit : Int} (hlimit : 0 < limit)
    (htotal : total.natAbs < 2 ^ 1022) : ∃ pages, pageCount total limit = .ok pages := by
  have hpos : 0 < limit.toNat := Int.pos_iff_toNat_pos.mp hlimit
  have hsmall : total.natAbs < 2 ^ 1022 * limit.toNat :=
    Nat.lt_of_lt_of_le htotal (Nat.le_mul_of_pos_right _ hpos)
  exact ⟨_, pageCount_of_ceil? hlimit (Binary64.ceil?_ofIntRatio hpos hsmall)⟩

section

variable {total limit : Int}

/-- Up to `2 ^ 53` the number of pages is the ceiling of the quotient itself. -/
theorem pageCount_eq_ceil (htotal : 0 ≤ total) (htotal53 : total ≤ 2 ^ 53) (hlimit : 0 < limit)
    (hlimit53 : limit ≤ 2 ^ 53) : pageCount total limit = .ok ⌈(total : ℚ) / limit⌉ := by
  refine pageCount_of_ceil? hlimit ?_
  obtain ⟨n, rfl⟩ := Int.eq_ofNat_of_zero_le htotal
  obtain ⟨d, rfl⟩ := Int.eq_ofNat_of_zero_le hlimit.le
  have hn : n ≤ 2 ^ 53 := by exact_mod_cast htotal53
  have hd : 0 < d := by exact_mod_cast hlimit
  have hd53 : d ≤ 2 ^ 53 := by exact_mod_cast hlimit53
  have hsmall : (n : Int).natAbs < 2 ^ 1022 * d := by
    calc n ≤ 2 ^ 53 := hn
      _ < 2 ^ 1022 := pow_lt_pow_right₀ one_lt_two (by decide)
      _ ≤ 2 ^ 1022 * d := Nat.le_mul_of_pos_right _ hd
  rw [Int.toNat_natCast, Binary64.ceil?_ofIntRatio hd hsmall, Int.natAbs_natCast,
    if_neg htotal.not_gt, ceil_rounded hd hn hd53, Int.cast_natCast, Int.cast_natCast]

/-- The ceiling of a quotient is the least number of pages that hold everything. -/
theorem isLeast_ceil_div (hlimit : 0 < limit) :
    IsLeast {pages : Int | total ≤ pages * limit} ⌈(total : ℚ) / limit⌉ := by
  have hiff : ∀ pages : Int, ⌈(total : ℚ) / limit⌉ ≤ pages ↔ total ≤ pages * limit := by
    intro pages
    rw [Int.ceil_le, div_le_iff₀ (Int.cast_pos.mpr hlimit)]
    exact_mod_cast Iff.rfl
  exact ⟨(hiff _).mp le_rfl, fun pages hpages => (hiff pages).mpr hpages⟩

theorem exists_isLeast_pageCount (htotal : 0 ≤ total) (htotal53 : total ≤ 2 ^ 53)
    (hlimit : 0 < limit) (hlimit53 : limit ≤ 2 ^ 53) : ∃ pages, pageCount total limit = .ok pages ∧
      IsLeast {pages : Int | total ≤ pages * limit} pages :=
  ⟨_, pageCount_eq_ceil htotal htotal53 hlimit hlimit53, isLeast_ceil_div hlimit⟩

/-- The number of pages is the ceiling of the floating point number nearest to the quotient. -/
theorem pageCount_eq_ceil_nearest (htotal : total.natAbs < 2 ^ 1022) (hlimit : 0 < limit) :
    pageCount total limit = .ok ⌈nearest ((total : ℚ) / limit)⌉ := by
  refine pageCount_of_ceil? hlimit ?_
  obtain ⟨d, rfl⟩ := Int.eq_ofNat_of_zero_le hlimit.le
  have hd : 0 < d := Int.natCast_pos.mp hlimit
  have hsmall : total.natAbs < 2 ^ 1022 * d :=
    Nat.lt_of_lt_of_le htotal (Nat.le_mul_of_pos_right _ hd)
  rw [Int.toNat_natCast, Binary64.ceil?_eq, Binary64.value?_ofIntRatio hd hsmall,
    Option.map_some, Int.cast_natCast]

/-- The last page is not empty. -/
theorem isLeast_pred_mul_lt {pages : Int} (h : IsLeast {pages : Int | total ≤ pages * limit} pages) :
    (pages - 1) * limit < total := by
  refine lt_of_not_ge fun hle => ?_
  have hpages : pages ≤ pages - 1 := h.2 hle
  omega

/-- There is no page exactly if there is nothing to show. -/
theorem isLeast_eq_zero_iff {pages : Int} (htotal : 0 ≤ total) (hlimit : 0 < limit)
    (h : IsLeast {pages : Int | total ≤ pages * limit} pages) : pages = 0 ↔ total = 0 := by
  constructor
  · rintro rfl
    have hle : total ≤ 0 * limit := h.1
    omega
  · rintro rfl
    have hle : pages ≤ 0 := h.2 (by simp)
    have hnonneg : 0 ≤ pages * limit := h.1
    exact le_antisymm hle (nonneg_of_mul_nonneg_left hnonneg hlimit)

/-- The number of pages is found by way of a rounded quotient, and yet it is the least number of
pages that hold everything. -/
theorem page_count_is_least_although_rounded (htotal : 0 ≤ total) (htotal53 : total ≤ 2 ^ 53)
    (hlimit : 1 ≤ limit) (hlimit53 : limit ≤ 2 ^ 53) : ∃ pages, pageCount total limit = .ok pages ∧
      pages = ⌈nearest ((total : ℚ) / limit)⌉ ∧
      IsLeast {pages : Int | total ≤ pages * limit} pages ∧
      (pages - 1) * limit < total ∧ (pages = 0 ↔ total = 0) := by
  have hpos : 0 < limit := hlimit
  obtain ⟨pages, hpages, hleast⟩ := exists_isLeast_pageCount htotal htotal53 hpos hlimit53
  have hsmall : total.natAbs < 2 ^ 1022 := by
    have h : total.natAbs ≤ 2 ^ 53 := by omega
    exact h.trans_lt (pow_lt_pow_right₀ one_lt_two (by decide))
  have hceil := hpages.symm.trans (pageCount_eq_ceil_nearest hsmall hpos)
  exact ⟨pages, hpages, Except.ok.inj hceil, hleast, isLeast_pred_mul_lt hleast,
    isLeast_eq_zero_iff htotal hpos hleast⟩

end

/-- A quotient that is just above one, by little more than rounding can take away, has two pages. -/
theorem quotient_just_above_one_has_two_pages :
    let total : Int := 2 ^ 53
    let limit : Int := 2 ^ 53 - 1
    (0 ≤ total ∧ total ≤ 2 ^ 53 ∧ 1 ≤ limit ∧ limit ≤ 2 ^ 53) ∧ pageCount total limit = .ok 2 := by
  intro total limit
  have hrange : 0 ≤ total ∧ total ≤ 2 ^ 53 ∧ 1 ≤ limit ∧ limit ≤ 2 ^ 53 := by decide
  obtain ⟨htotal, htotal53, hlimit, hlimit53⟩ := hrange
  obtain ⟨pages, hpages, -, hleast, hlast, -⟩ :=
    page_count_is_least_although_rounded htotal htotal53 hlimit hlimit53
  have hcovered : total ≤ pages * limit := hleast.1
  obtain rfl : pages = 2 := by
    simp only [total, limit] at hcovered hlast
    omega
  exact ⟨⟨htotal, htotal53, hlimit, hlimit53⟩, hpages⟩

/-- One response more than the bound, and rounding takes the second page away. -/
example : pageCount (2 ^ 53 + 1) (2 ^ 53) = .ok 1 ∧ ¬ (2 ^ 53 + 1 : Int) ≤ 1 * 2 ^ 53 := by
  decide +kernel

end Winnow
