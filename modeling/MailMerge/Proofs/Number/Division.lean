/-
# Division of words

Words are divided with a rounding towards zero, and the quotient and the remainder are
corrected afterwards.  Neither correction wraps: a quotient is corrected only where a rest is
left, and then it is at most half as large as the dividend; a rest is corrected by a divisor
of the other sign.  So the words are the floor quotient, if that fits, and the floor
remainder (`Number.floorQuotient?_eq`, `Number.toInt_floorRemainder`).
-/

import MailMerge.Number.Word
import Mathlib.Algebra.Order.Ring.Int

namespace MailMerge
namespace Number

/-! ### Rounding towards zero and rounding down -/

section

variable {x y : Int}

/-- A rest has the sign of the dividend. -/
theorem tmod_neg_iff (hrest : x.tmod y ≠ 0) : x.tmod y < 0 ↔ x < 0 := by
  constructor
  · intro h
    by_contra hx
    have := Int.tmod_nonneg y (Int.not_lt.1 hx)
    omega
  · intro hx
    have := Int.tmod_nonneg y (Int.le_of_lt (Int.neg_pos.2 hx))
    rw [Int.neg_tmod] at this
    omega

/-- Where a rest is left, the quotient is at most half as large as the dividend. -/
theorem natAbs_tdiv_le (hy : y ≠ 0) (hrest : x.tmod y ≠ 0) :
    (x.tdiv y).natAbs ≤ x.natAbs / 2 := by
  have hone : y ≠ 1 := by
    rintro rfl
    exact hrest (Int.tmod_one x)
  have hminus : y ≠ -1 := by
    rintro rfl
    rw [Int.tmod_neg] at hrest
    exact hrest (Int.tmod_one x)
  rw [Int.natAbs_tdiv]
  exact Nat.div_le_div_left (by omega) (by decide)

/-- The floor quotient is one less where a rest is cut off between different signs. -/
theorem fdiv_eq_ite (hy : y ≠ 0) : x.fdiv y =
    if x.tmod y ≠ 0 ∧ decide (x < 0) ≠ decide (y < 0) then x.tdiv y - 1 else x.tdiv y := by
  have hdvd : y ∣ x ↔ x.tmod y = 0 := Int.dvd_iff_tmod_eq_zero
  simp only [Int.fdiv_eq_tdiv, hdvd]
  rcases Int.lt_or_gt_of_ne hy with hneg | hpos
  · rw [Int.sign_eq_neg_one_of_neg hneg]
    split_ifs <;> simp_all <;> omega
  · rw [Int.sign_eq_one_of_pos hpos]
    split_ifs <;> simp_all <;> omega

/-- The floor remainder is corrected by the divisor where the rest has another sign. -/
theorem fmod_eq_ite (hy : y ≠ 0) : x.fmod y =
    if x.tmod y ≠ 0 ∧ decide (x.tmod y < 0) ≠ decide (y < 0) then x.tmod y + y
    else x.tmod y := by
  have hiff : (x.tmod y ≠ 0 ∧ decide (x.tmod y < 0) ≠ decide (y < 0)) ↔
      x.tmod y ≠ 0 ∧ decide (x < 0) ≠ decide (y < 0) :=
    and_congr_right fun hrest => by rw [decide_eq_decide.2 (tmod_neg_iff hrest)]
  rw [if_congr hiff rfl rfl, Int.fmod_def, fdiv_eq_ite hy]
  split_ifs
  · rw [Int.tmod_def, Int.mul_sub, Int.mul_one]
    omega
  · rw [Int.tmod_def]

end

/-! ### Words -/

variable {a b : Int64}

theorem toInt_bounds (a : Int64) : -2 ^ 63 ≤ a.toInt ∧ a.toInt < 2 ^ 63 := by
  have hmin := Int64.minValue_le_toInt a
  have hmax := Int64.toInt_le a
  have hbounds : Int64.minValue.toInt = -2 ^ 63 ∧ Int64.maxValue.toInt = 2 ^ 63 - 1 := by decide
  omega

theorem fits_iff {z : Int} : Fits z ↔ -2 ^ 63 ≤ z ∧ z < 2 ^ 63 := by
  have hbounds : Int64.minValue.toInt = -2 ^ 63 ∧ Int64.maxValue.toInt = 2 ^ 63 - 1 := by decide
  rw [Fits]
  omega

theorem fits_toInt (a : Int64) : Fits a.toInt := ⟨Int64.minValue_le_toInt a, Int64.toInt_le a⟩

theorem fit?_eq_none_iff {z : Int} : fit? z = none ↔ ¬Fits z := by
  unfold fit?
  split <;> simp_all

/-- A sum of words that fits is their sum as words. -/
theorem toInt_add_of_fits (h : Fits (a.toInt + b.toInt)) : (a + b).toInt = a.toInt + b.toInt := by
  rw [fits_iff] at h
  rw [Int64.toInt_add, Int.bmod_eq_of_le] <;> omega

theorem toInt_sub_of_fits (h : Fits (a.toInt - b.toInt)) : (a - b).toInt = a.toInt - b.toInt := by
  rw [fits_iff] at h
  rw [Int64.toInt_sub, Int.bmod_eq_of_le] <;> omega

theorem ne_zero_iff : a ≠ 0 ↔ a.toInt ≠ 0 := by
  rw [Ne, ← Int64.toInt_inj, Int64.toInt_zero]

theorem signsDiffer_iff : signsDiffer a b = true ↔ decide (a.toInt < 0) ≠ decide (b.toInt < 0) := by
  rw [signsDiffer, bne_iff_ne]
  simp only [Int64.lt_iff_toInt_lt, Int64.toInt_zero]

/-- Whether a quotient is corrected. -/
theorem corrected_iff : (a % b ≠ 0 ∧ signsDiffer a b = true) ↔ a.toInt.tmod b.toInt ≠ 0 ∧
    decide (a.toInt < 0) ≠ decide (b.toInt < 0) := by
  rw [ne_zero_iff, Int64.toInt_mod, signsDiffer_iff]

/-- **A quotient that is corrected is above the least word.** -/
theorem toInt_sub_one (hb : b ≠ 0) {q : Int64} (hq : q.toInt = a.toInt.tdiv b.toInt)
    (hrest : a % b ≠ 0) : (q - 1).toInt = q.toInt - 1 := by
  rw [ne_zero_iff] at hb hrest
  rw [Int64.toInt_mod] at hrest
  refine toInt_sub_of_fits (fits_iff.2 ?_)
  rw [Int64.toInt_one]
  have hhalf := natAbs_tdiv_le hb hrest
  have ha := toInt_bounds a
  omega

/-- **A rest that is corrected stays between zero and the divisor.** -/
theorem toInt_add_divisor {rest : Int64} (hsigns : signsDiffer rest b = true) :
    (rest + b).toInt = rest.toInt + b.toInt := by
  rw [signsDiffer_iff, Ne, decide_eq_decide] at hsigns
  refine toInt_add_of_fits (fits_iff.2 ?_)
  have hr := toInt_bounds rest
  have hb := toInt_bounds b
  omega

/-- **The quotient of words is the floor quotient,** if that fits. -/
theorem floorQuotient?_eq (hb : b ≠ 0) :
    floorQuotient? a b = fit? (a.toInt.fdiv b.toInt) := by
  have hy : b.toInt ≠ 0 := ne_zero_iff.1 hb
  rw [floorQuotient?, fdiv_eq_ite hy]
  cases hq : fit? (a.toInt.tdiv b.toInt) with
  | some q =>
    rw [fit?_eq_some_iff] at hq
    simp only [corrected_iff]
    symm
    rw [fit?_eq_some_iff]
    split_ifs with hcorrected
    · rw [toInt_sub_one hb hq (corrected_iff.2 hcorrected).1, hq]
    · exact hq
  | none =>
    -- a quotient that is too large leaves no rest
    have hnone := fit?_eq_none_iff.1 hq
    have hrest : a.toInt.tmod b.toInt = 0 := by
      by_contra hrest
      have hhalf := natAbs_tdiv_le hy hrest
      have ha := toInt_bounds a
      exact hnone (fits_iff.2 (by omega))
    rw [if_neg (by simp [hrest]), hq]

/-- **The remainder of words is the floor remainder.** -/
theorem toInt_floorRemainder (hb : b ≠ 0) :
    (floorRemainder a b).toInt = a.toInt.fmod b.toInt := by
  rw [floorRemainder, fmod_eq_ite (ne_zero_iff.1 hb), ← Int64.toInt_mod]
  simp only [ne_zero_iff, signsDiffer_iff]
  split_ifs with hcorrected
  · exact toInt_add_divisor (signsDiffer_iff.2 hcorrected.2)
  · rfl

end Number
end MailMerge
