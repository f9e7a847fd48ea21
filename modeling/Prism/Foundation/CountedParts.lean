import Mathlib.Algebra.BigOperators.Ring.List
import Mathlib.Algebra.Order.BigOperators.Group.List
import Mathlib.Analysis.SpecialFunctions.Log.Base

/-! # Shares of a whole

The entropy of a whole that is divided into counted parts. It lies between
the information in the greatest part and the one of as many equal parts.
-/

namespace Prism.CountedParts

noncomputable def information (base share : ℝ) : ℝ := -(share * Real.logb base share)

noncomputable def entropy (base total : ℝ) (counts : List Nat) : ℝ :=
  (counts.map fun v : Nat => information base (v / total)).sum

theorem entropy_perm (base total : ℝ) {counts counts' : List Nat}
    (perm : counts.Perm counts') :
    entropy base total counts = entropy base total counts' :=
  (perm.map _).sum_eq

theorem sum_map_linear {counts : List Nat} {total : ℝ} (positive : 0 < total)
    (isTotal : (counts.sum : ℝ) = total) (slope offset : ℝ) :
    (counts.map fun v : Nat => (v : ℝ) / total * slope + offset).sum =
      slope + counts.length * offset := by
  have sums : (counts.map fun v : Nat => (v : ℝ) / total * slope + offset).sum =
      counts.sum / total * slope + counts.length * offset := by
    clear isTotal
    induction counts with
    | nil => simp
    | cons v counts induction =>
        rw [List.map_cons, List.sum_cons, induction, List.sum_cons, List.length_cons]
        push_cast
        ring
  rw [sums, isTotal, div_self positive.ne', one_mul]

variable {base : ℝ} (proper : 1 < base)
include proper

/-! ## A single share -/

theorem mul_neg_logb_le_information {share most : ℝ} (nonneg : 0 ≤ share)
    (atMost : share ≤ most) :
    share * -Real.logb base most ≤ information base share := by
  rcases nonneg.eq_or_lt with rfl | positive
  · simp [information]
  · have logLe := Real.logb_le_logb_of_le proper positive atMost
    rw [information, ← mul_neg]
    exact mul_le_mul_of_nonneg_left (neg_le_neg logLe) nonneg

/-- The tangent to the information at the share of one of `width` equal parts. -/
theorem information_le {share width : ℝ} (positive : 0 < share)
    (widthPositive : 0 < width) :
    information base share ≤ share * (Real.logb base width - 1 / Real.log base) +
      1 / width / Real.log base := by
  have logPositive := Real.log_pos proper
  have slope : Real.logb base width - 1 / Real.log base =
      (Real.log width - 1) / Real.log base := (sub_div _ _ _).symm
  have inversePositive := inv_pos.mpr (mul_pos widthPositive positive)
  have tangent := Real.log_le_sub_one_of_pos inversePositive
  rw [Real.log_inv, Real.log_mul widthPositive.ne' positive.ne'] at tangent
  have scaled := mul_le_mul_of_nonneg_left tangent positive.le
  have cancelled : share * (width * share)⁻¹ = 1 / width := by
    field_simp
  rw [mul_sub, cancelled] at scaled
  rw [information, slope, Real.logb, ← mul_div_assoc, ← mul_div_assoc, ← neg_div,
    ← add_div]
  apply div_le_div_of_nonneg_right _ logPositive.le
  linarith

/-! ## All shares -/

theorem neg_logb_le_entropy {counts : List Nat} {total most : ℝ}
    (positive : 0 < total) (isTotal : (counts.sum : ℝ) = total)
    (atMost : ∀ v ∈ counts, (v : ℝ) ≤ most) :
    -Real.logb base (most / total) ≤ entropy base total counts := by
  have each : ∀ v ∈ counts, (v : ℝ) / total * -Real.logb base (most / total) ≤
      information base (v / total) := by
    intro v member
    exact mul_neg_logb_le_information proper (div_nonneg v.cast_nonneg positive.le)
      (div_le_div_of_nonneg_right (atMost v member) positive.le)
  have summed := List.sum_le_sum each
  have whole := sum_map_linear positive isTotal (-Real.logb base (most / total)) 0
  simp only [add_zero, mul_zero] at whole
  exact whole.ge.trans summed

theorem entropy_le_logb_length {counts : List Nat} {total : ℝ}
    (positive : 0 < total) (isTotal : (counts.sum : ℝ) = total)
    (nonempty : counts ≠ []) (partsPositive : ∀ v ∈ counts, 0 < v) :
    entropy base total counts ≤ Real.logb base counts.length := by
  have widthPositive : 0 < (counts.length : ℝ) :=
    Nat.cast_pos.mpr (List.length_pos_iff.mpr nonempty)
  have each : ∀ v ∈ counts, information base (v / total) ≤
      (v : ℝ) / total * (Real.logb base counts.length - 1 / Real.log base) +
        1 / counts.length / Real.log base := by
    intro v member
    have partPositive : 0 < (v : ℝ) := Nat.cast_pos.mpr (partsPositive v member)
    exact information_le proper (div_pos partPositive positive) widthPositive
  calc
    entropy base total counts ≤ _ := List.sum_le_sum each
    _ = Real.logb base counts.length - 1 / Real.log base +
        counts.length * (1 / counts.length / Real.log base) :=
      sum_map_linear positive isTotal _ _
    _ = Real.logb base counts.length := by
      field_simp
      ring

omit proper in
theorem entropy_eq_zero {counts : List Nat} {total : ℝ} (positive : 0 < total)
    (isWhole : ∀ v ∈ counts, (v : ℝ) = total) : entropy base total counts = 0 := by
  apply List.sum_eq_zero
  simp only [List.mem_map]
  rintro _ ⟨v, member, rfl⟩
  rw [isWhole v member, div_self positive.ne', information, Real.logb_one, mul_zero,
    neg_zero]

end Prism.CountedParts
