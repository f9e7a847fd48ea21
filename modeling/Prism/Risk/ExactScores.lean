import Mathlib.Analysis.Complex.ExponentialBounds
import Prism.Risk.RiskModel

/-! # The risk model in exact arithmetic

Over the reals the sigmoids are monotone, and the two thresholds of the
hysteresis are thresholds on the scores themselves.
-/

namespace Prism.Risk.RiskModel

/-! ## The sigmoid -/

theorem sigmoid_real (z : ℝ) :
    sigmoid z = 1 / (1 + Real.exp (-2 * (z - 1))) := by
  unfold sigmoid k
  change (1.0 : ℝ) / (1.0 + Real.exp (-2.0 * (z - 1.0))) = _
  norm_num

theorem tauOn_real : (tauOn : ℝ) = 7 / 10 := by
  change (0.7 : ℝ) = _
  norm_num

theorem tauOff_real : (tauOff : ℝ) = 1 / 2 := by
  change (0.5 : ℝ) = _
  norm_num

theorem pMax_real (detection : DetectionResult ℝ) :
    pMax detection =
      max (sigmoid (detection.hstScore / 10))
        (sigmoid (detection.burstScore / 10)) := by
  have ten : (10.0 : ℝ) = 10 := by norm_num
  unfold pMax
  rw [DoubleArithmetic.max_real]
  change max (sigmoid (detection.hstScore / (10.0 : ℝ)))
    (sigmoid (detection.burstScore / (10.0 : ℝ))) = _
  rw [ten]

theorem sigmoid_strictMono : StrictMono (sigmoid : ℝ → ℝ) := by
  intro z z' lt
  rw [sigmoid_real, sigmoid_real]
  have positive := Real.exp_pos (-2 * (z' - 1))
  apply one_div_lt_one_div_of_lt (by linarith)
  have falls : Real.exp (-2 * (z' - 1)) < Real.exp (-2 * (z - 1)) :=
    Real.exp_lt_exp.mpr (by linarith)
  linarith

theorem sigmoid_mono {z z' : ℝ} (le : z ≤ z') : sigmoid z ≤ sigmoid z' :=
  sigmoid_strictMono.monotone le

theorem sigmoid_logit {p : ℝ} (positive : 0 < p) (proper : p < 1) :
    sigmoid (1 + Real.log (p / (1 - p)) / 2) = p := by
  have rest : 0 < 1 - p := by linarith
  have odds : 0 < p / (1 - p) := div_pos positive rest
  have exponent : -2 * (1 + Real.log (p / (1 - p)) / 2 - 1) =
      -Real.log (p / (1 - p)) := by ring
  rw [sigmoid_real, exponent, Real.exp_neg, Real.exp_log odds, inv_div]
  field_simp
  ring

theorem le_sigmoid_iff {p : ℝ} (positive : 0 < p) (proper : p < 1) (z : ℝ) :
    p ≤ sigmoid z ↔ 1 + Real.log (p / (1 - p)) / 2 ≤ z := by
  have reached := sigmoid_strictMono.le_iff_le (a := 1 + Real.log (p / (1 - p)) / 2)
    (b := z)
  rwa [sigmoid_logit positive proper] at reached

theorem sigmoid_le_tauOff_iff (z : ℝ) : sigmoid z ≤ tauOff ↔ z ≤ 1 := by
  have centre : sigmoid (1 : ℝ) = tauOff := by
    rw [sigmoid_real, tauOff_real]
    norm_num
  rw [← centre, sigmoid_strictMono.le_iff_le]

theorem tauOn_le_sigmoid_iff (z : ℝ) :
    tauOn ≤ sigmoid z ↔ 1 + Real.log (7 / 3) / 2 ≤ z := by
  have odds : (7 / 10 : ℝ) / (1 - 7 / 10) = 7 / 3 := by norm_num
  rw [tauOn_real, le_sigmoid_iff (by norm_num) (by norm_num), odds]

theorem half_le_sigmoid_iff (z : ℝ) : 1 / 2 ≤ sigmoid z ↔ 1 ≤ z := by
  have odds : (1 / 2 : ℝ) / (1 - 1 / 2) = 1 := by norm_num
  rw [le_sigmoid_iff (by norm_num) (by norm_num), odds, Real.log_one]
  norm_num

theorem tauOn_le_sigmoid {z : ℝ} (large : 3 / 2 ≤ z) : tauOn ≤ sigmoid z := by
  have log : Real.log (7 / 3) ≤ 1 := by
    rw [Real.log_le_iff_le_exp (by norm_num)]
    linarith [Real.exp_one_gt_d9]
  rw [tauOn_le_sigmoid_iff]
  linarith

/-! ## Detections -/

/-- No score of the first detection exceeds that of the second. -/
structure Dominated (first second : DetectionResult ℝ) : Prop where
  hstScore : first.hstScore ≤ second.hstScore
  burstScore : first.burstScore ≤ second.burstScore

theorem pMax_mono {first second : DetectionResult ℝ}
    (dominated : Dominated first second) : pMax first ≤ pMax second := by
  rw [pMax_real, pMax_real]
  apply max_le_max
  · exact sigmoid_mono (by linarith [dominated.hstScore])
  · exact sigmoid_mono (by linarith [dominated.burstScore])

/-- The probability falls to the lower threshold exactly when neither score
exceeds 10. -/
theorem pMax_le_tauOff_iff (detection : DetectionResult ℝ) :
    pMax detection ≤ tauOff ↔ detection.hstScore ≤ 10 ∧ detection.burstScore ≤ 10 := by
  rw [pMax_real, max_le_iff, sigmoid_le_tauOff_iff, sigmoid_le_tauOff_iff]
  constructor
  · intro small
    constructor <;> linarith [small.1, small.2]
  · intro small
    constructor <;> linarith [small.1, small.2]

/-- A score of 15 reaches the upper threshold. -/
theorem tauOn_le_pMax {detection : DetectionResult ℝ}
    (large : 15 ≤ detection.hstScore ∨ 15 ≤ detection.burstScore) :
    tauOn ≤ pMax detection := by
  rw [pMax_real, le_max_iff]
  rcases large with hst | burst
  · exact .inl (tauOn_le_sigmoid (by linarith))
  · exact .inr (tauOn_le_sigmoid (by linarith))

end Prism.Risk.RiskModel
