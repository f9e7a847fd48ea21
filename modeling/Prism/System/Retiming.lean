import Prism.Risk.Bars
import Prism.System.PairedWindows
import Prism.System.WindowTiming

/-! # Windows with other timestamps

What inter-arrival times alone can change about a decision, however few records the
window holds.
-/

namespace Prism.System

open Prism.Detection Prism.Features Prism.Main Prism.Risk

/-- The records differ at most in their timestamps. -/
def SameButTime (first second : ParsedRecord) : Prop :=
  second = { first with timestamp := second.timestamp }

/-! ## What the first score looks at -/

section Scores

variable {Double : Type} [DoubleArithmetic Double]

theorem hstScore_congr (orders : VisitOrders) {window window' : Window}
    (sameWrites : window.records.map ParsedRecord.isWrite =
      window'.records.map ParsedRecord.isWrite)
    (sameFunctions : window.records.map ParsedRecord.functionCode =
      window'.records.map ParsedRecord.functionCode)
    (sameAddresses : window.records.map ParsedRecord.address =
      window'.records.map ParsedRecord.address) :
    (detect orders window : DetectionResult Double).hstScore =
      (detect orders window').hstScore := by
  have sameLength : window.records.length = window'.records.length := by
    simpa using congrArg List.length sameWrites
  have sameCount : (FeatureExtractor.writeCount window.records : Double) =
      FeatureExtractor.writeCount window'.records := by
    have folded (records : List ParsedRecord) :
        (FeatureExtractor.writeCount records : Double) =
          (records.map ParsedRecord.isWrite).foldl
            (fun count isWrite => if isWrite then count + 1.0 else count) 0.0 := by
      rw [List.foldl_map]
      rfl
    rw [folded, folded, sameWrites]
  change HalfSpaceTrees.score (FeatureExtractor.compute orders window) =
    HalfSpaceTrees.score (FeatureExtractor.compute orders window')
  by_cases empty : window'.records.length = 0
  · simp only [FeatureExtractor.compute, sameLength, if_pos empty]
  · simp [HalfSpaceTrees.score, FeatureExtractor.compute, sameLength, sameCount,
      sameFunctions, sameAddresses, empty]

theorem hstScore_eq_of_times (orders : VisitOrders) {window window' : Window}
    (retimed : List.Forall₂ SameButTime window.records window'.records) :
    (detect orders window' : DetectionResult Double).hstScore =
      (detect orders window).hstScore :=
  (hstScore_congr orders
    (map_eq_of_forall₂ (fun _ _ sameRest => by rw [sameRest]) retimed)
    (map_eq_of_forall₂ (fun _ _ sameRest => by rw [sameRest]) retimed)
    (map_eq_of_forall₂ (fun _ _ sameRest => by rw [sameRest]) retimed)).symm

/-! ## The same decision -/

end Scores

def readsAt (times : List Timestamp) : Window :=
  { records := times.map fun time => { timestamp := time } }

/-- The variance whose burst score is a given score above that of polling. -/
noncomputable def varianceOf (score : ℝ) : ℝ := 0.0025 + 0.051 * score

theorem varianceOf_strictMono : StrictMono varianceOf := by
  intro score score' lt
  rw [varianceOf, varianceOf]
  linarith

theorem reached_burstScore_iff (orders : VisitOrders) (window : Window) {bar : Bar ℝ}
    (high : 1 < bar.bound) :
    bar.Reached (detect orders window : DetectionResult ℝ).burstScore ↔
      (bar.map varianceOf).Reached (BurstDetector.currentVariance window.records) := by
  rw [burstScore_detect]
  have nonneg := BurstDetector.currentVariance_nonneg window.records
  generalize BurstDetector.currentVariance window.records = variance at nonneg ⊢
  have sides : |variance - 1 / 400| / (51 / 1000) =
      max ((variance - 1 / 400) / (51 / 1000))
        (-(variance - 1 / 400) / (51 / 1000)) := by
    rw [abs_eq_max_neg, max_div_div_right (by norm_num)]
  have smooth : ¬bar.Reached (-(variance - 1 / 400) / (51 / 1000)) := by
    apply Bar.not_reached_of_lt
    rw [div_lt_iff₀ (by norm_num)]
    linarith
  have isVariance : varianceOf ((variance - 1 / 400) / (51 / 1000)) = variance := by
    rw [varianceOf]
    norm_num
    ring
  have onVariance := Bar.reached_map_iff varianceOf_strictMono bar
    ((variance - 1 / 400) / (51 / 1000))
  rw [isVariance] at onVariance
  rw [sides, Bar.reached_max_iff, or_iff_left smooth, onVariance]

/-- In exact arithmetic the second score passes a bar with the variance of the
inter-arrival times. -/
theorem timing_ignored_iff_of_variances (orders orders' : VisitOrders)
    (window window' : Window) (model : RiskModel)
    (retimed : List.Forall₂ SameButTime window.records window'.records) :
    let first := (model.evaluate (detect orders window : DetectionResult ℝ)).2
    let second := (model.evaluate (detect orders' window' : DetectionResult ℝ)).2
    let records := window.records
    let hstScore := HalfSpaceTrees.writeRatio records * 50 +
      HalfSpaceTrees.funcConc orders records * (5 / 2) +
      HalfSpaceTrees.addressEntropy orders records *
        HalfSpaceTrees.writeRatio records * 20
    (first.level = second.level ∧ first.restrictWrites = second.restrictWrites) ↔
      ∀ bar ∈ [model.switchBar, RiskModel.mediumBar],
        (bar.map RiskModel.scoreOf).Reached hstScore ∨
          (((bar.map RiskModel.scoreOf).map varianceOf).Reached
              (BurstDetector.currentVariance records) ↔
            ((bar.map RiskModel.scoreOf).map varianceOf).Reached
              (BurstDetector.currentVariance window'.records)) := by
  intro first second records hstScore
  have sameHst : (detect orders' window' : DetectionResult ℝ).hstScore =
      (detect orders window).hstScore := by
    rw [detect_congr_orders orders' orders]
    exact hstScore_eq_of_times orders retimed
  refine (RiskModel.same_decision_iff_reached model _ _).trans (forall₂_congr ?_)
  intro bar member
  rcases RiskModel.bounds_of_mem_bars member with ⟨atLeast, proper⟩
  have high : 1 < (bar.map RiskModel.scoreOf).bound :=
    RiskModel.one_lt_scoreOf atLeast proper
  rw [RiskModel.reached_pMax_congr_iff member sameHst, hstScore_detect,
    reached_burstScore_iff orders window high,
    reached_burstScore_iff orders' window' high]

/-! ## Three reads -/

theorem hstScore_le_of_reads (orders : VisitOrders) {window : Window}
    (reads : ∀ record ∈ window.records, record.isWrite = false) :
    (detect orders window : DetectionResult ℝ).hstScore ≤ 5 / 2 := by
  have noWrites : HalfSpaceTrees.writeRatio window.records = 0 := by
    have none : window.records.countP ParsedRecord.isWrite = 0 := by
      rw [List.countP_eq_zero]
      intro record member
      rw [reads record member]
      decide
    rw [HalfSpaceTrees.writeRatio, none, Nat.cast_zero, zero_div]
  have atMostOne := HalfSpaceTrees.funcConc_le_one orders window.records
  rw [hstScore_detect, noWrites]
  linarith

end Prism.System
