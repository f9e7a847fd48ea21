import Prism.Main.Stages
import Prism.System.Polling

/-! # Runs without an attempt

When PRISM leaves the PLC alone. One window above one of two bars makes it try to
lock, and nothing else does.
-/

namespace Prism.System

open Prism.Detection Prism.Enforcement Prism.Features Prism.Main Prism.Risk
  Prism.Windowing

/-! ## Decisions that restrict -/

theorem restricts_evaluate (model : RiskModel) (detection : DetectionResult ℝ) :
    Attempting.restricts (model.evaluate detection).2 =
      (model.evaluate detection).1.isOn := by
  rw [Attempting.restricts, RiskModel.evaluate_restrictWrites, Bool.eq_iff_iff,
    Bool.and_eq_true, decide_eq_true_iff, RiskModel.evaluate_level_eq_high_iff,
    and_self_iff]

theorem countP_restricts_eq_zero_iff (environment : Environment)
    {model : RiskModel} (off : model.isOn = false) (windows : List Window) :
    (decisionsOn ℝ environment model windows).countP Attempting.restricts = 0 ↔
      ∀ window ∈ windows, ¬RiskModel.tauOn ≤ RiskModel.pMax
        (detect environment.orders window : DetectionResult ℝ) := by
  induction windows generalizing model with
  | nil => simp [decisionsOn]
  | cons window windows induction =>
      let evaluated := model.evaluate
        (detect environment.orders window : DetectionResult ℝ)
      have split : decisionsOn ℝ environment model (window :: windows) =
          evaluated.2 :: decisionsOn ℝ environment evaluated.1 windows := rfl
      have restricts : Attempting.restricts evaluated.2 = evaluated.1.isOn :=
        restricts_evaluate _ _
      have turnsOn : evaluated.1.isOn = true ↔ _ :=
        RiskModel.evaluate_isOn_iff_of_off off _
      rw [split, List.forall_mem_cons, ← turnsOn]
      cases on : evaluated.1.isOn with
      | true =>
          rw [List.countP_cons_of_pos (restricts.trans on)]
          simp
      | false =>
          rw [List.countP_cons_of_neg (by simp [restricts, on]), induction on]
          simp

/-! ## The two bars -/

theorem tauOn_le_pMax_detect_iff (orders : VisitOrders) (window : Window) :
    RiskModel.tauOn ≤ RiskModel.pMax (detect orders window : DetectionResult ℝ) ↔
      10 * (1 + Real.log (7 / 3) / 2) ≤
          HalfSpaceTrees.writeRatio window.records * 50 +
            HalfSpaceTrees.funcConc orders window.records * (5 / 2) +
            HalfSpaceTrees.addressEntropy orders window.records *
              HalfSpaceTrees.writeRatio window.records * 20 ∨
        alarmVariance ≤ BurstDetector.currentVariance window.records := by
  have log := Real.log_nonneg (show (1 : ℝ) ≤ 7 / 3 by norm_num)
  have burst := BurstDetector.le_score_compute_iff orders window
    (show 10 ≤ 10 * (1 + Real.log (7 / 3) / 2) by linarith)
  rw [RiskModel.pMax_real, le_max_iff, RiskModel.tauOn_le_sigmoid_iff,
    RiskModel.tauOn_le_sigmoid_iff, le_div_iff₀ (by norm_num),
    le_div_iff₀ (by norm_num), mul_comm]
  change _ ≤ HalfSpaceTrees.score _ ∨ _ ≤ BurstDetector.score _ ↔ _
  rw [HalfSpaceTrees.score_compute, burst, alarmVariance_eq]

/-! ## Runs -/

/-- On any outcomes of the capture, `main` makes no attempt to reach the PLC if and
only if each window emitted with a record stays below two bars: one for the write
share, the share of the commonest function and the entropy of the addresses, the
other for the variance of the gaps. -/
theorem makes_no_attempt_iff (environment : Environment)
    (stream : List CaptureOutcome) :
    (pollLoop ℝ environment {} stream).flatMap Evaluation.sends = [] ↔
      ∀ window ∈ WindowManager.emittedWindows (milliseconds 5000) (milliseconds 1000)
          (stream.filterMap CaptureOutcome.kept),
        window.records ≠ [] →
          let writes := HalfSpaceTrees.writeRatio window.records
          let commonest := HalfSpaceTrees.funcConc environment.orders window.records
          let spread := HalfSpaceTrees.addressEntropy environment.orders window.records
          writes * 50 + commonest * (5 / 2) + spread * writes * 20 <
              10 * (1 + Real.log (7 / 3) / 2) ∧
            BurstDetector.currentVariance window.records < alarmVariance := by
  let records := stream.filterMap CaptureOutcome.kept
  have isRun : pollLoop ℝ environment {} stream =
      evaluations ℝ environment {} records :=
    pollLoop_eq_evaluations environment stream
  have sent := (sends_evaluations ℝ environment {} records rfl).1
  rw [isRun, sent, upToFirst_eq_nil_iff, Attempting.attemptsFrom,
    List.map_eq_nil_iff, List.range'_eq_nil_iff,
    countP_restricts_eq_zero_iff environment rfl, evaluatedWindows]
  refine forall_congr' fun window => ?_
  rw [List.mem_filter, and_imp]
  refine forall_congr' fun _ => ?_
  rw [tauOn_le_pMax_detect_iff, not_or, not_le, not_le]
  simp

end Prism.System
