import Prism.Main.Stages
import Prism.System.Retiming

/-! # The levels over a run

What level each window of a run gets, from the windows alone: the probabilities, the
sigmoid and the flag of the risk model are gone, and bars on the windows take their
place.
-/

namespace Prism.System

open Prism.Detection Prism.Features Prism.Main Prism.Risk Prism.Windowing

/-! ## Bars on windows -/

/-- A window reaches a bar that is given as a score. -/
inductive Clears (orders : VisitOrders) (bar : Bar ℝ) (window : Window) : Prop
  | shares (reached : bar.Reached (HalfSpaceTrees.writeRatio window.records * 50 +
      HalfSpaceTrees.funcConc orders window.records * (5 / 2) +
      HalfSpaceTrees.addressEntropy orders window.records *
        HalfSpaceTrees.writeRatio window.records * 20))
  | gaps (reached : (bar.map varianceOf).Reached
      (BurstDetector.currentVariance window.records))

theorem reached_pMax_detect_iff (orders : VisitOrders) (window : Window) {bar : Bar ℝ}
    (atLeast : 2 / 5 ≤ bar.bound) (proper : bar.bound < 1) :
    bar.Reached (RiskModel.pMax (detect orders window : DetectionResult ℝ)) ↔
      Clears orders (bar.map RiskModel.scoreOf) window := by
  have positive : 0 < bar.bound := by linarith
  have burst := reached_burstScore_iff orders window
    (show 1 < (bar.map RiskModel.scoreOf).bound from
      RiskModel.one_lt_scoreOf atLeast proper)
  rw [RiskModel.pMax_real, Bar.reached_max_iff,
    RiskModel.reached_sigmoid_iff positive proper,
    RiskModel.reached_sigmoid_iff positive proper, burst, hstScore_detect]
  constructor
  · rintro (shares | gaps)
    · exact .shares shares
    · exact .gaps gaps
  · rintro (shares | gaps)
    · exact .inl shares
    · exact .inr gaps

theorem lt_pMax_detect_iff (orders : VisitOrders) (window : Window) {p : ℝ}
    (atLeast : 2 / 5 ≤ p) (proper : p < 1) :
    p < RiskModel.pMax (detect orders window : DetectionResult ℝ) ↔
      Clears orders ⟨RiskModel.scoreOf p, true⟩ window :=
  reached_pMax_detect_iff orders window
    (show 2 / 5 ≤ (⟨p, true⟩ : Bar ℝ).bound from atLeast) proper

theorem le_pMax_detect_iff (orders : VisitOrders) (window : Window) {p : ℝ}
    (atLeast : 2 / 5 ≤ p) (proper : p < 1) :
    p ≤ RiskModel.pMax (detect orders window : DetectionResult ℝ) ↔
      Clears orders ⟨RiskModel.scoreOf p, false⟩ window :=
  reached_pMax_detect_iff orders window
    (show 2 / 5 ≤ (⟨p, false⟩ : Bar ℝ).bound from atLeast) proper

/-! ## Runs -/

/-- Some window up to this one has cleared the bar of 0.7, and every window since has
cleared the bar of 0.5. -/
def AlertedAt (orders : VisitOrders) (windows : List Window) (index : Nat) : Prop :=
  ∃ first ≤ index,
    (∃ window ∈ windows[first]?, Clears orders ⟨RiskModel.scoreOf 0.7, false⟩ window) ∧
      ∀ later, first < later → later ≤ index → ∀ window ∈ windows[later]?,
        Clears orders ⟨RiskModel.scoreOf 0.5, true⟩ window

theorem raisedAt_detect_iff (orders : VisitOrders) (windows : List Window)
    (index : Nat) :
    RiskModel.RaisedAt (windows.map (detect orders)) index ↔
      AlertedAt orders windows index := by
  have reaches (window : Window) := le_pMax_detect_iff orders window
    (show (2 / 5 : ℝ) ≤ 0.7 by norm_num) (by norm_num)
  have stays (window : Window) := lt_pMax_detect_iff orders window
    (show (2 / 5 : ℝ) ≤ 0.5 by norm_num) (by norm_num)
  simp only [RiskModel.RaisedAt, AlertedAt, List.getElem?_map, Option.mem_def,
    Option.map_eq_some_iff, exists_exists_and_eq_and, forall_exists_index, and_imp,
    forall_apply_eq_imp_iff₂, reaches, stays]

/-- The levels of all evaluations of a run on any outcomes of the capture, from the
windows with a record in them. A level is High exactly if some window so far has
cleared the bar of 0.7 and every window since has cleared the bar of 0.5; otherwise it
is Medium exactly if its own window clears the bar of 0.4. -/
theorem levels_of_windows (environment : Environment) (stream : List CaptureOutcome) :
    let run := pollLoop ℝ environment {} stream
    let windows := (WindowManager.emittedWindows (milliseconds 5000) (milliseconds 1000)
      (stream.filterMap CaptureOutcome.kept)).filter fun window =>
        !window.records.isEmpty
    run.map Evaluation.window = windows ∧
      ∀ (index : Nat) (evaluation : Evaluation ℝ), run[index]? = some evaluation →
        (evaluation.decision.level = .High ↔
            AlertedAt environment.orders windows index) ∧
          (evaluation.decision.level = .Medium ↔
            ¬AlertedAt environment.orders windows index ∧
              Clears environment.orders ⟨RiskModel.scoreOf 0.4, true⟩
                evaluation.window) := by
  intro run windows
  have isRun : run = evaluations ℝ environment {}
      (stream.filterMap CaptureOutcome.kept) :=
    pollLoop_eq_evaluations environment stream
  rcases evaluations_staged ℝ environment {} (stream.filterMap CaptureOutcome.kept) with
    ⟨sameWindows, sameDecisions, _⟩
  rw [← isRun] at sameWindows sameDecisions
  refine ⟨sameWindows, ?_⟩
  intro index evaluation isEvaluation
  have isWindow : windows[index]? = some evaluation.window := by
    rw [show windows = _ from sameWindows.symm, List.getElem?_map, isEvaluation]
    rfl
  have isDecision : ((RiskModel.machine ℝ).outputs {}
      (windows.map (detect environment.orders)))[index]? = some evaluation.decision := by
    rw [show (RiskModel.machine ℝ).outputs {} (windows.map _) = _ from
      sameDecisions.symm, List.getElem?_map, isEvaluation]
    rfl
  have high : evaluation.decision.level = .High ↔
      AlertedAt environment.orders windows index :=
    (RiskModel.level_eq_high_iff isDecision).trans (raisedAt_detect_iff _ _ _)
  refine ⟨high, ?_⟩
  rw [← high, ← lt_pMax_detect_iff environment.orders _ (by norm_num) (by norm_num)]
  rw [Machine.getElem?_outputs, List.getElem?_map, isWindow, Option.map_some,
    Option.map_some, Option.some.injEq] at isDecision
  rw [← isDecision]
  exact RiskModel.evaluate_level_eq_medium_iff _ _

end Prism.System
