import Prism.Foundation.Bars
import Prism.Foundation.Comparisons
import Prism.Risk.Hysteresis

/-! # Decisions as bars on the scores

A decision of the risk model depends on two bars on the probability, and thereby on
the two scores.
-/

namespace Prism.Risk.RiskModel

/-! ## The bars of a decision -/

section Passing

variable {Double : Type} [DoubleArithmetic Double]

/-- After the probability the flag is on. -/
def PassesHigh (model : RiskModel) (p : Double) : Prop :=
  if model.isOn then ¬p ≤ tauOff else tauOn ≤ p

/-- The probability leads to a decision that is not Low. -/
def PassesMedium (model : RiskModel) (p : Double) : Prop :=
  model.PassesHigh p ∨ 0.4 < p

theorem evaluate_isOn_iff_passesHigh (model : RiskModel)
    (detection : DetectionResult Double) :
    (model.evaluate detection).1.isOn = true ↔ model.PassesHigh (pMax detection) := by
  cases on : model.isOn with
  | false => simp [evaluate_isOn_iff_of_off on, PassesHigh, on]
  | true => simp [evaluate_isOn_iff_of_on on, PassesHigh, on]

theorem level_eq_low_iff (model : RiskModel) (detection : DetectionResult Double) :
    (model.evaluate detection).2.level = .Low ↔
      ¬model.PassesMedium (pMax detection) := by
  rw [PassesMedium, ← evaluate_isOn_iff_passesHigh]
  cases on : (model.evaluate detection).1.isOn with
  | true =>
      rw [(evaluate_level_eq_high_iff model detection).mpr on]
      simp
  | false =>
      have level : (model.evaluate detection).2.level =
          if 0.4 < pMax detection then .Medium else .Low :=
        decision_level_of_off on (pMax detection)
      rw [level]
      simp

/-- Levels are told apart by being High and by being Low. -/
theorem level_eq_iff (level level' : RiskLevel) :
    level = level' ↔
      (level = .High ↔ level' = .High) ∧ (level = .Low ↔ level' = .Low) := by
  cases level <;> cases level' <;> decide

/-- Two probabilities lead to the same decision, apart from the probability itself,
exactly if they are on the same side of both bars. -/
theorem same_decision_iff (model : RiskModel) (first second : DetectionResult Double) :
    let decision := (model.evaluate first).2
    let decision' := (model.evaluate second).2
    (decision.level = decision'.level ∧
        decision.restrictWrites = decision'.restrictWrites) ↔
      ∀ Passes ∈ [model.PassesHigh, model.PassesMedium],
        (Passes (pMax first) ↔ Passes (pMax second)) := by
  intro decision decision'
  have flags : decision.restrictWrites = decision'.restrictWrites ↔
      (model.PassesHigh (pMax first) ↔ model.PassesHigh (pMax second)) := by
    rw [evaluate_restrictWrites, evaluate_restrictWrites, Bool.eq_iff_iff,
      evaluate_isOn_iff_passesHigh, evaluate_isOn_iff_passesHigh]
  have levels : decision.level = decision'.level ↔
      (model.PassesHigh (pMax first) ↔ model.PassesHigh (pMax second)) ∧
        (model.PassesMedium (pMax first) ↔ model.PassesMedium (pMax second)) := by
    rw [level_eq_iff, evaluate_level_eq_high_iff, evaluate_level_eq_high_iff,
      evaluate_isOn_iff_passesHigh, evaluate_isOn_iff_passesHigh, level_eq_low_iff,
      level_eq_low_iff, not_iff_not]
  rw [flags, levels, List.forall_mem_cons, List.forall_mem_singleton]
  exact ⟨And.left, fun same => ⟨same, same.1⟩⟩

variable [LawfulComparisons Double]

theorem passesHigh_of_lt {model : RiskModel} {p p' : Double} (lt : p < p')
    (passes : model.PassesHigh p) : model.PassesHigh p' := by
  unfold PassesHigh at passes ⊢
  split
  · rw [if_pos ‹_›] at passes
    exact fun le => passes (LawfulComparisons.le_of_lt_of_le lt le)
  · rw [if_neg ‹_›] at passes
    exact LawfulComparisons.le_of_le_of_lt passes lt

theorem passes_of_lt {model : RiskModel} {Passes : Double → Prop}
    (member : Passes ∈ [model.PassesHigh, model.PassesMedium]) {p p' : Double}
    (lt : p < p') (passes : Passes p) : Passes p' := by
  rw [List.mem_cons, List.mem_singleton] at member
  rcases member with rfl | rfl
  · exact passesHigh_of_lt lt passes
  · exact passes.imp (passesHigh_of_lt lt) fun above => LawfulComparisons.lt_trans above lt

/-- A detection passes a bar with its first score, or with a second one that is
ahead of it. -/
theorem passes_pMax_iff {model : RiskModel} {Passes : Double → Prop}
    (member : Passes ∈ [model.PassesHigh, model.PassesMedium])
    (detection : DetectionResult Double) :
    let pHst := sigmoid (detection.hstScore / 10.0)
    let pBurst := sigmoid (detection.burstScore / 10.0)
    Passes (pMax detection) ↔ Passes pHst ∨ pHst < pBurst ∧ Passes pBurst := by
  intro pHst pBurst
  have isMax : pMax detection = if pHst < pBurst then pBurst else pHst := rfl
  rw [isMax]
  by_cases ahead : pHst < pBurst
  · simp only [ahead, if_true, true_and]
    exact (or_iff_right_of_imp (passes_of_lt member ahead)).symm
  · simp [ahead]

end Passing

/-! ## Bars in exact arithmetic -/

/-- What a probability has to reach for the flag to be on afterwards. -/
noncomputable def switchBar (model : RiskModel) : Bar ℝ :=
  if model.isOn then ⟨tauOff, true⟩ else ⟨tauOn, false⟩

/-- What a probability has to reach for a decision that is not Low. -/
noncomputable def mediumBar : Bar ℝ := ⟨0.4, true⟩

theorem passesHigh_iff_reached (model : RiskModel) (p : ℝ) :
    model.PassesHigh p ↔ model.switchBar.Reached p := by
  cases on : model.isOn with
  | false => simp [PassesHigh, switchBar, Bar.Reached, on]
  | true => simp [PassesHigh, switchBar, Bar.Reached, on]

theorem passesMedium_iff_reached (model : RiskModel) (p : ℝ) :
    model.PassesMedium p ↔ mediumBar.Reached p := by
  have above : model.PassesHigh p → 0.4 < p := by
    intro passes
    unfold PassesHigh at passes
    split at passes
    · rw [tauOff_real, not_le] at passes
      norm_num
      linarith
    · rw [tauOn_real] at passes
      norm_num
      linarith
  rw [PassesMedium, or_iff_right_of_imp above]
  simp [mediumBar, Bar.Reached]

theorem evaluate_level_eq_medium_iff (model : RiskModel) (detection : DetectionResult ℝ) :
    (model.evaluate detection).2.level = .Medium ↔
      (model.evaluate detection).2.level ≠ .High ∧ 0.4 < pMax detection := by
  constructor
  · intro medium
    have notHigh : (model.evaluate detection).2.level ≠ .High := by
      rw [medium]
      exact fun equal => nomatch equal
    exact ⟨notHigh, (level_eq_medium_iff notHigh).mp medium⟩
  · rintro ⟨notHigh, above⟩
    exact (level_eq_medium_iff notHigh).mpr above

theorem same_decision_iff_reached (model : RiskModel) (first second : DetectionResult ℝ) :
    let decision := (model.evaluate first).2
    let decision' := (model.evaluate second).2
    (decision.level = decision'.level ∧
        decision.restrictWrites = decision'.restrictWrites) ↔
      ∀ bar ∈ [model.switchBar, mediumBar],
        (bar.Reached (pMax first) ↔ bar.Reached (pMax second)) := by
  refine (same_decision_iff model first second).trans ?_
  rw [List.forall_mem_cons, List.forall_mem_singleton, List.forall_mem_cons,
    List.forall_mem_singleton]
  simp only [passesHigh_iff_reached, passesMedium_iff_reached]

/-! ## Bars on the scores -/

noncomputable def scoreOf (p : ℝ) : ℝ := 10.0 + 5.0 * Real.log (p / (1.0 - p))

theorem sigmoid_scoreOf {p : ℝ} (positive : 0 < p) (proper : p < 1) :
    sigmoid (scoreOf p / 10) = p := by
  have isLogit : scoreOf p / 10 = 1 + Real.log (p / (1 - p)) / 2 := by
    rw [scoreOf]
    norm_num
    ring
  rw [isLogit, sigmoid_logit positive proper]

theorem reached_sigmoid_iff {bar : Bar ℝ} (positive : 0 < bar.bound)
    (proper : bar.bound < 1) (score : ℝ) :
    bar.Reached (sigmoid (score / 10)) ↔ (bar.map scoreOf).Reached score := by
  have mono : StrictMono fun score : ℝ => sigmoid (score / 10) := by
    intro score score' lt
    exact sigmoid_strictMono (by linarith)
  have back : (bar.map scoreOf).map (fun score => sigmoid (score / 10)) = bar := by
    rw [Bar.map, Bar.map, sigmoid_scoreOf positive proper]
  have onScores := Bar.reached_map_iff mono (bar.map scoreOf) score
  rw [back] at onScores
  exact onScores

theorem one_lt_scoreOf {p : ℝ} (atLeast : 2 / 5 ≤ p) (proper : p < 1) :
    1 < scoreOf p := by
  have positive : 0 < p := by linarith
  have odds : 0 < p / (1 - p) := div_pos positive (by linarith)
  have tangent := Real.one_sub_inv_le_log_of_pos odds
  have inverse : (p / (1 - p))⁻¹ ≤ 3 / 2 := by
    rw [inv_div, div_le_iff₀ positive]
    linarith
  rw [scoreOf]
  norm_num
  linarith

theorem bounds_of_mem_bars {model : RiskModel} {bar : Bar ℝ}
    (member : bar ∈ [model.switchBar, mediumBar]) :
    2 / 5 ≤ bar.bound ∧ bar.bound < 1 := by
  rw [List.mem_cons, List.mem_singleton] at member
  rcases member with rfl | rfl
  · unfold switchBar
    split
    · norm_num [tauOff_real]
    · norm_num [tauOn_real]
  · norm_num [mediumBar]

theorem reached_pMax_congr_iff {model : RiskModel} {bar : Bar ℝ}
    (member : bar ∈ [model.switchBar, mediumBar]) {first second : DetectionResult ℝ}
    (sameHst : second.hstScore = first.hstScore) :
    (bar.Reached (pMax first) ↔ bar.Reached (pMax second)) ↔
      (bar.map scoreOf).Reached first.hstScore ∨
        ((bar.map scoreOf).Reached first.burstScore ↔
          (bar.map scoreOf).Reached second.burstScore) := by
  rcases bounds_of_mem_bars member with ⟨atLeast, proper⟩
  have positive : 0 < bar.bound := by linarith
  rw [pMax_real, pMax_real, sameHst, Bar.reached_max_congr_iff,
    reached_sigmoid_iff positive proper, reached_sigmoid_iff positive proper,
    reached_sigmoid_iff positive proper]

end Prism.Risk.RiskModel
