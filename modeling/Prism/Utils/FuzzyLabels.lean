import Prism.Enforcement.EnforcementEngine
import Prism.Risk.Hysteresis

/-! # Labels for the operator

`getFuzzyLabel` names a probability without knowing the state of the risk model.
Its thresholds and those of the hysteresis are compatible all the same.
-/

namespace Prism.Utils

open Prism.Enforcement Prism.Risk

def getFuzzyLabel {Double : Type} [DoubleArithmetic Double] (p : Double) : String :=
  if p < 0.2 then "SAFE"
  else if p < 0.5 then "SUSPICIOUS"
  else if p < 0.8 then "THREAT"
  else "CRITICAL"

/-! ## What a label says about the probability -/

theorem getFuzzyLabel_cases (p : ℝ) :
    (p < 0.2 ∧ getFuzzyLabel p = "SAFE") ∨
      (p < 0.5 ∧ getFuzzyLabel p = "SUSPICIOUS") ∨
      (0.5 ≤ p ∧ getFuzzyLabel p = "THREAT") ∨
      (0.8 ≤ p ∧ getFuzzyLabel p = "CRITICAL") := by
  unfold getFuzzyLabel
  by_cases safe : p < 0.2
  · exact .inl ⟨safe, if_pos safe⟩
  · by_cases suspicious : p < 0.5
    · rw [if_neg safe, if_pos suspicious]
      exact .inr (.inl ⟨suspicious, rfl⟩)
    · rw [if_neg safe, if_neg suspicious]
      by_cases threat : p < 0.8
      · exact .inr (.inr (.inl ⟨not_lt.mp suspicious, if_pos threat⟩))
      · exact .inr (.inr (.inr ⟨not_lt.mp threat, if_neg threat⟩))

theorem lt_of_safe {p : ℝ} (safe : getFuzzyLabel p = "SAFE") : p < 0.2 := by
  rcases getFuzzyLabel_cases p with ⟨low, _⟩ | ⟨_, label⟩ | ⟨_, label⟩ | ⟨_, label⟩
  · exact low
  all_goals exact absurd (label.symm.trans safe) (by decide)

theorem lt_of_suspicious {p : ℝ} (suspicious : getFuzzyLabel p = "SUSPICIOUS") :
    p < 0.5 := by
  rcases getFuzzyLabel_cases p with ⟨_, label⟩ | ⟨low, _⟩ | ⟨_, label⟩ | ⟨_, label⟩
  · exact absurd (label.symm.trans suspicious) (by decide)
  · exact low
  all_goals exact absurd (label.symm.trans suspicious) (by decide)

theorem le_of_critical {p : ℝ} (critical : getFuzzyLabel p = "CRITICAL") : 0.8 ≤ p := by
  rcases getFuzzyLabel_cases p with ⟨_, label⟩ | ⟨_, label⟩ | ⟨_, label⟩ | ⟨high, _⟩
  · exact absurd (label.symm.trans critical) (by decide)
  · exact absurd (label.symm.trans critical) (by decide)
  · exact absurd (label.symm.trans critical) (by decide)
  · exact high

theorem threat_or_critical_of_le {p : ℝ} (high : 0.5 ≤ p) :
    getFuzzyLabel p = "THREAT" ∨ getFuzzyLabel p = "CRITICAL" := by
  rcases getFuzzyLabel_cases p with ⟨low, _⟩ | ⟨low, _⟩ | ⟨_, label⟩ | ⟨_, label⟩
  · have ordered : (0.2 : ℝ) < 0.5 := by norm_num
    exact absurd (low.trans ordered) (not_lt.mpr high)
  · exact absurd low (not_lt.mpr high)
  · exact .inl label
  · exact .inr label

/-! ## Labels and levels -/

theorem low_of_safe {model : RiskModel} {detection : DetectionResult ℝ}
    (safe : getFuzzyLabel (model.evaluate detection).2.probability = "SAFE") :
    (model.evaluate detection).2.level = .Low := by
  have small := lt_of_safe safe
  rw [RiskModel.evaluate_probability] at small
  have off : (model.evaluate detection).1.isOn = false := by
    apply Bool.eq_false_iff.mpr
    intro on
    have above := RiskModel.tauOff_lt_of_high
      ((RiskModel.evaluate_level_eq_high_iff model detection).mpr on)
    have ordered : (0.2 : ℝ) < 0.5 := by norm_num
    exact absurd (small.trans ordered) (not_lt.mpr above.le)
  have notMedium : ¬(0.4 : ℝ) < RiskModel.pMax detection := by
    have ordered : (0.2 : ℝ) < 0.4 := by norm_num
    exact not_lt.mpr (small.trans ordered).le
  exact (RiskModel.decision_level_of_off off _).trans (if_neg notMedium)

/-- What the operator reads agrees with what the system does, in every state of the
risk model and also where its flag switches. -/
theorem labels_agree_with_levels (model : RiskModel) (detection : DetectionResult ℝ) :
    let decision := (model.evaluate detection).2
    let label := getFuzzyLabel decision.probability
    (decision.level = .High → label = "THREAT" ∨ label = "CRITICAL") ∧
      (label = "CRITICAL" → decision.level = .High) ∧
      (label = "SAFE" → decision.level = .Low) ∧
      (label = "SUSPICIOUS" → decision.level ≠ .High) ∧
      (∀ (engine : EnforcementEngine) (answers : SocketAnswers),
        (engine.apply decision answers).sends ≠ [] → decision.level = .High) := by
  intro decision label
  have isProbability : decision.probability = RiskModel.pMax detection :=
    RiskModel.evaluate_probability model detection
  refine ⟨?_, ?_, low_of_safe, ?_, ?_⟩
  · intro high
    apply threat_or_critical_of_le
    rw [isProbability]
    exact (RiskModel.tauOff_lt_of_high high).le
  · intro critical
    have large := le_of_critical critical
    rw [isProbability] at large
    have ordered : (RiskModel.tauOn : ℝ) ≤ 0.8 := by
      rw [RiskModel.tauOn_real]
      norm_num
    exact (RiskModel.evaluate_level_eq_high_iff model detection).mpr
      (model.evaluate_isOn_of_tauOn_le (ordered.trans large))
  · intro suspicious high
    have small := lt_of_suspicious suspicious
    rw [isProbability] at small
    exact absurd small (not_lt.mpr (RiskModel.tauOff_lt_of_high high).le)
  · intro engine answers sends
    by_contra notHigh
    apply sends
    exact (EnforcementEngine.apply_of_not_restricting (fun both => notHigh both.1)
      answers).1

/-- The step at which an alert begins. -/
theorem labels_agree_with_levels_at_the_switch :
    getFuzzyLabel
        (({} : RiskModel).evaluate (⟨15, 0⟩ : DetectionResult ℝ)).2.probability =
          "THREAT" ∨
      getFuzzyLabel
        (({} : RiskModel).evaluate (⟨15, 0⟩ : DetectionResult ℝ)).2.probability =
          "CRITICAL" := by
  have reached : RiskModel.tauOn ≤ RiskModel.pMax (⟨15, 0⟩ : DetectionResult ℝ) :=
    RiskModel.tauOn_le_pMax (.inl (by norm_num))
  refine (labels_agree_with_levels {} ⟨15, 0⟩).1 ?_
  exact (RiskModel.evaluate_level_eq_high_iff _ _).mpr
    (RiskModel.evaluate_isOn_of_tauOn_le _ reached)

end Prism.Utils
