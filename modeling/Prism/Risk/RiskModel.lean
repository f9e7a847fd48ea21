import Prism.Foundation.DoubleArithmetic
import Prism.Foundation.Machine
import Prism.Types

/-! # The risk model

Two sigmoids, their maximum and a flag with hysteresis.
-/

namespace Prism.Risk

open DoubleArithmetic

/-- The members of `RiskModel` that change. -/
structure RiskModel where
  isOn : Bool := false
  deriving DecidableEq, Repr

namespace RiskModel

variable {Double : Type} [DoubleArithmetic Double]

def tauOn : Double := 0.7

def tauOff : Double := 0.5

def k : Double := 2.0

def fuse (hstScore burstScore : Double) : DetectionResult Double where
  hstScore := hstScore
  burstScore := burstScore

def sigmoid (z : Double) : Double :=
  1.0 / (1.0 + exp (-k * (z - 1.0)))

def pMax (detection : DetectionResult Double) : Double :=
  let zHst := detection.hstScore / 10.0
  let zBurst := detection.burstScore / 10.0
  DoubleArithmetic.max (sigmoid zHst) (sigmoid zBurst)

def switch (model : RiskModel) (p : Double) : RiskModel :=
  if !model.isOn && decide (tauOn ≤ p) then
    { isOn := true }
  else if model.isOn && decide (p ≤ tauOff) then
    { isOn := false }
  else
    model

/-- The decision under the flag as it stands after the switch. -/
def decision (model : RiskModel) (p : Double) : RiskDecision Double :=
  if model.isOn then
    { level := .High, escalate := true, restrictWrites := true, probability := p }
  else if 0.4 < p then
    { level := .Medium, escalate := false, restrictWrites := false, probability := p }
  else
    { level := .Low, escalate := false, restrictWrites := false, probability := p }

def evaluate (model : RiskModel) (detection : DetectionResult Double) :
    RiskModel × RiskDecision Double :=
  let p := pMax detection
  let model := model.switch p
  (model, model.decision p)

def machine (Double : Type) [DoubleArithmetic Double] :
    Machine RiskModel (DetectionResult Double) (RiskDecision Double) where
  step := evaluate

/-! ## Decisions -/

theorem decision_level_eq_high_iff (model : RiskModel) (p : Double) :
    (model.decision p).level = .High ↔ model.isOn = true := by
  cases on : model.isOn with
  | true => simp [decision, on]
  | false =>
      simp only [decision, on, Bool.false_eq_true, if_false, iff_false]
      split <;> simp

theorem decision_restrictWrites (model : RiskModel) (p : Double) :
    (model.decision p).restrictWrites = model.isOn := by
  cases on : model.isOn with
  | true => simp [decision, on]
  | false =>
      simp only [decision, on, Bool.false_eq_true, if_false]
      split <;> rfl

theorem decision_escalate (model : RiskModel) (p : Double) :
    (model.decision p).escalate = model.isOn := by
  cases on : model.isOn with
  | true => simp [decision, on]
  | false =>
      simp only [decision, on, Bool.false_eq_true, if_false]
      split <;> rfl

@[simp] theorem decision_probability (model : RiskModel) (p : Double) :
    (model.decision p).probability = p := by
  unfold decision
  split
  · rfl
  · split <;> rfl

theorem decision_level_of_off {model : RiskModel} (off : model.isOn = false)
    (p : Double) :
    (model.decision p).level = if 0.4 < p then .Medium else .Low := by
  simp only [decision, off, Bool.false_eq_true, if_false]
  split <;> rfl

theorem evaluate_level_eq_high_iff (model : RiskModel)
    (detection : DetectionResult Double) :
    (model.evaluate detection).2.level = .High ↔
      (model.evaluate detection).1.isOn = true :=
  decision_level_eq_high_iff _ _

@[simp] theorem evaluate_probability (model : RiskModel)
    (detection : DetectionResult Double) :
    (model.evaluate detection).2.probability = pMax detection :=
  decision_probability _ _

theorem evaluate_restrictWrites (model : RiskModel)
    (detection : DetectionResult Double) :
    (model.evaluate detection).2.restrictWrites =
      (model.evaluate detection).1.isOn :=
  decision_restrictWrites _ _

theorem evaluate_isOn_iff_of_off {model : RiskModel} (off : model.isOn = false)
    (detection : DetectionResult Double) :
    (model.evaluate detection).1.isOn = true ↔ tauOn ≤ pMax detection := by
  by_cases reached : (tauOn : Double) ≤ pMax detection
  · simp [evaluate, switch, off, reached]
  · simp [evaluate, switch, off, reached]

theorem evaluate_isOn_iff_of_on {model : RiskModel} (on : model.isOn = true)
    (detection : DetectionResult Double) :
    (model.evaluate detection).1.isOn = true ↔ ¬pMax detection ≤ tauOff := by
  by_cases reached : pMax detection ≤ (tauOff : Double)
  · simp [evaluate, switch, on, reached]
  · simp [evaluate, switch, on, reached]

theorem evaluate_of_tauOn_le {model : RiskModel} {detection : DetectionResult Double}
    (off : model.isOn = false) (reached : tauOn ≤ pMax detection) :
    model.evaluate detection =
      ({ isOn := true }, ⟨.High, true, true, pMax detection⟩) := by
  simp [evaluate, switch, decision, off, reached]

end RiskModel

end Prism.Risk
