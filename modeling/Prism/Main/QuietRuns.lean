import Prism.Main.Pipeline

/-! # Quiet runs

A run of the pipeline from a risk model that is off makes no High decision exactly
if no emitted window is alarming by itself.
-/

namespace Prism.Main

open Prism.Risk Prism.Windowing

variable {Double : Type} [DoubleArithmetic Double]

theorem assess_riskModel (components : Components) (environment : Environment)
    (record : ParsedRecord) (window : Window) :
    (components.assess environment record window :
        Components × Evaluation Double).1.riskModel =
      (components.riskModel.evaluate (detect environment.orders window :
        DetectionResult Double)).1 := rfl

theorem assess_decision (components : Components) (environment : Environment)
    (record : ParsedRecord) (window : Window) :
    (components.assess environment record window :
        Components × Evaluation Double).2.decision =
      (components.riskModel.evaluate (detect environment.orders window)).2 := rfl

variable (Double) in
def StaysQuiet (environment : Environment) (components : Components)
    (records : List ParsedRecord) : Prop :=
  ∀ evaluation ∈
      ((pipeline Double environment).outputs components records).reduceOption,
    evaluation.decision.level ≠ .High ∧ evaluation.decision.restrictWrites = false

variable (Double) in
def IsAlarming (environment : Environment) (window : Window) : Prop :=
  window.records ≠ [] ∧
    RiskModel.tauOn ≤
      RiskModel.pMax (detect environment.orders window : DetectionResult Double)

variable (Double) in
theorem assess_quiet_iff (components : Components)
    (off : components.riskModel.isOn = false) (environment : Environment)
    (record : ParsedRecord) {window : Window} (nonempty : window.records ≠ []) :
    let assessed : Components × Evaluation Double :=
      components.assess environment record window
    (assessed.2.decision.level ≠ .High ∧
        assessed.2.decision.restrictWrites = false ↔
      ¬IsAlarming Double environment window) ∧
      (¬IsAlarming Double environment window →
        assessed.1.riskModel.isOn = false) := by
  intro assessed
  have alarmIff : assessed.1.riskModel.isOn = true ↔
      IsAlarming Double environment window := by
    rw [assess_riskModel, RiskModel.evaluate_isOn_iff_of_off off, IsAlarming,
      and_iff_right nonempty]
  rw [← alarmIff, assess_decision, ne_eq, RiskModel.evaluate_level_eq_high_iff,
    RiskModel.evaluate_restrictWrites, ← assess_riskModel components environment record]
  rw [Bool.not_eq_true]
  exact ⟨and_self_iff, id⟩

theorem pipeline_step_of_skipped {components : Components} {record : ParsedRecord}
    (skipped : (components.windowManager.addRecord record {}).emitted = false ∨
      (components.windowManager.addRecord record {}).outWindow.records = [])
    (environment : Environment) :
    (pipeline Double environment).step components record =
      ({ components with
          windowManager := (components.windowManager.addRecord record {}).manager },
        none) := by
  rcases skipped with silent | empty
  · simp [pipeline, silent]
  · simp [pipeline, empty]

theorem pipeline_step_of_evaluated {components : Components} {record : ParsedRecord}
    (emitted : (components.windowManager.addRecord record {}).emitted = true)
    (nonempty : (components.windowManager.addRecord record {}).outWindow.records ≠ [])
    (environment : Environment) :
    let result := components.windowManager.addRecord record {}
    let assessed : Components × Evaluation Double :=
      { components with windowManager := result.manager }.assess environment record
        result.outWindow
    (pipeline Double environment).step components record =
      (assessed.1, some assessed.2) := by
  simp [pipeline, emitted, nonempty]

/-- A run is quiet exactly if none of its windows is alarming. -/
theorem staysQuiet_iff (environment : Environment) {components : Components}
    (off : components.riskModel.isOn = false) (records : List ParsedRecord) :
    StaysQuiet Double environment components records ↔
      ∀ window ∈
          ((WindowManager.machine ParsedRecord).outputs components.windowManager
            records).reduceOption,
        ¬IsAlarming Double environment window := by
  induction records generalizing components with
  | nil => simp [StaysQuiet]
  | cons record records induction =>
      rw [StaysQuiet, Machine.outputs_cons, Machine.outputs_cons,
        Machine.reduceOption_cons, Machine.reduceOption_cons, List.forall_mem_append,
        List.forall_mem_append]
      change _ ∧ StaysQuiet Double environment _ records ↔ _
      simp only [WindowManager.machine]
      cases emitted : (components.windowManager.addRecord record {}).emitted with
      | false =>
          rw [pipeline_step_of_skipped (.inl emitted)]
          refine and_congr (by simp) ?_
          exact induction off
      | true =>
          by_cases empty :
              (components.windowManager.addRecord record {}).outWindow.records = []
          · rw [pipeline_step_of_skipped (.inr empty)]
            refine and_congr (by simp [IsAlarming, empty]) ?_
            exact induction off
          · rw [pipeline_step_of_evaluated emitted empty]
            have quiet := assess_quiet_iff Double
              { components with
                windowManager :=
                  (components.windowManager.addRecord record {}).manager }
              off environment record empty
            simp only [Option.toList_some, List.forall_mem_singleton, quiet.1, if_true]
            refine and_congr_right ?_
            intro notAlarming
            exact induction (quiet.2 notAlarming)

end Prism.Main
